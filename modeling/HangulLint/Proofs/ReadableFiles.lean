import HangulLint.Encoding.Charset
import HangulLint.Proofs.ExactDecoding
import HangulLint.Proofs.FileScan
import HangulLint.Proofs.Selection

/-!
# Which files can be read

A file is read, or it is told as unreadable, with its path and a reason in words. There is no third
outcome where the path can be a file's and the guesser answers, whatever the answer is: none, an
empty name, one that stands for nothing, or one of an encoding that the bytes are not in. The path
of a file that was selected can be a file's.

What codecs there are is a question of the library, of which nothing is assumed. The bytes that can
be read are told without running a decoder: UTF-16 behind its mark, UTF-8, or what the library reads
under the name that is guessed.

* `Utf16.WellFormed`, `Utf16.exists_decode_iff` — well-formed UTF-16, told by the units;
* `Source.Readable`, `Source.exists_decode_iff` — the bytes that can be read;
* `Scope.hasNul_of_mem_select` — the paths of files that are selected;
* `readSource_exact` — a file is read, or told as unreadable, and which of the two.
-/

namespace HangulLint

/-! ### UTF-16 -/

namespace Utf16

/-- **Well-formed UTF-16:** units that are no surrogates, and high surrogates with a low one behind
each. -/
inductive WellFormed (order : ByteOrder) : List UInt8 → Prop where
  | nil : WellFormed order []
  | single {b₀ b₁ : UInt8} {rest : List UInt8}
      (scalar : ¬ (0xD800 ≤ order.unit b₀ b₁ ∧ order.unit b₀ b₁ < 0xE000))
      (more : WellFormed order rest) : WellFormed order (b₀ :: b₁ :: rest)
  | pair {b₀ b₁ b₂ b₃ : UInt8} {rest : List UInt8}
      (high : 0xD800 ≤ order.unit b₀ b₁ ∧ order.unit b₀ b₁ < 0xDC00)
      (low : 0xDC00 ≤ order.unit b₂ b₃ ∧ order.unit b₂ b₃ < 0xE000)
      (more : WellFormed order rest) : WellFormed order (b₀ :: b₁ :: b₂ :: b₃ :: rest)

variable {order : ByteOrder} {unit : Nat} {bs : List UInt8}

theorem isHigh_iff : isHigh unit = true ↔ 0xD800 ≤ unit ∧ unit < 0xDC00 := by
  rw [isHigh, Bool.and_eq_true, decide_eq_true_eq, decide_eq_true_eq]

theorem isLow_iff : isLow unit = true ↔ 0xDC00 ≤ unit ∧ unit < 0xE000 := by
  rw [isLow, Bool.and_eq_true, decide_eq_true_eq, decide_eq_true_eq]

/-- Behind a high surrogate there is a low one. -/
theorem WellFormed.exists_low {b₀ b₁ : UInt8} {rest : List UInt8}
    (h : WellFormed order (b₀ :: b₁ :: rest)) (hhigh : isHigh (order.unit b₀ b₁) = true) :
    ∃ b₂ b₃ more, rest = b₂ :: b₃ :: more ∧ isLow (order.unit b₂ b₃) = true ∧
      WellFormed order more := by
  have hhigh := isHigh_iff.1 hhigh
  cases h with
  | single scalar _ => exact absurd ⟨hhigh.1, by omega⟩ scalar
  | pair _ low more => exact ⟨_, _, _, rfl, isLow_iff.2 low, more⟩

theorem exists_decodeFrom_iff {position : Nat} {before : List Char} :
    (∃ cs, decodeFrom order position before bs = .ok cs) ↔ WellFormed order bs := by
  fun_induction decodeFrom order position before bs with
  | case1 => exact ⟨fun _ => .nil, fun _ => ⟨_, rfl⟩⟩
  | case2 position before b =>
    refine iff_of_false (by simp) fun h => ?_
    cases h
  | case3 position before b₀ b₁ rest unit hlow =>
    -- no constructor begins with a low surrogate
    have hlow := isLow_iff.1 hlow
    refine iff_of_false (by simp) fun h => ?_
    cases h with
    | single scalar _ => exact absurd ⟨by omega, hlow.2⟩ scalar
    | pair high _ _ => omega
  | case4 position before b₀ b₁ unit hlow hhigh b₂ b₃ rest next hnext value ih =>
    refine ih.trans ⟨.pair (isHigh_iff.1 hhigh) (isLow_iff.1 hnext), fun h => ?_⟩
    obtain ⟨_, _, _, heq, -, hmore⟩ := h.exists_low hhigh
    cases heq
    exact hmore
  | case5 position before b₀ b₁ unit hlow hhigh b₂ b₃ rest next hnext =>
    refine iff_of_false (by simp) fun h => ?_
    obtain ⟨_, _, _, heq, hlow', -⟩ := h.exists_low hhigh
    cases heq
    exact hnext hlow'
  | case6 position before b₀ b₁ unit hlow hhigh rest hshort =>
    refine iff_of_false (by simp) fun h => ?_
    obtain ⟨_, _, _, heq, -⟩ := h.exists_low hhigh
    exact hshort _ _ _ heq
  | case7 position before b₀ b₁ rest unit hlow hhigh ih =>
    rw [isLow_iff] at hlow
    rw [isHigh_iff] at hhigh
    refine ih.trans ⟨.single (by omega), fun h => ?_⟩
    cases h with
    | single _ more => exact more
    | pair high _ _ => exact absurd high hhigh

/-- **Just what is well-formed can be read,** in either byte order. -/
theorem exists_decode_iff {offset : Nat} :
    (∃ cs, decode order offset bs = .ok cs) ↔ WellFormed order bs :=
  exists_decodeFrom_iff

end Utf16

/-! ### The bytes of a file -/

namespace Source

/-- Bytes without the mark of UTF-16 and without a zero. -/
structure Plain (bs : List UInt8) : Prop where
  unmarked : ∀ order : Utf16.ByteOrder, ¬ order.mark <+: bs
  nonzero : 0 ∉ bs

/-- **The bytes that can be read,** if there is such an answer about them. -/
inductive Readable (library : Library) (answer : Option Text) (bs : List UInt8) : Prop where
  /-- UTF-16 behind its mark. -/
  | utf16 (order : Utf16.ByteOrder) (rest : List UInt8) (marked : bs = order.mark ++ rest)
      (well : Utf16.WellFormed order rest)
  /-- UTF-8, with or without its signature. -/
  | utf8 (plain : Plain bs) (well : Utf8.WellFormed (Utf8.dropSignature bs))
  /-- What is neither, but is in the encoding that is guessed. -/
  | guessed (plain : Plain bs) (ill : ¬ Utf8.WellFormed (Utf8.dropSignature bs)) (name : Text)
      (content : List Char) (named : answer = some name) (proper : name ≠ [])
      (read : library name bs = .text content)

variable {library : Library} {guesser : Guesser} {answer : Option Text} {bs : List UInt8}
  {order : Utf16.ByteOrder}

/-! #### The three ways of decoding -/

/-- **How a file is decoded.** One of the three ways is open to it. -/
inductive Way (bs : List UInt8) : Prop where
  /-- It opens with a mark. -/
  | marked (order : Utf16.ByteOrder) (rest : List UInt8) (opening : bs = order.mark ++ rest)
  /-- It is read as UTF-8. -/
  | utf8 (unmarked : ∀ order : Utf16.ByteOrder, ¬ order.mark <+: bs) (content : List Char)
      (read : Utf8.decode? (Utf8.dropSignature bs) = some content)
  /-- It is left to the guesser. -/
  | guess (unmarked : ∀ order : Utf16.ByteOrder, ¬ order.mark <+: bs)
      (unread : Utf8.decode? (Utf8.dropSignature bs) = none)

theorem way (bs : List UInt8) : Way bs := by
  by_cases hmarked : ∃ order : Utf16.ByteOrder, order.mark <+: bs
  · obtain ⟨order, rest, rfl⟩ := hmarked
    exact .marked order rest rfl
  have hunmarked : ∀ order : Utf16.ByteOrder, ¬ order.mark <+: bs := not_exists.1 hmarked
  cases hread : Utf8.decode? (Utf8.dropSignature bs) with
  | some content => exact .utf8 hunmarked content hread
  | none => exact .guess hunmarked hread

/-- A guess that leads to nothing makes the file unreadable, for a reason that has words. -/
theorem exists_reason_of_guess {fault : Fault}
    (h : decodeGuessed library (.label answer) bs = .error fault) (path : Path) :
    ∃ reason, fault.inFile path = .unreadable path reason ∧
      ∀ message, reason = .told message → message ≠ [] := by
  cases answer with
  | none =>
    obtain rfl := Except.error.inj h
    exact ⟨_, rfl, by simp⟩
  | some name =>
    cases name with
    | nil =>
      obtain rfl := Except.error.inj h
      exact ⟨_, rfl, by simp⟩
    | cons first rest =>
      simp only [decodeGuessed] at h
      split at h
      · simp at h
      · obtain rfl := Except.error.inj h
        exact ⟨_, rfl, by simp⟩
      · next message spoken _ =>
        -- a codec that gives up in its own words has some
        obtain rfl := Except.error.inj h
        refine ⟨.told message, rfl, fun message' heq => ?_⟩
        obtain rfl := Reason.told.inj heq
        exact spoken

/-- What goes wrong makes the file unreadable, for a reason that has words. -/
theorem exists_reason (hanswer : guesser bs = .label answer) {fault : Fault}
    (h : decode library guesser bs = .error fault) (path : Path) :
    ∃ reason, fault.inFile path = .unreadable path reason ∧
      ∀ message, reason = .told message → message ≠ [] := by
  cases way bs with
  | marked order rest opening =>
    obtain ⟨defect, rfl⟩ := exists_malformed ⟨rest, opening.symm⟩ h
    exact ⟨_, rfl, by simp⟩
  | utf8 unmarked content read =>
    rw [decode_of_utf8 unmarked read] at h
    simp at h
  | guess unmarked unread =>
    rw [decode_of_guess unmarked unread, hanswer] at h
    exact exists_reason_of_guess h path

/-! #### What can be read -/

/-- No two marks open the same file. -/
theorem mark_inj {order' : Utf16.ByteOrder} {rest rest' : List UInt8}
    (h : order.mark ++ rest = order'.mark ++ rest') : order = order' ∧ rest = rest' := by
  have horder := congrArg Utf16.markedOrder? h
  rw [Utf16.markedOrder?_mark, Utf16.markedOrder?_mark] at horder
  obtain rfl := Option.some.inj horder
  exact ⟨rfl, List.append_cancel_left h⟩

theorem readable_of_marked {rest : List UInt8} :
    Readable library answer (order.mark ++ rest) ↔ Utf16.WellFormed order rest := by
  constructor
  · intro h
    cases h with
    | utf16 order' rest' marked well =>
      obtain ⟨rfl, rfl⟩ := mark_inj marked
      exact well
    | utf8 plain _ => exact absurd (List.prefix_append _ _) (plain.unmarked order)
    | guessed plain _ _ _ _ _ _ => exact absurd (List.prefix_append _ _) (plain.unmarked order)
  · exact .utf16 order rest rfl

/-- A guess leads to a text if it is a proper name under which the library reads one. -/
theorem exists_decodeGuessed_iff :
    (∃ content, decodeGuessed library (.label answer) bs = .ok content) ↔
      ∃ name content, answer = some name ∧ name ≠ [] ∧ library name bs = .text content := by
  cases answer with
  | none => simp [decodeGuessed]
  | some name =>
    cases name with
    | nil => simp [decodeGuessed]
    | cons first rest => cases hread : library (first :: rest) bs <;> simp [decodeGuessed, hread]

/-- A zero byte tells a file as binary, unless a mark stands at its front. -/
theorem looksBinary_eq_false_iff (h : ∀ order : Utf16.ByteOrder, ¬ order.mark <+: bs) :
    looksBinary bs = false ↔ Plain bs := by
  have hplain : Plain bs ↔ 0 ∉ bs := ⟨Plain.nonzero, Plain.mk h⟩
  rw [looksBinary, Utf16.markedOrder?_eq_none_iff.2 h, hplain]
  simp

theorem looksBinary_of_marked (order : Utf16.ByteOrder) (rest : List UInt8) :
    looksBinary (order.mark ++ rest) = false := by
  rw [looksBinary, Utf16.markedOrder?_mark]
  rfl

/-- **Just the readable can be read:** what is not taken for binary and has characters. -/
theorem exists_decode_iff (hanswer : guesser bs = .label answer) :
    (looksBinary bs = false ∧ ∃ content, decode library guesser bs = .ok content) ↔
      Readable library answer bs := by
  cases way bs with
  | marked order rest opening =>
    subst opening
    have hread : (∃ cs, Utf16.decode order order.mark.length rest = .ok cs) ↔
        Utf16.WellFormed order rest := Utf16.exists_decode_iff
    rw [readable_of_marked, decode_of_marked (List.prefix_append _ _), List.drop_left,
      looksBinary_of_marked, ← hread]
    cases Utf16.decode order order.mark.length rest <;> simp [Except.mapError]
  | utf8 unmarked content read =>
    have hwell := Utf8.exists_decode?_iff.1 ⟨content, read⟩
    rw [looksBinary_eq_false_iff unmarked, decode_of_utf8 unmarked read]
    refine ⟨fun h => .utf8 h.1 hwell, fun h => ⟨?_, content, rfl⟩⟩
    cases h with
    | utf16 order rest marked _ => exact absurd ⟨rest, marked.symm⟩ (unmarked order)
    | utf8 plain _ => exact plain
    | guessed plain _ _ _ _ _ _ => exact plain
  | guess unmarked unread =>
    have hill := Utf8.decode?_eq_none_iff.1 unread
    rw [looksBinary_eq_false_iff unmarked, decode_of_guess unmarked unread, hanswer,
      exists_decodeGuessed_iff]
    constructor
    · rintro ⟨plain, name, content, hnamed, hproper, hcontent⟩
      exact .guessed plain hill name content hnamed hproper hcontent
    · intro h
      cases h with
      | utf16 order rest marked _ => exact absurd ⟨rest, marked.symm⟩ (unmarked order)
      | utf8 _ well => exact absurd well hill
      | guessed plain _ name content named proper read =>
        exact ⟨plain, name, content, named, proper, read⟩

end Source

/-! ### The file at a path -/

/-- Every reason is worded, save that the words of others are taken as they are. -/
theorem Reason.text_ne_nil {reason : Reason}
    (h : ∀ message, reason = .told message → message ≠ []) : reason.text ≠ [] := by
  cases reason with
  | os cause => cases cause <;> decide
  | binary => decide
  | malformed fault =>
    have hquote : Text.ofString "'" ≠ [] := by decide
    simp [text, Source.Fault.message, Utf16.Fault.message, hquote]
  | undecodable guess =>
    have hclosing : Text.ofString ")" ≠ [] := by decide
    simp [text, Source.Fault.message, hclosing]
  | told message => exact h message rfl

/-- **No path of a selected file holds a zero character.** -/
theorem Scope.hasNul_of_mem_select {scope : Scope} {site : Site}
    {size : Path → Except OsError Nat} {selection : Selection}
    (h : scope.select site size = .ok selection) {target : Target}
    (htarget : target ∈ selection.targets) : target.2.hasNul = false := by
  obtain ⟨found, -, hselect, -⟩ := select_eq_ok_iff.1 h
  rw [(selectFrom_ok hselect).1] at htarget
  obtain ⟨path, hpath, rfl⟩ := List.mem_map.1 htarget
  -- a path with a zero character is not that of a file
  have hfile := (picks_iff.1 (List.mem_filter.1 hpath).2).2.1
  cases hnul : path.hasNul with
  | false => exact hnul
  | true =>
    rw [Site.isFile, if_pos hnul] at hfile
    simp at hfile

section Reading

variable {library : Source.Library} {guesser : Guesser} {site : Site} {path : Path}
  {bytes : List UInt8}

theorem readSource_of_bytes (hbytes : site.read path = .ok bytes) :
    readSource site library guesser path =
      if Source.looksBinary bytes then .error (.unreadable path .binary)
      else (Source.decode library guesser bytes).mapError (·.inFile path) := by
  rw [readSource, hbytes]

/-- A path that can be a file's is only refused by the system. -/
theorem Site.exists_cause (hnul : path.hasNul = false) {fault : OpenFault}
    (h : site.read path = .error fault) : ∃ error, fault = .os error := by
  rw [read, hnul] at h
  cases fault with
  | os error => exact ⟨error, rfl⟩
  | nul =>
    simp only [Bool.false_eq_true, if_false] at h
    split at h <;> simp at h

/-- **What is not read is unreadable,** and the reason has words. -/
theorem exists_unreadable (hnul : path.hasNul = false)
    (hanswers : ∀ bytes, ∃ answer, guesser bytes = .label answer) {fault : FileFault}
    (h : readSource site library guesser path = .error fault) :
    ∃ reason, fault = .unreadable path reason ∧ reason.text ≠ [] := by
  cases hfile : site.read path with
  | error refusal =>
    obtain ⟨error, rfl⟩ := Site.exists_cause hnul hfile
    rw [readSource, hfile] at h
    exact ⟨_, (Except.error.inj h).symm, Reason.text_ne_nil (by simp)⟩
  | ok bytes =>
    rw [readSource_of_bytes hfile] at h
    split at h
    · exact ⟨_, (Except.error.inj h).symm, Reason.text_ne_nil (by simp)⟩
    · cases hdecode : Source.decode library guesser bytes with
      | ok content => simp [hdecode, Except.mapError] at h
      | error fault' =>
        rw [hdecode] at h
        obtain ⟨answer, hanswer⟩ := hanswers bytes
        obtain ⟨reason, hreason, hspoken⟩ := Source.exists_reason hanswer hdecode path
        exact ⟨reason, (Except.error.inj h).symm.trans hreason, Reason.text_ne_nil hspoken⟩

/-- A file is read exactly if its bytes can be. -/
theorem exists_readSource_iff {answer : List UInt8 → Option Text}
    (hanswer : ∀ bytes, guesser bytes = .label (answer bytes)) :
    (∃ content, readSource site library guesser path = .ok content) ↔
      ∃ bytes, site.read path = .ok bytes ∧ Source.Readable library (answer bytes) bytes := by
  cases hfile : site.read path with
  | error fault => cases fault <;> simp [readSource, hfile]
  | ok bytes =>
    have hreadable : (∃ content, readSource site library guesser path = .ok content) ↔
        Source.Readable library (answer bytes) bytes := by
      rw [readSource_of_bytes hfile, ← Source.exists_decode_iff (hanswer bytes)]
      cases Source.looksBinary bytes <;> cases Source.decode library guesser bytes <;>
        simp [Except.mapError]
    rw [hreadable]
    constructor
    · exact fun h => ⟨bytes, rfl, h⟩
    · rintro ⟨bytes', heq, h⟩
      obtain rfl := Except.ok.inj heq
      exact h

/-- **A file is read, or told as unreadable.** Let there be any codecs, and let a guesser give any
answers. If the path holds no zero character, which that of a selected file never does, then there
is a text, or the fault is that the file at this very path is unreadable, for a reason that has
words. There is a text exactly if the system gives the bytes of the file and these can be read. -/
theorem readSource_exact :
    (∀ (scope : Scope) (site : Site) size selection, scope.select site size = .ok selection →
      ∀ target ∈ selection.targets, target.2.hasNul = false) ∧
    ∀ library site (answer : List UInt8 → Option Text) path, path.hasNul = false →
      let read := readSource site library (fun bytes => .label (answer bytes)) path
      ((∃ content, read = .ok content) ∨
        ∃ reason, read = .error (.unreadable path reason) ∧ reason.text ≠ []) ∧
      ((∃ content, read = .ok content) ↔
        ∃ bytes, site.read path = .ok bytes ∧ Source.Readable library (answer bytes) bytes) := by
  refine ⟨fun _ _ _ _ hselect _ => Scope.hasNul_of_mem_select hselect,
    fun library site answer path hnul => ⟨?_, exists_readSource_iff fun _ => rfl⟩⟩
  cases hread : readSource site library (fun bytes => .label (answer bytes)) path with
  | ok content => exact .inl ⟨content, rfl⟩
  | error fault =>
    obtain ⟨reason, rfl, hwords⟩ := exists_unreadable hnul (fun bytes => ⟨answer bytes, rfl⟩) hread
    exact .inr ⟨reason, rfl, hwords⟩

/-- A selected file in a Western encoding is read if that is guessed, and unreadable if the name
that is guessed is not that of an encoding of texts. -/
theorem readSource_exact_western :
    let site := soleFile [0x22, 0xE9, 0x22]
    let scope : Scope := ⟨⟨.root, []⟩, [Glob.parse "*.cs"], [], none⟩
    let path : Path := ⟨.root, ["a.cs"]⟩
    scope.select site site.size = .ok ⟨[Scope.target path], []⟩ ∧ path.hasNul = false ∧
      (∃ content, readSource site Charset.library (fun _ => .label (some "ISO-8859-1")) path =
        .ok content) ∧
      ∃ reason, readSource site Charset.library (fun _ => .label (some "hex")) path =
        .error (.unreadable path reason) ∧ reason.text ≠ [] := by
  intro site scope path
  obtain ⟨hselected, hexact⟩ := readSource_exact
  have hselect : scope.select site site.size = .ok ⟨[Scope.target path], []⟩ := by cbv
  have hnul : path.hasNul = false :=
    hselected scope site site.size _ hselect _ (List.mem_singleton_self _)
  have hbytes : site.read path = .ok [0x22, 0xE9, 0x22] := by cbv
  have hplain : Source.Plain [0x22, 0xE9, 0x22] :=
    ⟨fun order => by cases order <;> decide, by decide⟩
  have hill : ¬ Utf8.WellFormed (Utf8.dropSignature [0x22, 0xE9, 0x22]) :=
    Utf8.decode?_eq_none_iff.1 (by cbv)
  refine ⟨hselect, hnul, ?_, ?_⟩
  · exact (hexact Charset.library site (fun _ => some "ISO-8859-1") path hnul).2.2 ⟨_, hbytes,
      .guessed hplain hill "ISO-8859-1" ['"', 'é', '"'] rfl (by decide) (by decide +kernel)⟩
  · obtain ⟨hsettled, hread⟩ := hexact Charset.library site (fun _ => some "hex") path hnul
    refine hsettled.resolve_left fun h => ?_
    obtain ⟨bytes, hbytes', hreadable⟩ := hread.1 h
    obtain rfl := Except.ok.inj (hbytes.symm.trans hbytes')
    cases hreadable with
    | utf16 order rest marked _ => exact hplain.unmarked order ⟨rest, marked.symm⟩
    | utf8 _ well => exact hill well
    | guessed _ _ name content named _ read =>
      obtain rfl := Option.some.inj named
      have hunknown : Charset.library "hex" [0x22, 0xE9, 0x22] = .refused := by decide +kernel
      exact absurd (hunknown.symm.trans read) (by simp)

end Reading

end HangulLint
