import HangulLint.Proofs.Content
import HangulLint.Proofs.Trimming
import HangulLint.Program
import Mathlib

/-!
# Comma lists

A setting of several entries is one text with commas between them. It gives the entries back that it
was joined from exactly if each of them can be listed: it is not empty, holds no comma and has no
blank at its ends. Whatever else is written there, what is read can be listed, so that reading once
is enough: joined again, it is read as the same.

The settings that hold where nothing is told are such lists, and they are read as the entries that
they are made of. A word that is empty occurs in every line, so that nothing would be reported; no
command line can name it.

* `Listable` — what can be an entry;
* `entries_joined_iff`, `listable_of_mem_entries` — lists give back what can be listed, and nothing
  else;
* `Options.parse_setting` — a setting that the command line does not name stays as it is;
* `commaList_exact` — comma lists, and what the settings make of them.
-/

namespace HangulLint

section Entries

variable {α : Type} [DecidableEq α] {sep : α} {blank : α → Bool} {entry : List α}

/-- **What can be an entry of a list.** -/
structure Listable (sep : α) (blank : α → Bool) (entry : List α) : Prop where
  /-- It is not empty. -/
  ne_nil : entry ≠ []
  /-- It does not hold the separator. -/
  whole : sep ∉ entry
  /-- It has no blank at its ends. -/
  bare : Bare blank entry

instance (sep : α) (blank : α → Bool) (entry : List α) : Decidable (Listable sep blank entry) :=
  decidable_of_iff (entry ≠ [] ∧ sep ∉ entry ∧ Bare blank entry)
    ⟨fun h => ⟨h.1, h.2.1, h.2.2⟩, fun h => ⟨h.ne_nil, h.whole, h.bare⟩⟩

/-- **What is read can be listed.** -/
theorem listable_of_mem_entries {s : List α} (h : entry ∈ entries sep blank s) :
    Listable sep blank entry := by
  obtain ⟨hmem, hfilled⟩ := List.mem_filter.1 h
  obtain ⟨piece, hpiece, rfl⟩ := List.mem_map.1 hmem
  refine ⟨by simpa using hfilled, fun hsep => ?_, bare_stripWhile blank piece⟩
  exact sep_notMem_of_mem_pieces hpiece ((stripWhile_isInfix blank piece).subset hsep)

/-- What can be listed is read as it was joined. -/
theorem entries_joined {parts : List (List α)} (h : ∀ part ∈ parts, Listable sep blank part) :
    entries sep blank (joined [sep] parts) = parts := by
  cases parts with
  | nil => rfl
  | cons first more =>
    -- the pieces are the parts, of which nothing is cut off, and none of which is empty
    have hpieces : pieces sep (joined [sep] (first :: more)) = first :: more := by
      rw [pieces_joined sep (List.cons_ne_nil _ _),
        List.flatMap_congr fun _ hpart => pieces_of_notMem (h _ hpart).whole]
      exact List.flatMap_singleton' _
    have hstrip : (first :: more).map (stripWhile blank) = first :: more :=
      (List.map_congr_left fun _ hpart => (h _ hpart).bare.stripWhile_eq).trans
        (List.map_id _)
    rw [entries, hpieces, hstrip, List.filter_eq_self]
    intro part hpart
    simpa using (h part hpart).ne_nil

/-- **Lists give back what can be listed,** and nothing else. -/
theorem entries_joined_iff {parts : List (List α)} :
    entries sep blank (joined [sep] parts) = parts ↔ ∀ part ∈ parts, Listable sep blank part :=
  ⟨fun h _ hpart => listable_of_mem_entries (h ▸ hpart), entries_joined⟩

end Entries

/-- A text has just the characters that it is made of. -/
theorem Text.chars?_eq_some_iff {t : Text} {cs : List Char} :
    Text.chars? t = some cs ↔ t = Text.ofChars cs := by
  constructor
  · intro h
    induction t generalizing cs with
    | nil => exact (Option.some.inj h) ▸ rfl
    | cons g t ih =>
      cases g with
      | scalar c =>
        obtain ⟨rest, hrest, rfl⟩ := Option.map_eq_some_iff.1 h
        rw [ih hrest]
        rfl
      | stray b => simp [Text.chars?] at h
  · rintro rfl
    exact Text.chars?_ofChars cs

theorem Text.filterMap_chars?_ofString (words : List String) :
    (words.map Text.ofString).filterMap Text.chars? = words.map String.toList := by
  have hchars : Text.chars? ∘ Text.ofString = some ∘ String.toList :=
    funext fun word => Text.chars?_ofChars word.toList
  rw [List.filterMap_map, hchars, List.filterMap_eq_map]

/-! ### Settings of several entries -/

namespace Options

/-- The text of a setting of several entries. -/
def setting (options : Options) : Switch → Text
  | .globs => options.globs
  | .excludedWords => options.excludedWords
  | .excludedDirs => options.excludedDirs
  | _ => []

/-- The entries of the same setting where nothing is told. -/
def standardEntries : Switch → List String
  | .globs => standardGlobs
  | .excludedWords => Rule.standardWords
  | .excludedDirs => standardExcludedDirs
  | _ => []

/-- Whether a command line names an option. -/
def Names (arguments : List Text) (switch : Switch) : Prop :=
  ∃ classified attached, Argument.classify arguments = .ok classified ∧
    .option switch attached ∈ classified

variable {options options' : Options} {switch other : Switch} {value : Text}
  {state final : ParseState} {arguments : List Argument}

/-- An option sets its own setting and no other. -/
theorem setting_setValue (hne : other ≠ switch)
    (h : ParseState.setValue options other value = .ok options') :
    options'.setting switch = options.setting switch := by
  have hnumber : ∀ {set : Int → Options},
      (∀ n, (set n).setting switch = options.setting switch) →
      ParseState.setNumber other value set = .ok options' →
      options'.setting switch = options.setting switch := by
    intro set hset h
    unfold ParseState.setNumber at h
    split at h
    · next n _ => exact Except.ok.inj h ▸ hset n
    · simp at h
  cases other with
  | globs | excludedWords | excludedDirs =>
    obtain rfl := Except.ok.inj h
    cases switch <;> first | rfl | exact absurd rfl hne
  | workers | sizeLimit => exact hnumber (fun n => by cases switch <;> rfl) h
  | _ =>
    obtain rfl := Except.ok.inj h
    cases switch <;> rfl

theorem setting_setSwitch (h : ParseState.setSwitch options other = .ok options') :
    options'.setting switch = options.setting switch := by
  unfold ParseState.setSwitch at h
  split at h
  · simp at h
  all_goals
    obtain rfl := Except.ok.inj h
    cases switch <;> rfl

theorem setting_takePlain (state : ParseState) (value : Text) :
    (state.takePlain value).options.setting switch = state.options.setting switch := by
  unfold ParseState.takePlain
  split
  · rfl
  · cases switch <;> rfl

theorem setting_takeRest (state : ParseState) (arguments : List Argument) :
    (state.takeRest arguments).options.setting switch = state.options.setting switch := by
  unfold ParseState.takeRest
  split
  split
  · exact setting_takePlain _ _
  · rfl

theorem setting_takeOption {attached : Attached} {next : Option Argument} (hne : other ≠ switch)
    (h : state.takeOption other attached next = .ok final) :
    final.options.setting switch = state.options.setting switch := by
  have hattempt : ∀ {attempt : Except Ending Options},
      (∀ options, attempt = .ok options →
        options.setting switch = state.options.setting switch) →
      (attempt >>= fun options => pure { state with options := options }) = .ok final →
      final.options.setting switch = state.options.setting switch := by
    intro attempt hset h
    cases attempt with
    | error ending => simp [bind, Except.bind] at h
    | ok options => exact Except.ok.inj h ▸ hset options rfl
  unfold ParseState.takeOption at h
  dsimp only at h
  split at h
  any_goals exact hattempt (fun _ hset => setting_setValue hne hset) h
  any_goals exact hattempt (fun _ hset => setting_setSwitch hset) h
  all_goals simp [bind, Except.bind] at h

/-- What is not among the arguments stays as it is. -/
theorem setting_takeAll (h : ∀ attached, .option switch attached ∉ arguments)
    (hok : state.takeAll arguments = .ok final) :
    final.options.setting switch = state.options.setting switch := by
  fun_induction ParseState.takeAll state arguments with
  | case1 state => exact Except.ok.inj hok ▸ setting_takeRest state []
  | case2 state argument rest => exact Except.ok.inj hok ▸ setting_takeRest state _
  | case3 state rest value _ ih =>
    have hrest : ∀ attached, .option switch attached ∉ rest := fun attached hmem =>
      h attached (List.mem_cons_of_mem _ hmem)
    exact (ih hrest hok).trans (setting_takePlain state value)
  | case4 state rest => exact Except.ok.inj hok ▸ setting_takeRest state _
  | case5 state rest t _ ih =>
    exact ih (fun attached hmem => h attached (List.mem_cons_of_mem _ hmem)) hok
  | case6 => simp at hok
  | case7 state other attached next _ value rest htake _ ih =>
    -- the option takes the next argument with it
    have hne : other ≠ switch := fun heq => h attached (heq ▸ List.mem_cons_self)
    have hrest : ∀ attached, .option switch attached ∉ rest := fun attached hmem =>
      h attached (List.mem_cons_of_mem _ (List.mem_cons_of_mem _ hmem))
    exact (ih hrest hok).trans (setting_takeOption hne htake)
  | case8 state other attached next _ htake =>
    have hne : other ≠ switch := fun heq => h attached (heq ▸ List.mem_cons_self)
    exact Except.ok.inj hok ▸ (setting_takeRest next []).trans (setting_takeOption hne htake)
  | case9 state rest other attached next htake _ _ ih =>
    have hne : other ≠ switch := fun heq => h attached (heq ▸ List.mem_cons_self)
    have hrest : ∀ attached, .option switch attached ∉ rest := fun attached hmem =>
      h attached (List.mem_cons_of_mem _ hmem)
    exact (ih hrest hok).trans (setting_takeOption hne htake)

/-- **A setting that the command line does not name stays as it is.** -/
theorem parse_setting {arguments : List Text} (hparse : Options.parse arguments = .ok options)
    (h : ¬ Names arguments switch) : options.setting switch = standard.setting switch := by
  unfold Options.parse at hparse
  cases hclassify : Argument.classify arguments with
  | error misuse => simp [hclassify, Except.mapError, bind, Except.bind] at hparse
  | ok classified =>
    simp only [hclassify, Except.mapError, bind, Except.bind] at hparse
    split at hparse
    · simp at hparse
    · next final htake =>
      split at hparse
      · obtain rfl := Except.ok.inj hparse
        exact setting_takeAll (fun attached hmem => h ⟨classified, attached, hclassify, hmem⟩) htake
      · simp at hparse

/-! ### What is made of the settings -/

/-- Entries that can be listed are read as they are. -/
theorem commaList_listed {entries : List String}
    (h : ∀ entry ∈ entries, Listable (.scalar ',') Glyph.isBlank (Text.ofString entry)) :
    Text.commaList (listed entries) = entries.map Text.ofString := by
  refine entries_joined fun entry hentry => ?_
  obtain ⟨entry, hmem, rfl⟩ := List.mem_map.1 hentry
  exact h entry hmem

/-- The standard settings are read as the entries that they list. -/
theorem commaList_standard (switch : Switch) :
    Text.commaList (standard.setting switch) = (standardEntries switch).map Text.ofString := by
  cases switch with
  | globs => exact commaList_listed (by decide +kernel)
  | excludedWords => exact commaList_listed (by decide +kernel)
  | excludedDirs => rfl
  | _ => rfl

/-- The words of the rule are the entries, as far as characters can express them. -/
theorem mem_excluded_iff {target : Pattern.Node} {word : List Char} :
    word ∈ (options.rule target).excluded ↔
      Text.ofChars word ∈ Text.commaList options.excludedWords := by
  show word ∈ (Text.commaList options.excludedWords).filterMap Text.chars? ↔ _
  rw [List.mem_filterMap]
  constructor
  · rintro ⟨t, hmem, hchars⟩
    rwa [← Text.chars?_eq_some_iff.1 hchars]
  · exact fun hmem => ⟨_, hmem, Text.chars?_ofChars word⟩

end Options

/-- Where the empty word is excluded, no line is reported. -/
theorem Rule.report?_of_emptyWord {rule : Rule} (h : [] ∈ rule.excluded) (line : List Char) :
    rule.report? line = none := by
  have hexcludes : rule.excludes (trimLine line) = true :=
    List.any_eq_true.2 ⟨[], h, occursIn_iff.2 List.nil_infix⟩
  rw [report?, flags, hexcludes]
  rfl

/-- **Comma lists.** A list gives back the entries that it was joined from exactly if each can be
listed. Whatever is read from a text can be listed, and is read again where it is joined again. A
list setting that the command line does not name reaches the sweep as it stands in the program. The
empty word, for which no line would be reported, is never among those that a setting excludes. -/
theorem commaList_exact :
    (∀ words : List Text, Text.commaList (joined [.scalar ','] words) = words ↔
      ∀ word ∈ words, Listable (.scalar ',') Glyph.isBlank word) ∧
    (∀ value : Text,
      (∀ word ∈ Text.commaList value, Listable (.scalar ',') Glyph.isBlank word) ∧
      Text.commaList (joined [.scalar ','] (Text.commaList value)) = Text.commaList value) ∧
    (∀ arguments options, Options.parse arguments = .ok options →
      (¬ Options.Names arguments .globs → ∀ root,
        (options.scope root).globs = (standardGlobs.map Text.ofString).map Glob.parse) ∧
      (¬ Options.Names arguments .excludedDirs → ∀ root,
        (options.scope root).excludedDirs = standardExcludedDirs.map Text.ofString) ∧
      (¬ Options.Names arguments .excludedWords → ∀ target,
        (options.rule target).excluded = Rule.standardWords.map String.toList)) ∧
    (∀ rule : Rule, [] ∈ rule.excluded → ∀ line, rule.report? line = none) ∧
    ∀ (options : Options) target, [] ∉ (options.rule target).excluded := by
  refine ⟨fun words => entries_joined_iff, fun value => ?_, fun arguments options hparse => ?_,
    fun rule => Rule.report?_of_emptyWord, fun options target hempty => ?_⟩
  · have hlistable : ∀ word ∈ Text.commaList value, Listable (.scalar ',') Glyph.isBlank word :=
      fun word => listable_of_mem_entries
    exact ⟨hlistable, entries_joined hlistable⟩
  · -- a list that the command line does not name is the standard one, joined and split again
    have hread : ∀ {switch}, ¬ Options.Names arguments switch →
        Text.commaList (options.setting switch) =
          (Options.standardEntries switch).map Text.ofString := by
      intro switch hnames
      rw [Options.parse_setting hparse hnames, Options.commaList_standard]
    refine ⟨fun hnames root => ?_, fun hnames root => hread hnames, fun hnames target => ?_⟩
    · have hglobs : Text.commaList options.globs = standardGlobs.map Text.ofString := hread hnames
      rw [Options.scope, hglobs]
    · have hwords : Text.commaList options.excludedWords = Rule.standardWords.map Text.ofString :=
        hread hnames
      rw [Options.rule, hwords, Text.filterMap_chars?_ofString]
  · have hlistable := listable_of_mem_entries (Options.mem_excluded_iff.1 hempty)
    exact hlistable.ne_nil rfl

/-- A word with a blank inside is given back, a list with an empty entry is not; and a command line
that names other words leaves the name patterns as they are. -/
theorem commaList_exact_named :
    let arguments : List Text := ["d", "--exclude-words", " , Log. ,\u3000"]
    let words : List Text := ["a b", "c"]
    let gaps : List Text := ["a", "", "c"]
    (∀ word ∈ words, Listable (.scalar ',') Glyph.isBlank word) ∧
      Text.commaList (joined [.scalar ','] words) = words ∧
      Text.commaList (joined [.scalar ','] gaps) ≠ gaps ∧
      ∃ options, Options.parse arguments = .ok options ∧
        ¬ Options.Names arguments .globs ∧
        (options.scope ⟨.here, ["d"]⟩).globs = [Glob.parse "*.cs"] ∧
        (options.rule Rule.standardTarget).excluded = ["Log.".toList] ∧
        [] ∉ (options.rule Rule.standardTarget).excluded := by
  intro arguments words gaps
  obtain ⟨hroundtrip, -, hnamed, -, hempty⟩ := commaList_exact
  have hwords : ∀ word ∈ words, Listable (.scalar ',') Glyph.isBlank word := by decide +kernel
  have hparse : Options.parse arguments =
      .ok { Options.standard with
        path := some ⟨.here, ["d"]⟩, excludedWords := " , Log. ,\u3000" } := by cbv
  have hclassify : Argument.classify arguments =
      .ok [.plain "d", .option .excludedWords .nothing, .plain " , Log. ,\u3000"] := by cbv
  have hnames : ¬ Options.Names arguments .globs := by
    rintro ⟨classified, attached, hclassified, hmem⟩
    obtain rfl := Except.ok.inj (hclassify.symm.trans hclassified)
    simp at hmem
  refine ⟨hwords, (hroundtrip words).2 hwords, fun hlisted => ?_, _, hparse, hnames,
    (hnamed arguments _ hparse).1 hnames _, by cbv, hempty _ _⟩
  have hgap : ([] : Text) ∈ gaps := by decide
  exact ((hroundtrip gaps).1 hlisted [] hgap).ne_nil rfl

end HangulLint
