import HangulLint.Text.Glyph

/-!
# Usage

What the program says about its command line.
-/

namespace HangulLint

/-- The lines of the summary, which precedes every complaint. -/
def usageLines : List String :=
  ["usage: hanguldetector [-h] [--out OUT] [--include INCLUDE]",
   "                      [--exclude-words EXCLUDE_WORDS]",
   "                      [--exclude-dirs EXCLUDE_DIRS] [--pattern PATTERN]",
   "                      [--workers WORKERS] [--max-file-size MAX_FILE_SIZE]",
   "                      [--no-sort] [--no-progress] [--verbose]",
   "                      [path]"]

/-- What follows the summary where help is asked for. -/
def helpLines : List String :=
  ["",
   "Find hard-coded Hangul string literals in a source tree and write a",
   "timestamped report.",
   "",
   "positional arguments:",
   "  path                  Directory to scan recursively (default: the program's",
   "                        directory).",
   "",
   "options:",
   "  -h, --help            show this help message and exit",
   "  --out OUT             Report directory (default: current directory; used as",
   "                        fallback when missing).",
   "  --include INCLUDE     File name glob(s) to scan, comma-separated.",
   "  --exclude-words EXCLUDE_WORDS",
   "                        Lines containing any of these substrings are skipped,",
   "                        comma-separated.",
   "  --exclude-dirs EXCLUDE_DIRS",
   "                        Directory names to skip, comma-separated.",
   "  --pattern PATTERN     Regular expression for the target characters.",
   "  --workers WORKERS     Number of worker threads for scanning.",
   "  --max-file-size MAX_FILE_SIZE",
   "                        Skip files larger than this many bytes.",
   "  --no-sort             Write detections in discovery order instead of sorted",
   "                        by path and line.",
   "  --no-progress         Disable the progress bar.",
   "  --verbose             Enable debug logging output."]

/-- Lines, each ended by a line feed. -/
def linesText (lines : List String) : Text :=
  lines.flatMap fun line => Text.ofString line ++ "\n"

/-- The summary of the command line. -/
def usageText : Text := linesText usageLines

/-- The summary and what every option does. -/
def helpText : Text := usageText ++ linesText helpLines

/-- The summary and a complaint. -/
def complaintText (complaint : Text) : Text :=
  usageText ++ "hanguldetector: error: " ++ complaint ++ "\n"

end HangulLint
