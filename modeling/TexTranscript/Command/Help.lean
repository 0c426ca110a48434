import TexTranscript.Command.Arguments

/-!
# Help

The texts that are printed on request. Entries of a list are set in two columns, and
an explanation that is longer than a line of a hundred characters continues below
itself.

## Main definitions

* `Topic.text` – the help text on a topic.
-/

namespace TexTranscript

namespace Topic

/-- A list of entries with their explanations. -/
def columns (entries : List (String × String)) : List String :=
  let width := (entries.map (·.1.length)).foldl max 0
  entries.map fun (entry, explanation) =>
    let gap := String.ofList (List.replicate (width - entry.length + 2) ' ')
    "  " ++ entry ++ gap ++ explanation

/-- The lines of a help text. -/
def lines : Topic → List String
  | program =>
    ["Parse the console output of TeX tools", "", "Usage: texrun <COMMAND>", "", "Commands:"] ++
      columns
        [("parse", "Parse a tool transcript and render its errors and warnings"),
          ("help", "Print this message or the help of the given subcommand(s)")] ++
      ["", "Options:"] ++ columns [("-h, --help", "Print help")]
  | parse =>
    ["Parse a tool transcript and render its errors and warnings", "",
      "Usage: texrun parse [OPTIONS] [LOG]", "", "Arguments:"] ++
      columns [("[LOG]", "Path to the transcript, or `-` for stdin [default: -]")] ++
      ["", "Options:"] ++
      columns
        [("    --tool <TOOL>", "Tool that produced the transcript [default: latexmk]"),
          ("    --master <FILE>",
            "Document being built; defaults to the transcript's name with a .tex"),
          ("", "extension"),
          ("    --verbose", "Echo lines that match no rule"),
          ("    --watch",
            "Keep parsing latexmk -pvc output across rounds until the stream closes"),
          ("    --format <FORMAT>", "[possible values: html, json]"),
          ("    --marks <FILE>",
            "Gutter-mark ledger; the mark update is written to stderr as JSON"),
          ("    --config <FILE>", "JSON settings file"),
          ("-h, --help", "Print help")]
  | help =>
    ["Print this message or the help of the given subcommand(s)", "",
      "Usage: texrun help [COMMAND]...", "", "Arguments:"] ++
      columns [("[COMMAND]...", "Print help for the subcommand(s)")]

/-- **The help text on a topic.** -/
def text (t : Topic) : Text := (t.lines.map (· ++ "\n")).flatMap String.toList

end Topic

end TexTranscript
