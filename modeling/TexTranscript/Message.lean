import TexTranscript.Tool
import TexTranscript.Outcome

/-!
# Messages and marks

What a parse of a transcript yields is a list of *messages*: what a tool said,
sorted by what it means, with the parts that matter picked out. A message holds
no markup and no layout; how it is shown is the business of a sink.

A *mark* is what an editor shows beside a line: an error or a warning that a
tool located in a source file.

## Main definitions

* `Location`, `Severity`, `Mark` – where something is wrong, and how badly.
* `Message` – what was said.
* `Message.mark?` – the mark of a located message.
-/

namespace TexTranscript

/-- A line of a source file, counted from one. -/
structure Location where
  file : String
  line : UInt32
deriving Repr, DecidableEq, Inhabited

/-- How bad a located message is. -/
inductive Severity where
  | error
  | warning
deriving Repr, DecidableEq, Inhabited

namespace Severity

/-- The name of a severity. -/
def name : Severity → String
  | error => "error"
  | warning => "warning"

/-- The severity of a name. -/
def ofName? (s : String) : Option Severity := [error, warning].find? (·.name == s)

@[simp] theorem ofName?_name (s : Severity) : ofName? s.name = some s := by
  cases s <;> decide

end Severity

/-- **A mark** beside a line of a source file. -/
structure Mark where
  file : String
  line : UInt32
  severity : Severity
  message : String
deriving Repr, DecidableEq, Inhabited

/-- **What a parse yields.** -/
inductive Message where
  | info (text : String)
  | warning (text : String) (location : Option Location)
  | error (text : String) (location : Option Location)
  | fatal (text : String)
  /-- A box that is too full or not full enough; shown, and never counted. -/
  | formatWarning (text : String)
  /-- A statement that no rule recognizes, echoed by a verbose parse. -/
  | verbatim (text : String)
  /-- Lines of a source file as a tool quoted them. -/
  | excerpt (lines : List String)
  /-- What latexmk says about itself. -/
  | latexmk (text : String)
  | toolStarted (tool : Tool) (banner : String)
  | toolFinished (tool : Tool)
  | toolVersion (tool : Tool) (version : String)
  | fileEntered (path : String)
  /-- A file that is put into the document, a picture for instance. -/
  | inclusion (path : String)
  | progress (description file status : String)
  | sorting (status : String)
  /-- A file that a tool made. -/
  | artifact (description path : String)
  | transcript (path : String)
  | glossaryType (name files : String)
  | xindyRun (glossary language : String)
  | glossaryFinished (name path : String)
  /-- The transcript ended before the tool said that it was done. -/
  | abnormalTermination (log : String)
  | runSummary (run errors warnings : Nat)
  | summary (outcome : Outcome) (runs : Nat)
deriving Repr, DecidableEq, Inhabited

namespace Message

/-- The mark of a warning or an error with a location. -/
def mark? : Message → Option Mark
  | warning text (some loc) => some ⟨loc.file, loc.line, .warning, text⟩
  | error text (some loc) => some ⟨loc.file, loc.line, .error, text⟩
  | _ => none

end Message

end TexTranscript
