import TexTranscript.Json.Decode
import TexTranscript.Message

/-!
# Messages and marks as JSON

Each type of the message vocabulary has an encoder `toJson` and a decoder
`ofJson?`. Records are objects with their fields in order. A message is an
object with two members, its *kind* and its *data*; read, the two may stand in
either order, with unknown members among them, or be the items of an array. If
the data come first they are held back until the kind is known.

## Main definitions

* `Outcome.toJson`, `Location.toJson`, `Mark.toJson`, `Message.toJson`, … – the
  encoders.
* `Outcome.ofJson?`, `Location.ofJson?`, `Mark.ofJson?`, `Message.ofJson?`, … –
  the decoders.
-/

namespace TexTranscript

/-- The outcome as an object. -/
def Outcome.toJson (o : Outcome) : Json :=
  .object [("fatal", .bool o.fatal), ("errors", .natural o.errors),
    ("warnings", .natural o.warnings)]

/-- Reads an outcome. -/
def Outcome.ofJson? (j : Json) : Option Outcome := do
  let [some fatal, some errors, some warnings] ← j.record? ["fatal", "errors", "warnings"]
    | none
  return ⟨← fatal.flag?, ← errors.count?, ← warnings.count?⟩

/-- The tool, by its name. -/
def Tool.toJson (t : Tool) : Json := .string t.name

/-- Reads a tool; the flag says that the value was held back. -/
def Tool.ofJson? (held : Bool) (j : Json) : Option Tool :=
  (j.constant? held).bind Tool.ofExactName?

/-- The severity, by its name. -/
def Severity.toJson (s : Severity) : Json := .string s.name

/-- Reads a severity. -/
def Severity.ofJson? (j : Json) : Option Severity :=
  (j.constant? false).bind Severity.ofName?

/-- The location as an object. -/
def Location.toJson (l : Location) : Json :=
  .object [("file", .string l.file), ("line", .natural l.line.toNat)]

/-- Reads a location. -/
def Location.ofJson? (j : Json) : Option Location := do
  let [some file, some line] ← j.record? ["file", "line"] | none
  return ⟨← file.text?, ← line.line?⟩

/-- The mark as an object. -/
def Mark.toJson (m : Mark) : Json :=
  .object [("file", .string m.file), ("line", .natural m.line.toNat),
    ("severity", m.severity.toJson), ("message", .string m.message)]

/-- Reads a mark. -/
def Mark.ofJson? (j : Json) : Option Mark := do
  let [some file, some line, some severity, some message] ←
    j.record? ["file", "line", "severity", "message"] | none
  return ⟨← file.text?, ← line.line?, ← Severity.ofJson? severity, ← message.text?⟩

namespace Message

/-- The kind of a message. -/
def kind : Message → String
  | info .. => "Info"
  | warning .. => "Warning"
  | error .. => "Error"
  | fatal .. => "Fatal"
  | formatWarning .. => "FormatWarning"
  | verbatim .. => "Verbatim"
  | excerpt .. => "Excerpt"
  | latexmk .. => "Latexmk"
  | toolStarted .. => "ToolStarted"
  | toolFinished .. => "ToolFinished"
  | toolVersion .. => "ToolVersion"
  | fileEntered .. => "FileEntered"
  | inclusion .. => "Include"
  | progress .. => "Progress"
  | sorting .. => "Sorting"
  | artifact .. => "Artifact"
  | transcript .. => "Transcript"
  | glossaryType .. => "GlossaryType"
  | xindyRun .. => "XindyRun"
  | glossaryFinished .. => "GlossaryFinished"
  | abnormalTermination .. => "AbnormalTermination"
  | runSummary .. => "RunSummary"
  | summary .. => "Summary"

/-- A location that may be missing. -/
def locationJson : Option Location → Json
  | some loc => loc.toJson
  | none => .null

/-- The data of a message, as the members of an object. -/
def data : Message → List (String × Json)
  | info text => [("text", .string text)]
  | warning text location => [("text", .string text), ("location", locationJson location)]
  | error text location => [("text", .string text), ("location", locationJson location)]
  | fatal text => [("text", .string text)]
  | formatWarning text => [("text", .string text)]
  | verbatim text => [("text", .string text)]
  | excerpt lines => [("lines", .array (lines.map .string))]
  | latexmk text => [("text", .string text)]
  | toolStarted tool banner => [("tool", tool.toJson), ("banner", .string banner)]
  | toolFinished tool => [("tool", tool.toJson)]
  | toolVersion tool version => [("tool", tool.toJson), ("version", .string version)]
  | fileEntered path => [("path", .string path)]
  | inclusion path => [("path", .string path)]
  | progress description file status =>
    [("description", .string description), ("file", .string file), ("status", .string status)]
  | sorting status => [("status", .string status)]
  | artifact description path => [("description", .string description), ("path", .string path)]
  | transcript path => [("path", .string path)]
  | glossaryType name files => [("name", .string name), ("files", .string files)]
  | xindyRun glossary language =>
    [("glossary", .string glossary), ("language", .string language)]
  | glossaryFinished name path => [("name", .string name), ("path", .string path)]
  | abnormalTermination log => [("log", .string log)]
  | runSummary run errors warnings =>
    [("run", .natural run), ("errors", .natural errors), ("warnings", .natural warnings)]
  | summary outcome runs => [("outcome", outcome.toJson), ("runs", .natural runs)]

/-- **The message as an object.** -/
def toJson (m : Message) : Json :=
  .object [("kind", .string m.kind), ("data", .object m.data)]

/-- Reads one field. -/
def one? {α : Type} (name : String) (read : Json → Option α) (j : Json) : Option α := do
  let [some v] ← j.fields? [name] | none
  read v

/-- Reads two fields. -/
def two? {α β : Type} (name name' : String) (read : Json → Option α) (read' : Json → Option β)
    (j : Json) : Option (α × β) := do
  let [some v, some v'] ← j.fields? [name, name'] | none
  return (← read v, ← read' v')

/-- Reads three fields. -/
def three? {α : Type} (name name' name'' : String) (read : Json → Option α) (j : Json) :
    Option (α × α × α) := do
  let [some v, some v', some v''] ← j.fields? [name, name', name''] | none
  return (← read v, ← read v', ← read v'')

/-- Reads a text with a location that may be missing. -/
def located? (j : Json) : Option (String × Option Location) := do
  let [some text, location] ← j.fields? ["text", "location"] | none
  return (← text.text?, ← Json.nullable? Location.ofJson? location)

/-- The message of a kind with its data, which must be an object. The flag says
that the data were held back. -/
def ofParts? (held : Bool) (kind : String) (j : Json) : Option Message :=
  match kind with
  | "Info" => (one? "text" Json.text? j).map info
  | "Warning" => (located? j).map fun (text, location) => warning text location
  | "Error" => (located? j).map fun (text, location) => error text location
  | "Fatal" => (one? "text" Json.text? j).map fatal
  | "FormatWarning" => (one? "text" Json.text? j).map formatWarning
  | "Verbatim" => (one? "text" Json.text? j).map verbatim
  | "Excerpt" => (one? "lines" (Json.list? Json.text?) j).map excerpt
  | "Latexmk" => (one? "text" Json.text? j).map latexmk
  | "ToolStarted" =>
    (two? "tool" "banner" (Tool.ofJson? held) Json.text? j).map fun (tool, banner) =>
      toolStarted tool banner
  | "ToolFinished" => (one? "tool" (Tool.ofJson? held) j).map toolFinished
  | "ToolVersion" =>
    (two? "tool" "version" (Tool.ofJson? held) Json.text? j).map fun (tool, version) =>
      toolVersion tool version
  | "FileEntered" => (one? "path" Json.text? j).map fileEntered
  | "Include" => (one? "path" Json.text? j).map inclusion
  | "Progress" =>
    (three? "description" "file" "status" Json.text? j).map fun (description, file, status) =>
      progress description file status
  | "Sorting" => (one? "status" Json.text? j).map sorting
  | "Artifact" =>
    (two? "description" "path" Json.text? Json.text? j).map fun (description, path) =>
      artifact description path
  | "Transcript" => (one? "path" Json.text? j).map transcript
  | "GlossaryType" =>
    (two? "name" "files" Json.text? Json.text? j).map fun (name, files) => glossaryType name files
  | "XindyRun" =>
    (two? "glossary" "language" Json.text? Json.text? j).map fun (glossary, language) =>
      xindyRun glossary language
  | "GlossaryFinished" =>
    (two? "name" "path" Json.text? Json.text? j).map fun (name, path) => glossaryFinished name path
  | "AbnormalTermination" => (one? "log" Json.text? j).map abnormalTermination
  | "RunSummary" =>
    (three? "run" "errors" "warnings" Json.count? j).map fun (run, errors, warnings) =>
      runSummary run errors warnings
  | "Summary" =>
    (two? "outcome" "runs" Outcome.ofJson? Json.count? j).map fun (outcome, runs) =>
      summary outcome runs
  | _ => none

/-- The data come before the kind. -/
def dataFirst (members : List (String × Json)) : Bool :=
  (members.find? fun m => m.1 == "kind" || m.1 == "data").any (·.1 == "data")

/-- **Reads a message.** Data that come first lie one level deep in the message
while they are held back. -/
def ofJson? : Json → Option Message
  | .array [.string kind, data] => ofParts? false kind data
  | .object members => do
    let [some kind, some data] ← (Json.object members).fields? ["kind", "data"] | none
    let held := dataFirst members
    if held && !data.canHold (Json.depthLimit - 1) then none
    else ofParts? held (← kind.constant? false) data
  | _ => none

end Message

end TexTranscript
