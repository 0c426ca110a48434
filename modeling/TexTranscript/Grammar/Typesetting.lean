import TexTranscript.FilePath
import TexTranscript.Grammar.Basic
import TexTranscript.Grammar.SourceReference

/-!
# The typesetting engines

The grammar of what pdfTeX, XeTeX and LuaTeX print while they typeset a
document, with errors in the form `file:line: what is wrong`.

An engine prints the name of each source file it opens, but most warnings give
a line number only. The grammar therefore keeps track of the file that was
opened last, and takes the master document until there was one. Warnings may be
so long that their line number stands on the next line: after a warning without
one, the next physical line is looked at, and is used up whatever it says.

## Main definitions

* `Typesetting.Finding` – what a statement can say.
* `Typesetting.grammar` – the grammar for a master document.
* `Typesetting.logFile` – the transcript file that belongs to a document.
-/

namespace TexTranscript

namespace Typesetting

/-- What a statement of an engine says. -/
inductive Finding where
  | remark
  | fileEntered (name : Text)
  | inclusion (path : Text)
  /-- A warning with its line number. -/
  | warning (line : Text)
  /-- A warning whose line number may stand on the next line. -/
  | wrappedWarning
  | formatWarning
  | error (file line description : Text)
  /-- An argument that never ended. -/
  | runaway
  /-- The engine is done, and has written its transcript. -/
  | transcript (name : Text)
  /-- A line that begins with an exclamation mark. -/
  | alert
  | fatal
deriving Repr, DecidableEq

/-- The extension of the source files of a document. -/
def extension (master : Text) : Text := (FilePath.extension? master).getD "tex".toList

/-- The transcript file that belongs to a document. -/
def logFile (master : Text) : Text :=
  (FilePath.name? (FilePath.withExtension master "log".toList)).getD "texput.log".toList

/-- Captured digits. -/
def digits : Pattern := .group (.several .digit)

/-- The end of the sentence or of the text. -/
def sentenceEnd : Pattern := .bracket (.alt (.lit ".") .atEnd)

/-- The number of an input line, anywhere in a text. -/
def inputLine : Pattern := .fewest .any ++ .lit "input line " ++ digits ++ sentenceEnd

/-- A line of a source file with one of three extensions, and what is wrong. -/
def fileLineError (ext : Text) : Pattern :=
  .group (.several .fileName ++
    .bracket (.alt (.lit ".sty") (.alt (.lit ".tex") (.lit "." ++ .quoted ext)))) ++
    .lit ":" ++ digits ++ .lit ":" ++ .several .blank ++ .group (.many .any)

/-- The opening of a source file. -/
def fileEntry (ext : Text) : Pattern :=
  .fewest .any ++ .lit "(./" ++
    .group (.fewest (.except ')') ++ .lit "." ++ .bracket (.alt (.lit "tex") (.quoted ext)) ++
      .bracket (.alt (.lit " ") .atEnd))

/-- Reads an error off its file, line and description. -/
def readError : List Text → Option Finding
  | [file, line, description] => some (.error file line description)
  | _ => none

/-- Reads a finding off a single captured text. -/
def readOne (found : Text → Finding) : List Text → Option Finding
  | [text] => some (found text)
  | _ => none

/-- The rules, for source files with an extension. -/
def rules (ext : Text) : List (Rule Finding) :=
  [.sign (.lit "Document Class") .remark,
   ⟨fileEntry ext, readOne .fileEntered⟩,
   ⟨.many .any ++ .lit "<use " ++ .group (.fewest .any) ++ .lit ">", readOne .inclusion⟩,
   .sign (.lit "Output written") .remark,
   ⟨.lit "LaTeX Warning:" ++ inputLine, readOne .warning⟩,
   .sign (.lit "LaTeX Warning:" ++ .many .any) .wrappedWarning,
   .sign (.many .any ++ .lit "pdfTeX warning" ++ .many .any) .wrappedWarning,
   .sign (.lit "LaTeX Font Warning:" ++ .many .any) .wrappedWarning,
   .sign (.lit "Overfull" ++ .many .any ++ .lit "wide") .formatWarning,
   .sign (.lit "Underfull" ++ .many .any ++ .lit "badness") .formatWarning,
   ⟨fileLineError ext, readError⟩,
   ⟨.group (.many (.except ':')) ++ .lit ":" ++ digits ++ .lit ": LaTeX Error:" ++
      .group (.many .any), readError⟩,
   ⟨.group (.many (.except ':')) ++ .lit ":" ++ digits ++ .lit ": " ++
      .group (.lit "Emergency stop"), readError⟩,
   .sign (.lit "Runaway argument") .runaway,
   ⟨.group (.many .any) ++ .lit "Transcript written on " ++ .group (.many .any) ++ .lit "." ++
      .atEnd, fun
        | [_, name] => some (.transcript name)
        | _ => none⟩,
   .sign (.lit "!" ++ .many .any) .alert,
   .sign (.several .blank ++ .lit "==>") .fatal]

/-- The line number that a text gives for the input. -/
def inputLine? (text : Text) : Option UInt32 :=
  match inputLine.captures? text with
  | some [line] => some (lineNumber line)
  | _ => none

variable {ν : Type}

/-- The source file the engine is reading. -/
def currentFile (master : Text) : Reaction ν String := do
  let state ← Reaction.getState
  return state.currentFile.getD (String.ofList (sourceName master))

/-- Reports a warning without a line number of its own. -/
def reactToWrapped (master statement : Text) : Reaction ν Unit := do
  match ← Reaction.nextLine with
  | none => Reaction.warning statement
  | some next =>
    match inputLine? next with
    | some line =>
      let file ← currentFile master
      Reaction.locatedWarning (statement ++ ' ' :: next) ⟨file, line⟩
    | none => Reaction.warning statement

/-- Reports an argument that never ended, and what the next line says of it. -/
def reactToRunaway (statement : Text) : Reaction ν Unit := do
  Reaction.error statement
  match ← Reaction.nextLine with
  | none => pure ()
  | some next =>
    if Text.startsWith " ==> Fatal error occurred".toList next then
      Reaction.say (.fatal (String.ofList (Text.trim next)))
      Reaction.enter (.count .fatal)
    else
      Reaction.say (.excerpt [String.ofList next])

/-- What the parser does with a finding. -/
def react (master : Text) : Finding → Text → Unit → Reaction ν Unit
  | .remark, statement, _ => Reaction.info statement
  | .fileEntered name, _, _ => do
    let path := String.ofList (sourceName name)
    Reaction.enter (.enterFile path)
    Reaction.say (.fileEntered path)
  | .inclusion path, _, _ => Reaction.say (.inclusion (String.ofList path))
  | .warning line, statement, _ => do
    let file ← currentFile master
    Reaction.locatedWarning statement ⟨file, lineNumber line⟩
  | .wrappedWarning, statement, _ => reactToWrapped master statement
  | .formatWarning, statement, _ => Reaction.say (.formatWarning (String.ofList statement))
  | .error file line description, _, _ => do
    Reaction.locatedError (Text.trim description) (locationOf file line)
    if Text.hasPart "Fatal error".toList (Text.trim description) then
      Reaction.enter (.count .fatal)
  | .runaway, statement, _ => reactToRunaway statement
  | .transcript name, _, _ => do
    Reaction.say (.transcript (String.ofList (Text.stripAround '"' name)))
    Reaction.finish
  | .alert, statement, _ =>
    if Text.hasPart "Error".toList statement || Text.hasPart "error".toList statement then
      Reaction.error statement
    else
      Reaction.warning statement
  | .fatal, statement, _ => Reaction.fatal statement

/-- **The grammar of the typesetting engines**, for a master document. -/
def grammar (master : Text) : Grammar Unit Finding ν where
  tool := .latex
  rules := rules (extension master)
  start := ()
  react := react master
  atEnd _ := Reaction.say (.abnormalTermination (String.ofList (logFile master)))

end Typesetting

end TexTranscript
