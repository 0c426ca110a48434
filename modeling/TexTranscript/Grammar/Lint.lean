import TexTranscript.Grammar.Basic
import TexTranscript.Grammar.SourceReference

/-!
# The linter

The grammar of ChkTeX. Behind each of its findings stands the line of source it
is about, and behind that, unless the line is too short to point at anything, a
line with a caret. Both are quoted as they are, and are never taken for
statements.

## Main definitions

* `Lint.grammar` – the grammar.
-/

namespace TexTranscript

namespace Lint

/-- What a statement of ChkTeX says. -/
inductive Finding where
  | remark
  | problem (severity : Severity) (file line description : Text)
  /-- The closing tally. -/
  | finished
deriving Repr, DecidableEq

/-- A problem of a kind, in a file and at a line. -/
def problemPattern (kind : String) : Pattern :=
  .lit kind ++ .several .digit ++ .lit " in " ++ .group (.many .any ++ .lit ".tex") ++
    .lit " line " ++ .group (.several .digit) ++ .lit ":" ++ .group (.many .any)

/-- Reads a problem off its file, line and description. -/
def readProblem (severity : Severity) : List Text → Option Finding
  | [file, line, description] => some (.problem severity file line description)
  | _ => none

/-- A word that may have an `s` behind it. -/
def countable (word : String) : Pattern := .lit word ++ .optional (.lit "s")

/-- The rules. -/
def rules : List (Rule Finding) :=
  [.sign (.lit "ChkTeX") .remark,
   ⟨problemPattern "Warning ", readProblem .warning⟩,
   ⟨problemPattern "Error ", readProblem .error⟩,
   .sign (.group (.several .digit) ++ countable " error" ++ .lit " printed; " ++
     .group (.several .digit) ++ countable " warning" ++ .lit " printed") .finished]

variable {ν : Type}

/-- A line of source is long enough for a caret below it: it has more than one
byte. -/
def hasCaret (source : Text) : Bool := decide (1 < (Utf8.encode source).length)

/-- Quotes the line of source that a problem is about. -/
def quoteSource : Reaction ν Unit := do
  match ← Reaction.nextLine with
  | none => pure ()
  | some source =>
    if hasCaret source then
      let caret ← Reaction.nextLine
      Reaction.say (.excerpt [String.ofList source, String.ofList (caret.getD [])])

/-- What the parser does with a finding. -/
def react : Finding → Text → Unit → Reaction ν Unit
  | .remark, statement, _ => Reaction.info statement
  | .problem .error file line description, _, _ => do
    Reaction.locatedError (Text.trim description) (locationOf file line)
    quoteSource
  | .problem .warning file line description, _, _ => do
    Reaction.locatedWarning (Text.trim description) (locationOf file line)
    quoteSource
  | .finished, _, _ => Reaction.finish

/-- **The grammar of ChkTeX.** -/
def grammar : Grammar Unit Finding ν where
  tool := .chktex
  rules := rules
  start := ()
  react := react

end Lint

end TexTranscript
