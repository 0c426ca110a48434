import TexTranscript.Grammar.Bibliography
import TexTranscript.Grammar.Index
import TexTranscript.Grammar.Typesetting

/-!
# The build driver

The grammar of latexmk, which calls the other tools as often as it takes. Its
transcript contains the complete output of each call, and begins each with the
banner of the tool. Such a *section* is opened by a message, handed to the
parser of the tool, and closed by a message, whatever the parser left behind.
The marks of a section of the typesetting engine replace those of earlier ones.

A call of the rules is a *run*; what was counted since the last one is summed up
when the next one begins. A *round* ends when latexmk says where the output is.
Normally it is done then. When it keeps watching the source files it is not: a
round is reported, and the next one follows.

## Main definitions

* `Build.Phase`, `Build.Memory` – what the grammar remembers.
* `Build.RoundReport` – what is reported of a round.
* `Build.grammar` – the grammar, for a master document, watching or not.
-/

namespace TexTranscript

namespace Build

/-- Where latexmk is within a round. -/
inductive Phase where
  | idle
  | inCompilerRun
  | inBibRun
  | inIndexRun
  | roundFinished
deriving Repr, DecidableEq

/-- **What is reported of a round** while latexmk keeps watching. -/
structure RoundReport where
  /-- The number of the round, counted from one. -/
  round : Nat
  /-- The runs so far, in all rounds. -/
  runs : Nat
  /-- What was counted since the last run began. -/
  outcome : Outcome
  /-- What was counted in all rounds. -/
  total : Outcome
  /-- The marks of the last section of the typesetting engine. -/
  marks : List Mark
deriving Repr, DecidableEq

/-- What the grammar remembers. -/
structure Memory where
  phase : Phase := .idle
  runs : Nat := 0
  rounds : Nat := 0
  reports : List RoundReport := []
deriving Repr, DecidableEq

/-- What is remembered when another phase is entered. -/
def Memory.enter (memory : Memory) (phase : Phase) : Memory := { memory with phase }

/-- What a statement of latexmk says. -/
inductive Finding where
  /-- The banner of a typesetting engine. -/
  | typesetting
  | bibtex
  | biber
  /-- The output is written, which ends the round. -/
  | roundEnd
  | index
  | chatter
  | newRun
deriving Repr, DecidableEq

/-- The names that the typesetting engines give themselves. -/
def engineNames : List Pattern := ["pdfTeX", "latex2e", "latex", "LuaTeX", "XeTeX"].map .lit

/-- The rules. -/
def rules : List (Rule Finding) :=
  [.sign (.lit "This is " ++ .group (.firstOf engineNames)) .typesetting,
   .sign (.lit "This is BibTeX") .bibtex,
   .sign (.many .any ++ .lit "This is Biber") .biber,
   .sign (.lit "Latexmk: Log file says output to") .roundEnd,
   .sign (.lit "This is makeindex") .index,
   .sign (.lit "Latexmk") .chatter,
   .sign (.lit "Run number") .newRun]

/-- Hands the transcript to the parser of a tool, between the two messages that
open and close its section, and goes through the phase of the tool meanwhile. -/
def openSection (phase : Phase) (tool : Tool) (banner : Text) (nested : Nested Unit)
    (memory : Memory) : Reaction Unit (Delegated Unit × Memory) := do
  let memory := memory.enter phase
  Reaction.say (.toolStarted tool (String.ofList (Text.trim banner)))
  let delegated ← Reaction.handTo nested
  Reaction.say (.toolFinished tool)
  return (delegated, memory.enter .idle)

/-- A grammar as the parser of a section, of which nothing is remembered. -/
def sectionParser {σ ι : Type} (g : Grammar σ ι Unit) : Nested Unit := g.nested fun _ => ()

/-- Reports the end of a round, which is the last unless latexmk keeps watching. -/
def endRound (watching : Bool) (statement : Text) (memory : Memory) : Reaction Unit Memory := do
  Reaction.say (.latexmk (String.ofList statement))
  let memory := { memory with rounds := memory.rounds + 1 }.enter .roundFinished
  if watching then
    let state ← Reaction.getState
    let report : RoundReport :=
      ⟨memory.rounds, memory.runs, state.tally.run, state.tally.total, state.marks⟩
    return { memory with reports := memory.reports ++ [report] }.enter .idle
  else
    Reaction.finish
    return memory

/-- Sums up the run that ends, if there was one, and begins the next. -/
def beginRun (memory : Memory) : Reaction Unit Memory := do
  if memory.runs > 0 then
    let state ← Reaction.getState
    Reaction.say (.runSummary memory.runs state.tally.run.errors state.tally.run.warnings)
  Reaction.enter (.count .newRun)
  return { memory with runs := memory.runs + 1 }

/-- What the parser does with a finding. -/
def react (master : Text) (watching : Bool) : Finding → Text → Memory → Reaction Unit Memory
  | .typesetting, statement, memory => do
    let (delegated, memory) ← openSection .inCompilerRun .latex statement
      (sectionParser (Typesetting.grammar master)) memory
    Reaction.enter (.replaceMarks delegated.state.marks)
    return memory
  | .bibtex, statement, memory => do
    let (_, memory) ← openSection .inBibRun .bibtex statement
      (sectionParser Bibliography.bibtex) memory
    return memory
  | .biber, statement, memory => do
    let (_, memory) ← openSection .inBibRun .biber statement
      (sectionParser Bibliography.biber) memory
    return memory
  | .index, statement, memory => do
    let (_, memory) ← openSection .inIndexRun .makeindex statement
      (sectionParser (Index.grammar Index.defaultExtensions)) memory
    return memory
  | .roundEnd, statement, memory => endRound watching statement memory
  | .chatter, statement, memory => do
    Reaction.say (.latexmk (String.ofList statement))
    return memory
  | .newRun, _, memory => beginRun memory

/-- **The grammar of latexmk**, for a master document; watching, it is never
done. -/
def grammar (master : Text) (watching : Bool) : Grammar Memory Finding Unit where
  tool := .latexmk
  rules := rules
  start := {}
  react := react master watching

end Build

end TexTranscript
