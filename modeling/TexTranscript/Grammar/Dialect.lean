import TexTranscript.Grammar.Build
import TexTranscript.Grammar.Glossary
import TexTranscript.Grammar.Lint

/-!
# Dialects

A *dialect* says which grammar a transcript is parsed with: that of one of the
seven tools, with its parameters, or a *custom* one, given by a table. A rule of
a custom table recognizes the statements that begin with a text, and then takes
a list of actions; one of them hands the transcript to the parser of another
dialect, which may be custom again. What a custom grammar did is kept as a
trace.

Every dialect gives a nested parser, so that any of them can be parsed with on
its own or from within another one. What it remembers in the end is its
*closing*.

## Main definitions

* `Dialect`, `CustomRule`, `Action` – dialects and what custom ones are made of.
* `Closing`, `Event` – what is remembered, and the trace of a custom grammar.
* `Dialect.nested` – the dialect as a parser the transcript can be handed to.
* `Dialect.grammar` – its grammar.
* `Dialect.parseTimes` – a parser of the dialect that is run some number of times.
-/

namespace TexTranscript

mutual

/-- **Which grammar a transcript is parsed with.** -/
inductive Dialect where
  | latex (master : Text)
  | bibtex
  | biber
  | makeindex (extensions : List Text)
  /-- At the end, the types of the extensions in `query` are of interest. -/
  | makeglossaries (query : List Text)
  | chktex
  | latexmk (master : Text) (watching : Bool)
  | custom (rules : List CustomRule) (atEnd : List Action)

/-- A rule of a custom grammar: the text it recognizes statements by, and what
it does with them. -/
inductive CustomRule where
  | mk (start : Text) (actions : List Action)

/-- What a rule of a custom grammar can do. The statement is the text of the
messages it emits. -/
inductive Action where
  | info
  | warning
  | error
  | fatal
  | finish
  /-- A step in the counts, without a message. -/
  | count (step : Tally.Step)
  /-- Looks at the next physical line. -/
  | lookAhead
  | showState
  | locatedWarning (location : Location)
  | locatedError (location : Location)
  | emit (message : Message)
  /-- Hands the transcript over. -/
  | delegate (dialect : Dialect)

end

mutual

/-- **What a grammar remembers in the end.** -/
inductive Closing where
  | nothing
  | latex (logFile : Text)
  /-- How often makeindex was called, and the types of the extensions that were
  asked for. -/
  | makeglossaries (makeindexRuns : Nat) (types : List (Text × Option Text))
  | latexmk (memory : Build.Memory) (watching : Bool)
  | custom (trace : List Event)

/-- What a custom grammar did or saw. -/
inductive Event where
  /-- The rule of this number applied. -/
  | rule (number : Nat)
  | abnormalEnd
  | line (text : Option Text)
  | state (state : ParseState)
  | delegated (closing : Closing) (state : ParseState)

end

/-- The types of the extensions that are asked for. -/
def Glossary.Memory.closing (query : List Text) (memory : Glossary.Memory) : Closing :=
  .makeglossaries memory.makeindexRuns
    (query.map fun extension => (extension, memory.registry.typeOf? extension))

/-- What a rule of a custom grammar does with a statement and the trace. -/
abbrev CustomReaction := Text → List Event → Reaction Closing (List Event)

/-- The grammar of a custom table: the texts that rules recognize statements by,
each with what it does, and what to do at an early end. What a rule reads off a
statement is its own number, which is also the first event of what it does. -/
def customGrammar (table : List (Text × CustomReaction)) (atEnd : CustomReaction) :
    Grammar (List Event) Nat Closing where
  tool := .latexmk
  rules := table.zipIdx.map fun ((start, _), number) => .sign (.quoted start) number
  start := []
  react number statement trace :=
    match table[number]? with
    | some (_, reaction) => reaction statement (trace ++ [.rule number])
    | none => .done trace
  atEnd trace := atEnd [] (trace ++ [.abnormalEnd])

mutual

/-- **The dialect as a parser that the transcript can be handed to.** -/
def Dialect.nested : Dialect → Nested Closing
  | .latex master =>
    (Typesetting.grammar master : Grammar _ _ Unit).nested fun _ =>
      .latex (Typesetting.logFile master)
  | .bibtex => (Bibliography.bibtex : Grammar _ _ Unit).nested fun _ => .nothing
  | .biber => (Bibliography.biber : Grammar _ _ Unit).nested fun _ => .nothing
  | .makeindex extensions => (Index.grammar extensions : Grammar _ _ Unit).nested fun _ => .nothing
  | .makeglossaries query => Glossary.grammar.nested (·.closing query)
  | .chktex => (Lint.grammar : Grammar _ _ Unit).nested fun _ => .nothing
  | .latexmk master watching =>
    (Build.grammar master watching).nested fun memory => .latexmk memory watching
  | .custom rules atEnd =>
    (customGrammar (CustomRule.table rules) (Action.reactAll atEnd)).nested .custom

/-- The rules of a custom grammar, each with its reaction. -/
def CustomRule.table : List CustomRule → List (Text × CustomReaction)
  | [] => []
  | .mk start actions :: rules => (start, Action.reactAll actions) :: CustomRule.table rules

/-- One action after the other. -/
def Action.reactAll : List Action → CustomReaction
  | [], _, trace => .done trace
  | action :: actions, statement, trace =>
    (Action.react action statement trace).bind (Action.reactAll actions statement)

/-- What an action does. -/
def Action.react : Action → CustomReaction
  | .info, statement, trace => (Reaction.info statement).bind fun _ => .done trace
  | .warning, statement, trace => (Reaction.warning statement).bind fun _ => .done trace
  | .error, statement, trace => (Reaction.error statement).bind fun _ => .done trace
  | .fatal, statement, trace => (Reaction.fatal statement).bind fun _ => .done trace
  | .finish, _, trace => .record .finish (.done trace)
  | .count step, _, trace => .record (.count step) (.done trace)
  | .lookAhead, _, trace => .lookAhead fun line => .done (trace ++ [.line line])
  | .showState, _, trace => .inspect fun state => .done (trace ++ [.state state])
  | .locatedWarning loc, statement, trace =>
    (Reaction.locatedWarning statement loc).bind fun _ => .done trace
  | .locatedError loc, statement, trace =>
    (Reaction.locatedError statement loc).bind fun _ => .done trace
  | .emit message, _, trace => .emit message (.done trace)
  | .delegate dialect, _, trace =>
    .delegate (Dialect.nested dialect) fun d => .done (trace ++ [.delegated d.closing d.state])

end

/-- A grammar of any kind, with what is of interest of its memory in the end. -/
structure AnyGrammar : Type 1 where
  σ : Type
  ι : Type
  ν : Type
  rules : Grammar σ ι ν
  close : σ → Closing

/-- The grammar of a dialect. -/
def Dialect.grammar : Dialect → AnyGrammar
  | .latex master =>
    ⟨_, _, Unit, Typesetting.grammar master, fun _ => .latex (Typesetting.logFile master)⟩
  | .bibtex => ⟨_, _, Unit, Bibliography.bibtex, fun _ => .nothing⟩
  | .biber => ⟨_, _, Unit, Bibliography.biber, fun _ => .nothing⟩
  | .makeindex extensions => ⟨_, _, Unit, Index.grammar extensions, fun _ => .nothing⟩
  | .makeglossaries query => ⟨_, _, _, Glossary.grammar, (·.closing query)⟩
  | .chktex => ⟨_, _, Unit, Lint.grammar, fun _ => .nothing⟩
  | .latexmk master watching =>
    ⟨_, _, _, Build.grammar master watching, fun memory => .latexmk memory watching⟩
  | .custom rules atEnd =>
    ⟨_, _, _, customGrammar (CustomRule.table rules) (Action.reactAll atEnd), .custom⟩

/-- **Handing over is parsing from the start.** -/
theorem Dialect.nested_eq (d : Dialect) :
    d.nested = d.grammar.rules.nested d.grammar.close := by
  cases d <;> rfl

/-- A parser that is run `n` times, one after the other, with the outcome after
each time. -/
def Grammar.parseTimes {σ ι ν R : Type} [LineSource R] (g : Grammar σ ι ν) (verbose : Bool) :
    Nat → Grammar.Position R σ → List Outcome × Grammar.Position R σ
  | 0, p => ([], p)
  | n + 1, p =>
    let q := g.parse verbose p
    let (outcomes, r) := g.parseTimes verbose n q
    (q.scope.state.outcome :: outcomes, r)

/-- What a parser of the dialect comes to that is run `n` times on a
transcript: the outcomes, and what it leaves behind. -/
def Dialect.parseTimes {R : Type} [LineSource R] (d : Dialect) (verbose : Bool) (n : Nat)
    (source : R) : List Outcome × Handback R Closing :=
  let (outcomes, p) := d.grammar.rules.parseTimes verbose n (d.grammar.rules.begin source)
  (outcomes, p.handback d.grammar.close)

end TexTranscript
