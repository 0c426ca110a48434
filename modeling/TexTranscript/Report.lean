import TexTranscript.Grammar.Dialect
import TexTranscript.Stream.Interruption

/-!
# Parsing a transcript

The main entry point: the transcript of a tool is parsed from the start, and
what it comes to is reported – the messages, the outcome, the marks, how many
runs there were, and the lines that were left unread.

Only latexmk announces runs; for every other tool there was one.

## Main definitions

* `Report` – what a transcript comes to.
* `parseTranscript` – parses the transcript of a tool.
-/

namespace TexTranscript

/-- **What a transcript comes to.** -/
structure Report where
  messages : List Message
  outcome : Outcome
  /-- For latexmk, those of the last section of the typesetting engine. -/
  marks : List Mark
  /-- At least one. -/
  runs : Nat
  unread : List Line
  /-- What was reported of each round, if latexmk kept watching. -/
  rounds : List Build.RoundReport := []
deriving Repr, DecidableEq

variable {R : Type} [LineSource R]

/-- The report of a parse that has ended, with the runs that were announced. -/
def Report.ofScope (s : Scope R) (runs : Nat) : Report where
  messages := s.messages.toList
  outcome := s.state.outcome
  marks := s.state.marks
  runs := max runs 1
  unread := LineSource.lines s.unread

/-- Parses with a grammar that announces no runs. -/
def Grammar.report {σ ι ν : Type} (g : Grammar σ ι ν) (verbose : Bool) (source : R) : Report :=
  .ofScope (g.parse verbose (g.begin source)).scope 1

/-- Parses the transcript of latexmk, which keeps watching or does not. -/
def parseBuild (master : Text) (watching verbose : Bool) (source : R) : Report :=
  let g := Build.grammar master watching
  let p := g.parse verbose (g.begin source)
  { Report.ofScope p.scope p.memory.runs with rounds := p.memory.reports }

/-- **Parses the transcript of a tool.** The master document matters only to the
typesetting engines and to latexmk, which is taken not to keep watching. -/
def parseTranscript (tool : Tool) (master : Text) (verbose : Bool) (source : R) : Report :=
  match tool with
  | .latex => (Typesetting.grammar master : Grammar _ _ Unit).report verbose source
  | .bibtex => (Bibliography.bibtex : Grammar _ _ Unit).report verbose source
  | .biber => (Bibliography.biber : Grammar _ _ Unit).report verbose source
  | .makeindex => (Index.grammar Index.defaultExtensions : Grammar _ _ Unit).report verbose source
  | .makeglossaries => Glossary.grammar.report verbose source
  | .chktex => (Lint.grammar : Grammar _ _ Unit).report verbose source
  | .latexmk => parseBuild master false verbose source

/-! ## Only the lines matter -/

theorem Grammar.report_eq_lines {σ ι ν : Type} (g : Grammar σ ι ν) (verbose : Bool)
    (source : R) : g.report verbose source = g.report verbose (LineSource.lines source) := by
  have h := g.parse_overLines verbose (g.begin source)
  exact congrArg (fun p => Report.ofScope p.scope 1) h

theorem parseBuild_eq_lines (master : Text) (watching verbose : Bool) (source : R) :
    parseBuild master watching verbose source
      = parseBuild master watching verbose (LineSource.lines source) := by
  let g := Build.grammar master watching
  have h := g.parse_overLines verbose (g.begin source)
  exact congrArg (fun p : Grammar.Position (List Line) Build.Memory =>
    { Report.ofScope p.scope p.memory.runs with rounds := p.memory.reports }) h

/-- **A transcript comes to what its lines come to**, whatever the source is that
they come from. -/
theorem parseTranscript_eq_lines (tool : Tool) (master : Text) (verbose : Bool) (source : R) :
    parseTranscript tool master verbose source
      = parseTranscript tool master verbose (LineSource.lines source) := by
  cases tool with
  | latexmk => exact parseBuild_eq_lines ..
  | _ => exact Grammar.report_eq_lines ..

end TexTranscript
