import TexTranscript.Proofs.Sections

/-!
# Where a parse comes by

Between two statements a parser rests at a *position*: what it remembers, its scope,
and the source where the next statement begins. A parse *passes* the positions that
it rests at, one statement after the other, until it rests where it is done or where
no statement is left.

So whatever is to hold after every statement is shown for the positions that are
passed. For latexmk this is an induction along its steps
(`Build.keeps_of_passes`): a position that is passed comes from the one before by a
step, unless the statement between them was overlooked and not echoed.

## Main definitions

* `Grammar.Passes` – the positions that a parse passes.

## Main statements

* `Grammar.exists_passes_consume` – a parse ends at a position that it passes.
* `Build.dispatch_step` – what a statement does to latexmk is a step.
* `Build.keeps_of_passes` – what every step keeps holds wherever latexmk passes.
-/

namespace TexTranscript

variable {R σ ι ν : Type} [LineSource R]

namespace Grammar

/-- **A parse passes a position**: it rests there, some statements after the position that it
starts from. -/
inductive Passes (g : Grammar σ ι ν) (verbose : Bool) (p : Position R σ) : Position R σ → Prop
  | here : Passes g verbose p p
  | statement {q : Position R σ} {statement : Text} {source : R} (h : Passes g verbose p q)
      (hd : q.scope.state.done = false)
      (hn : LineSource.takeStatement q.scope.unread = (some statement, source)) :
      Passes g verbose p (g.dispatch verbose statement (q.withUnread source))

variable {g : Grammar σ ι ν} {verbose : Bool} {p q r : Position R σ}

theorem Passes.trans (h : g.Passes verbose p q) (h' : g.Passes verbose q r) :
    g.Passes verbose p r := by
  induction h' with
  | here => exact h
  | statement _ hd hn ih => exact ih.statement hd hn

/-- A position is reached from the one before by asking. -/
theorem Passes.reads (h : g.Passes verbose p q) :
    LineSource.Reads p.scope.unread q.scope.unread := by
  induction h with
  | here => exact .nothing
  | @statement q statement source _ _ hn ih =>
    have hasked := LineSource.Reads.of_takeStatement hn
    exact (ih.trans hasked).trans (dispatch_reads g verbose statement (q.withUnread source))

/-- The rest of the way is the same from every position that is passed. -/
theorem Passes.consume_eq (h : g.Passes verbose p q) :
    g.consume verbose p = g.consume verbose q := by
  induction h with
  | here => rfl
  | @statement q statement source _ hd hn ih =>
    rw [ih, consume_of_some g verbose (by simp [hd]) hn]

/-- **A parse ends at a position that it passes**, where it is done or where no statement is left.
The question for one may change the source, but not the lines. -/
theorem exists_passes_consume (g : Grammar σ ι ν) (verbose : Bool) (p : Position R σ) :
    ∃ q, g.Passes verbose p q ∧ (g.consume verbose p).memory = q.memory ∧
      (g.consume verbose p).scope.log = q.scope.log ∧
      (q.scope.state.done = false → LineSource.lines (g.consume verbose p).scope.unread = []) := by
  fun_induction consume g verbose p with
  | case1 p hd => exact ⟨p, .here, rfl, rfl, fun h => absurd hd (by simp [h])⟩
  | case2 p hd source hn =>
    exact ⟨p, .here, rfl, rfl, fun _ => (LineSource.lines_of_takeStatement_none hn).2⟩
  | case3 p hd statement source hn ih =>
    rw [Bool.not_eq_true] at hd
    obtain ⟨q, hq, hmemory, hlog, hlines⟩ := ih
    exact ⟨q, (Passes.here.statement hd hn).trans hq, hmemory, hlog, hlines⟩

/-- Where nothing is done at an early end, a parse only takes statements. -/
theorem parse_eq_consume (hend : ∀ memory, g.atEnd memory = .done memory) (p : Position R σ) :
    g.parse verbose p = g.consume verbose p := by
  unfold parse
  dsimp only
  split
  · rfl
  · rw [hend]
    rfl

end Grammar

namespace Build

open Grammar

variable {master : Text} {watching verbose : Bool} {p q : Position R Memory}

/-- **A parse of latexmk**, from the start. -/
def parse (master : Text) (watching verbose : Bool) (source : R) : Position R Memory :=
  (grammar master watching).parse verbose ((grammar master watching).begin source)

/-- Latexmk does nothing more at an early end. -/
theorem parse_eq_consume (master : Text) (watching verbose : Bool) (source : R) :
    parse master watching verbose source
      = (grammar master watching).consume verbose ((grammar master watching).begin source) :=
  Grammar.parse_eq_consume (fun _ => rfl) _

/-- **What a statement does to latexmk is a step**, unless it is overlooked by a quiet parser. A
statement that no pattern matches is a step, too, if the parser is verbose. -/
theorem dispatch_step (master : Text) (watching verbose : Bool) (statement : Text)
    (p : Position R Memory) :
    (grammar master watching).dispatch verbose statement p = p ∨
      Step master watching p.memory p.scope.log
        ((grammar master watching).dispatch verbose statement p).memory
        ((grammar master watching).dispatch verbose statement p).scope.log := by
  unfold Grammar.dispatch
  rcases hc : (grammar master watching).classify statement with _ | found
  · cases verbose with
    | false => exact Or.inl rfl
    | true =>
      refine Or.inr ?_
      show Step master watching p.memory p.scope.log p.memory (p.scope.emit _).log
      rw [Scope.log_emit]
      exact .echo _
  · exact Or.inr (Reaction.run_ensures verbose (react_ensures p.memory p.scope.log hc))

/-- **What every step keeps holds wherever latexmk passes.** A step is only made while latexmk is
not done. -/
theorem keeps_of_passes {I : Memory → Log → Prop}
    (h : (grammar master watching).Passes verbose p q) (hp : I p.memory p.scope.log)
    (step : ∀ {memory memory' : Memory} {log log' : Log}, log.state.done = false →
      Step master watching memory log memory' log' → I memory log → I memory' log') :
    I q.memory q.scope.log := by
  induction h with
  | here => exact hp
  | @statement q statement source _ hd hn ih =>
    rcases dispatch_step master watching verbose statement (q.withUnread source) with heq | hstep
    · rw [heq]
      exact ih
    · exact step hd hstep ih

end Build

end TexTranscript
