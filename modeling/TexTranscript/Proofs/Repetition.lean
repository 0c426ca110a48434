import Mathlib.Logic.Function.Iterate
import TexTranscript.Proofs.Dialects

/-!
# Parsing once more

A parser that has returned can be run again, and again. It does not get any further: either it is
done, and then nothing happens at all, or its reader has been exhausted, and then there is nothing
to do but what is done at an early end. A reader that is exhausted does not ask its source for
anything, so that it does not matter whether that has more bytes by now.

What is done at an early end is up to the grammar. Those of the seven tools do nothing, except that
an engine says once more that its transcript ended too early.

## Main definitions

* `LineReader.rewired` – a reader with another source of bytes.
* `Dialect.complaint` – what the parser of a tool says at an early end.

## Main statements

* `LineReader.eq_of_reads` – an exhausted reader stays as it is.
* `Grammar.parse_parse` – what a parser does that is run once more.
* `Dialect.parsing_again` – every further run of a parser, for all dialects.
-/

namespace TexTranscript

/-! ## Exhausted readers -/

namespace LineReader

/-- A reader that has no statement to give is exhausted. -/
theorem exhausted_of_nextStatement_none {r r' : LineReader} (h : r.nextStatement = (none, r')) :
    r'.exhausted = true := by
  unfold nextStatement at h
  split at h
  · exact absurd (congrArg Prod.fst h) (Option.some_ne_none _)
  · next r'' hr =>
    obtain rfl : r'' = r' := congrArg Prod.snd h
    exact exhausted_of_readLine_none hr

/-- An exhausted reader has no statement and stays as it is. -/
theorem nextStatement_of_exhausted {r : LineReader} (h : r.exhausted = true) :
    r.nextStatement = (none, r) := by
  unfold nextStatement
  rw [readLine_of_exhausted h]

/-- An exhausted reader has no line and stays as it is. -/
theorem nextLine_of_exhausted {r : LineReader} (h : r.exhausted = true) :
    r.nextLine = (none, r) := by
  unfold nextLine
  rw [readLine_of_exhausted h]

/-- **An exhausted reader stays as it is**, whatever it is asked and however often. -/
theorem eq_of_reads {r r' : LineReader} (h : LineSource.Reads r r') (he : r.exhausted = true) :
    r' = r := by
  induction h with
  | nothing => rfl
  | statement _ ih =>
    rw [ih]
    exact congrArg Prod.snd (nextStatement_of_exhausted he)
  | line _ ih =>
    rw [ih]
    exact congrArg Prod.snd (nextLine_of_exhausted he)

/-- The reader with **another source of bytes**. -/
def rewired (r : LineReader) (inner : ByteSource) : LineReader := { r with inner }

end LineReader

/-! ## Grammars -/

namespace Grammar

variable {σ ι ν : Type} {g : Grammar σ ι ν} {verbose : Bool} {p : Position LineReader σ}

/-- A position is another one with its own source if they differ in their sources only. -/
theorem Position.eq_withUnread {R : Type} [LineSource R] {p q : Position R σ}
    (h : p.overLines = q.overLines) : p = q.withUnread p.scope.unread := by
  have hmemory : p.memory = q.memory := congrArg (·.memory) h
  have hstate : p.scope.state = q.scope.state := congrArg (·.scope.state) h
  have hmessages : p.scope.messages = q.scope.messages := congrArg (·.scope.messages) h
  unfold Position.withUnread Scope.withUnread
  rw [← hmemory, ← hstate, ← hmessages]

/-- **A reaction reads nothing** from an exhausted reader, and so it is the same with any other
one. -/
theorem follow_of_exhausted (r : Reaction ν σ) (h : p.scope.unread.exhausted = true)
    {other : LineReader} (hother : other.exhausted = true) :
    (p.withUnread other).follow verbose r = (p.follow verbose r).withUnread other := by
  have hlines : (p.withUnread other).overLines = p.overLines := by
    have hnone : LineSource.lines other = LineSource.lines p.scope.unread :=
      (LineReader.lines_of_exhausted hother).trans (LineReader.lines_of_exhausted h).symm
    exact congrArg p.withUnread hnone
  have hfollow : ((p.withUnread other).follow verbose r).overLines
      = (p.follow verbose r).overLines := by
    rw [follow_overLines, follow_overLines, hlines]
  have hunread : ((p.withUnread other).follow verbose r).scope.unread = other :=
    LineReader.eq_of_reads (Reaction.run_reads verbose r (p.scope.withUnread other)) hother
  rw [Position.eq_withUnread hfollow, hunread]

/-- A parser that takes statements without being done exhausts its reader. -/
theorem exhausted_consume (h : (g.consume verbose p).scope.state.done = false) :
    (g.consume verbose p).scope.unread.exhausted = true := by
  fun_induction consume g verbose p with
  | case1 p hd => exact absurd (h.symm.trans hd) Bool.false_ne_true
  | case2 p hd source hn => exact LineReader.exhausted_of_nextStatement_none hn
  | case3 p hd statement source hn ih => exact ih h

/-- **A parse leaves an exhausted reader**, or a parser that is done. -/
theorem exhausted_parse (h : (g.parse verbose p).scope.state.done = false) :
    (g.parse verbose p).scope.unread.exhausted = true := by
  unfold parse at h ⊢
  dsimp only at h ⊢
  split at h
  · next hd => exact absurd (h.symm.trans hd) Bool.false_ne_true
  · next hd =>
    rw [Bool.not_eq_true] at hd
    have he := exhausted_consume hd
    rw [if_neg (by simp [hd])]
    have hsame : ((g.consume verbose p).follow verbose
        (g.atEnd (g.consume verbose p).memory)).scope.unread = (g.consume verbose p).scope.unread :=
      LineReader.eq_of_reads (Reaction.run_reads ..) he
    rw [hsame]
    exact he

/-- With an exhausted reader, a parse does what is done at an early end, and only that. -/
theorem parse_of_exhausted (hd : p.scope.state.done = false)
    (he : p.scope.unread.exhausted = true) :
    g.parse verbose p = p.follow verbose (g.atEnd p.memory) := by
  have hconsume : g.consume verbose p = p :=
    consume_of_none g verbose (by simp [hd]) (LineReader.nextStatement_of_exhausted he)
  unfold parse
  dsimp only
  rw [hconsume, if_neg (by simp [hd])]

/-- **A parser that is run once more** does nothing if it is done, and only what is done at an early
end if it is not. It reads nothing: any source of bytes can be put in the place of its own, and is
left as it is. Either the first run is done, or its reader is exhausted, and then the second run is
the reaction to an early end. -/
theorem parse_parse (g : Grammar σ ι ν) (verbose : Bool) (p : Position LineReader σ)
    (inner : ByteSource) :
    let q := g.parse verbose p
    let other := q.scope.unread.rewired inner
    g.parse verbose (q.withUnread other) = (g.parse verbose q).withUnread other ∧
      (q.scope.state.done = true → g.parse verbose q = q) ∧
      (q.scope.state.done = false →
        g.parse verbose q = q.follow verbose (g.atEnd q.memory)) := by
  intro q other
  refine ⟨?_, parse_of_done verbose, fun hd => parse_of_exhausted hd (exhausted_parse hd)⟩
  rcases hd : q.scope.state.done with _ | _
  · have he : q.scope.unread.exhausted = true := exhausted_parse hd
    have hother : other.exhausted = true := he
    rw [parse_of_exhausted hd he, parse_of_exhausted (p := q.withUnread other) hd hother]
    exact follow_of_exhausted _ he hother
  · rw [parse_of_done verbose hd]
    exact parse_of_done verbose (p := q.withUnread other) hd

end Grammar

/-! ## Dialects -/

/-- What a parser of the dialect says at an early end, if the dialect is that of a tool. -/
def Dialect.complaint : Dialect → List Message
  | .latex master => [.abnormalTermination (String.ofList (Typesetting.logFile master))]
  | _ => []

/-- **Tools only complain** at an early end. -/
theorem Dialect.follow_atEnd {d : Dialect} (hd : d.isTool = true) (verbose : Bool)
    {R : Type} [LineSource R] (p : Grammar.Position R d.grammar.σ) :
    let q := p.follow verbose (d.grammar.rules.atEnd p.memory)
    q.memory = p.memory ∧ q.scope.state = p.scope.state ∧
      q.scope.messages.toList = p.scope.messages.toList ++ d.complaint := by
  cases d with
  | latex master => exact ⟨rfl, rfl, Array.toList_push⟩
  | custom rules atEnd => exact Bool.noConfusion hd
  | _ => exact ⟨rfl, rfl, (List.append_nil _).symm⟩

/-- **To parse again is safe.** Let a parser of any dialect, of a tool or custom, be run some number
of times on a reader, whatever comes of its bytes, and then once more. It reads nothing that time:
any bytes can be put in the place of those that are still to come, and all of them are still there
afterwards, while nothing else is changed by them. If the parser was done, it stays exactly as it
was, with its messages, its state, its outcome and what it remembers. If it was not done, all that
happens is what its grammar does at an early end, and that happens once. A tool then stays in its
state, with its outcome, and remembers the same; an engine says that its transcript ended too early,
and the others say nothing. Of all runs before it, only the last one matters, which leaves the
parser done or its reader exhausted. -/
theorem Dialect.parsing_again (d : Dialect) (verbose : Bool) (source : LineReader) (n : ℕ)
    (inner : ByteSource) :
    let g := d.grammar.rules
    let p := (g.parse verbose)^[n + 1] (g.begin source)
    let again := g.parse verbose p
    let other := p.scope.unread.rewired inner
    again.scope.unread = p.scope.unread ∧
      g.parse verbose (p.withUnread other) = again.withUnread other ∧
      (p.scope.state.done = true → again = p) ∧
      (p.scope.state.done = false →
        again = p.follow verbose (g.atEnd p.memory) ∧
          (d.isTool = true → again.memory = p.memory ∧ again.scope.state = p.scope.state ∧
            again.scope.messages.toList = p.scope.messages.toList ++ d.complaint)) := by
  intro g p again other
  have hp : p = g.parse verbose ((g.parse verbose)^[n] (g.begin source)) :=
    Function.iterate_succ_apply' ..
  have hagain (inner : ByteSource) :=
    g.parse_parse verbose ((g.parse verbose)^[n] (g.begin source)) inner
  rw [← hp] at hagain
  obtain ⟨hother, hdone, hgoing⟩ := hagain inner
  -- its own source of bytes is one of those that can be put in its place
  obtain ⟨hown, -⟩ := hagain p.scope.unread.inner
  refine ⟨congrArg (·.scope.unread) hown, hother, hdone, fun hd => ⟨hgoing hd, fun htool => ?_⟩⟩
  show (g.parse verbose p).memory = _ ∧ (g.parse verbose p).scope.state = _ ∧
    (g.parse verbose p).scope.messages.toList = _
  rw [hgoing hd]
  exact Dialect.follow_atEnd htool verbose p

end TexTranscript
