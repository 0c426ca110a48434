import TexTranscript.Proofs.Capture
import TexTranscript.Proofs.Fatality

/-!
# No parse goes beyond its limits

A parse is limited by the lines of its transcript. Each statement uses up a line at
least, and so does each single line that is asked for, at whatever level; when the
lines are used up every parser that is at work comes to its end. To say so for all
levels at once, the source itself keeps count of what it has answered (`Metered`).
That changes nothing in the parse, which depends on the lines alone.

What is counted is limited in turn. A statement that is dealt with at one level adds
one finding there at most, and a level is absorbed by the one above, which adds
nothing of its own. So there are no more findings than statements, and no more marks
than findings (`Metered.Pays`). This survives every statement at every level, and so
holds all the way.

Counters that can count the lines can therefore count everything else. That they never
run over is not only a matter of where they stand in the end, since a parse takes
counts over from others that started from nothing; `ParseState.replay?` makes every
single entry with counters that refuse to run over, and none is refused.

## Main definitions

* `Metered` – a source that keeps count of what it has answered.
* `Metered.Pays` – there are no more findings than statements, nor marks than findings.
* `Dialect.ownCounts` – what a grammar counts besides.
* `ParseState.replay?` – happenings, with counters that refuse to run over.
* `Dialect.WithinLimits` – a parser stays within its limits.

## Main statements

* `Metered.sustained_pays` – findings are paid for, at every level.
* `ParseState.replay?_eq` – nothing is refused that can be stored in the end.
* `parse_within_limits` – no parse goes beyond its limits.
-/

namespace TexTranscript

/-! ## Lines are used up -/

namespace LineSource

variable {R : Type} [LineSource R] {r r' : R}

/-- **A line that is answered is used up.** A statement can join lines, but a line is one. -/
theorem length_lines_takeLine {line : Text} (h : takeLine r = (some line, r')) :
    (lines r).length = (lines r').length + 1 := by
  have hl := lines_takeLine r
  rw [h] at hl
  cases hr : lines r with
  | nil =>
    rw [hr] at hl
    exact absurd (congrArg Prod.fst hl) (Option.some_ne_none line)
  | cons l ls =>
    rw [hr] at hl
    have hrest : lines r' = ls := congrArg Prod.snd hl
    rw [List.length_cons, hrest]

end LineSource

/-- **A source that keeps count** of the statements and of the single lines that it has
answered. -/
structure Metered (R : Type) where
  source : R
  statements : Nat := 0
  lookAheads : Nat := 0

namespace Metered

variable {R : Type} [LineSource R]

instance : LineSource (Metered R) where
  lines m := LineSource.lines m.source
  takeStatement m :=
    match LineSource.takeStatement m.source with
    | (some statement, source) =>
      (some statement, { m with source, statements := m.statements + 1 })
    | (none, source) => (none, { m with source })
  takeLine m :=
    match LineSource.takeLine m.source with
    | (some line, source) => (some line, { m with source, lookAheads := m.lookAheads + 1 })
    | (none, source) => (none, { m with source })
  lines_takeStatement m := by
    rw [← LineSource.lines_takeStatement m.source]
    split
    · next h => rw [h]; rfl
    · next h => rw [h]; rfl
  lines_takeLine m := by
    rw [← LineSource.lines_takeLine m.source]
    split
    · next h => rw [h]; rfl
    · next h => rw [h]; rfl

/-- **A source comes after another one**: it has answered more, and has fewer lines left by that
much at least. -/
structure ComesAfter (m m' : Metered R) : Prop where
  statements : m.statements ≤ m'.statements
  lookAheads : m.lookAheads ≤ m'.lookAheads
  lines : m'.statements + m'.lookAheads + (LineSource.lines m').length
    ≤ m.statements + m.lookAheads + (LineSource.lines m).length

variable {m m' m'' : Metered R}

theorem ComesAfter.refl (m : Metered R) : m.ComesAfter m :=
  ⟨Nat.le_refl _, Nat.le_refl _, Nat.le_refl _⟩

theorem ComesAfter.trans (h : m.ComesAfter m') (h' : m'.ComesAfter m'') : m.ComesAfter m'' :=
  ⟨h.statements.trans h'.statements, h.lookAheads.trans h'.lookAheads, h'.lines.trans h.lines⟩

/-- A statement that is answered is counted. -/
theorem statements_of_takeStatement {statement : Text}
    (h : LineSource.takeStatement m = (some statement, m')) :
    m'.statements = m.statements + 1 := by
  change (match LineSource.takeStatement m.source with
    | (some statement, source) => _
    | (none, source) => _) = _ at h
  split at h
  · obtain ⟨-, rfl⟩ := Prod.mk.inj h
    rfl
  · exact absurd (congrArg Prod.fst h) (Option.some_ne_none _).symm

/-- Where a statement is asked for, the source comes after what it was: what is answered is taken
out of the lines that are left. -/
theorem comesAfter_takeStatement (m : Metered R) :
    m.ComesAfter (LineSource.takeStatement m).2 := by
  rcases h : LineSource.takeStatement m.source with ⟨_ | statement, source⟩
  · have hm : LineSource.takeStatement m = (none, { m with source }) := by
      simp only [LineSource.takeStatement, h]
    have hlines : LineSource.lines ({ m with source } : Metered R) = [] :=
      (LineSource.lines_of_takeStatement_none h).2
    rw [hm]
    refine ⟨Nat.le_refl _, Nat.le_refl _, ?_⟩
    rw [hlines]
    exact Nat.le_add_right _ _
  · have hm : LineSource.takeStatement m
        = (some statement, { m with source, statements := m.statements + 1 }) := by
      simp only [LineSource.takeStatement, h]
    have hlines : (LineSource.lines source).length < (LineSource.lines m).length :=
      LineSource.lines_length_lt h
    rw [hm]
    refine ⟨Nat.le_succ _, Nat.le_refl _, ?_⟩
    show m.statements + 1 + m.lookAheads + (LineSource.lines source).length ≤ _
    omega

/-- Where a line is asked for, the source comes after what it was. -/
theorem comesAfter_takeLine (m : Metered R) : m.ComesAfter (LineSource.takeLine m).2 := by
  rcases h : LineSource.takeLine m.source with ⟨_ | line, source⟩
  · have hm : LineSource.takeLine m = (none, { m with source }) := by
      simp only [LineSource.takeLine, h]
    have hlines : (LineSource.lines source).length ≤ (LineSource.lines m).length := by
      have hreads : LineSource.Reads m.source (LineSource.takeLine m.source).2 :=
        LineSource.Reads.nothing.line
      rw [h] at hreads
      exact hreads.lines_suffix.length_le
    rw [hm]
    exact ⟨Nat.le_refl _, Nat.le_refl _, Nat.add_le_add_left hlines _⟩
  · have hm : LineSource.takeLine m
        = (some line, { m with source, lookAheads := m.lookAheads + 1 }) := by
      simp only [LineSource.takeLine, h]
    have hlines : (LineSource.lines m).length = (LineSource.lines source).length + 1 :=
      LineSource.length_lines_takeLine h
    rw [hm]
    refine ⟨Nat.le_refl _, Nat.le_succ _, ?_⟩
    show m.statements + (m.lookAheads + 1) + (LineSource.lines source).length ≤ _
    omega

/-- **Whatever is asked**, the source comes after what it was. -/
theorem comesAfter_of_reads (h : LineSource.Reads m m') : m.ComesAfter m' := by
  induction h with
  | nothing => exact .refl m
  | statement _ ih => exact ih.trans (comesAfter_takeStatement _)
  | line _ ih => exact ih.trans (comesAfter_takeLine _)

/-! ## Findings are paid for -/

/-- **Findings are paid for with statements.** Since a parser started on a source, there have been
no more findings than statements, at whatever level these were dealt with, and there are no more
marks than findings. -/
structure Pays (start : Metered R) (s : ParseState) (m : Metered R) : Prop where
  comesAfter : start.ComesAfter m
  findings : s.outcome.findings + start.statements ≤ m.statements
  marks : s.marks.length ≤ s.outcome.findings

/-- There are no more findings than lines that were read. -/
theorem Pays.findings_le {start : Metered R} {s : ParseState} (h : start.Pays s m) :
    s.outcome.findings + (LineSource.lines m).length ≤ (LineSource.lines start).length := by
  have hlines := h.comesAfter.lines
  have hlookAheads := h.comesAfter.lookAheads
  have hfindings := h.findings
  omega

end Metered

namespace ParseState

variable {s s' inner : ParseState}

/-- A state that advances has one finding more at most. -/
theorem Advances.findings_le (h : s.Advances s') :
    s'.outcome.findings ≤ s.outcome.findings + 1 := by
  unfold outcome
  cases h with
  | found what mark? single marked tally_eq marks_eq =>
    rw [tally_eq, Outcome.findings_add]
    exact Nat.add_le_add_left single.findings _
  | newRun tally_eq marks_eq =>
    rw [tally_eq]
    exact Nat.le_succ _

/-- A state that advances has a new mark only for a finding. -/
theorem Advances.marks_le (h : s.Advances s') (hs : s.marks.length ≤ s.outcome.findings) :
    s'.marks.length ≤ s'.outcome.findings := by
  unfold outcome at hs ⊢
  cases h with
  | found what mark? single marked tally_eq marks_eq =>
    rw [tally_eq, marks_eq, List.length_append, Outcome.findings_add]
    exact Nat.add_le_add hs marked
  | newRun tally_eq marks_eq =>
    rw [tally_eq, marks_eq]
    exact hs

/-- One that absorbs another has what both have found. -/
theorem Absorbs.findings_eq (h : s.Absorbs inner s') :
    s'.outcome.findings = s.outcome.findings + inner.outcome.findings := by
  unfold outcome
  rw [h.tally_eq]
  exact Outcome.findings_add _ _

/-- A state that absorbs another one has marks for findings only if that one has. -/
theorem Absorbs.marks_le (h : s.Absorbs inner s') (hs : s.marks.length ≤ s.outcome.findings)
    (hinner : inner.marks.length ≤ inner.outcome.findings) :
    s'.marks.length ≤ s'.outcome.findings := by
  rw [h.findings_eq]
  rcases h.marks_eq with hmarks | hmarks
  · rw [hmarks]
    exact hs.trans (Nat.le_add_right _ _)
  · rw [hmarks]
    exact hinner.trans (Nat.le_add_left _ _)

end ParseState

/-- **Findings are paid for, at every level.** A statement was counted before it was reacted to,
which pays for the one finding that it can be; and a parser that is called pays for its own out of
the same lines. -/
theorem Metered.sustained_pays {R : Type} [LineSource R] :
    Sustained (Pays : Metered R → ParseState → Metered R → Prop) where
  start source := ⟨.refl source, Nat.le_of_eq (Nat.zero_add _), Nat.le_refl 0⟩
  ask h hreads := by
    have hafter := comesAfter_of_reads hreads
    exact ⟨h.comesAfter.trans hafter, h.findings.trans hafter.statements, h.marks⟩
  advance h hn hreads hs := by
    have hstatement := statements_of_takeStatement hn
    have hbehind := comesAfter_of_reads (LineSource.Reads.of_takeStatement hn)
    have hafter := comesAfter_of_reads hreads
    refine ⟨(h.comesAfter.trans hbehind).trans hafter, ?_, hs.marks_le h.marks⟩
    have hfindings := h.findings
    have hmore := hs.findings_le
    have hlater := hafter.statements
    omega
  absorb h hn hinner hs := by
    have hstatement := statements_of_takeStatement hn
    have hbehind := comesAfter_of_reads (LineSource.Reads.of_takeStatement hn)
    refine ⟨(h.comesAfter.trans hbehind).trans hinner.comesAfter, ?_,
      hs.marks_le h.marks hinner.marks⟩
    have hfindings := h.findings
    have hfound := hinner.findings
    rw [hs.findings_eq]
    omega

/-! ## What is counted besides -/

namespace Dialect

/-- **What a grammar counts besides**: the runs and the rounds of latexmk, and how often makeindex
was called. -/
def ownCounts : (d : Dialect) → d.grammar.σ → List Nat
  | .latexmk _ _, (memory : Build.Memory) => [memory.runs, memory.rounds]
  | .makeglossaries _, (memory : Glossary.Memory) => [memory.makeindexRuns]
  | _, _ => []

variable {R : Type} [LineSource R] {d : Dialect} {verbose : Bool}

/-- A statement of makeglossaries is one call at most. -/
theorem makeindexRuns_dispatch (verbose : Bool) (statement : Text)
    (p : Grammar.Position R Glossary.Memory) :
    (Glossary.grammar.dispatch verbose statement p).memory.makeindexRuns
      ≤ p.memory.makeindexRuns + 1 := by
  unfold Grammar.dispatch
  rcases Glossary.grammar.classify statement with _ | found
  · cases verbose with
    | true => exact Nat.le_succ _
    | false => exact Nat.le_succ _
  · cases found with
    | makeindex number => exact Nat.le_refl _
    | _ => exact Nat.le_succ _

/-- **For one statement, one more is counted at most.** Only two tools count anything of their own,
and they do so in their reactions to a statement. -/
theorem ownCounts_dispatch (d : Dialect) (verbose : Bool) (statement : Text)
    (p : Grammar.Position R d.grammar.σ) :
    ∀ n ∈ d.ownCounts (d.grammar.rules.dispatch verbose statement p).memory,
      ∃ k ∈ d.ownCounts p.memory, n ≤ k + 1 := by
  cases d with
  | latexmk master watching =>
    obtain ⟨hruns, hrounds⟩ := Build.dispatch_counts master watching verbose statement p
    have hone (q : Prop) [Decidable q] (k : Nat) : k + (if q then 1 else 0) ≤ k + 1 := by
      split <;> omega
    refine List.forall_mem_cons.2 ⟨⟨_, List.mem_cons_self, ?_⟩,
      List.forall_mem_singleton.2 ⟨_, List.mem_cons_of_mem _ List.mem_cons_self, ?_⟩⟩
    · exact (Nat.le_of_eq hruns).trans (hone _ _)
    · exact (Nat.le_of_eq hrounds).trans (hone _ _)
  | makeglossaries query =>
    exact List.forall_mem_singleton.2
      ⟨_, List.mem_cons_self, makeindexRuns_dispatch verbose statement p⟩
  | _ => exact List.forall_mem_nil _

/-- At first nothing is counted. -/
theorem ownCounts_start (d : Dialect) : ∀ n ∈ d.ownCounts d.grammar.rules.start, n = 0 := by
  cases d with
  | latexmk master watching => exact List.forall_mem_cons.2 ⟨rfl, List.forall_mem_singleton.2 rfl⟩
  | makeglossaries query => exact List.forall_mem_singleton.2 rfl
  | _ => exact List.forall_mem_nil _

/-- **Nothing is counted more often than lines are read.** The induction is on the statements that
the parser has passed, each of which has used up a line. -/
theorem ownCounts_le {source : R} {p : Grammar.Position R d.grammar.σ}
    (h : d.Passes verbose source p) : ∀ n ∈ d.ownCounts p.memory,
      n + (LineSource.lines p.scope.unread).length ≤ (LineSource.lines source).length := by
  unfold Passes at h
  induction h with
  | here =>
    intro n hn
    rw [d.ownCounts_start n hn, Nat.zero_add]
    exact Nat.le_refl _
  | @statement q statement behind _ _ hn ih =>
    intro n hcount
    obtain ⟨k, hk, hle⟩ := d.ownCounts_dispatch verbose statement (q.withUnread behind) n hcount
    have hbefore := ih k hk
    have hless := d.grammar.rules.dispatch_length_lt verbose hn
    omega

end Dialect

/-! ## Counters that refuse to run over -/

namespace Tally

variable {t : Tally}

/-- A step is not refused that can be stored. -/
theorem record?_eq {step : Step} (hrun : (t.record step).run.IsPartOf (t.record step).total)
    (h : (t.record step).total.Storable) : t.record? step = some (t.record step) := by
  have hrun' : (t.record step).run.Storable := ⟨hrun.errors.trans h.1, hrun.warnings.trans h.2⟩
  unfold record?
  rw [if_pos ⟨hrun', h⟩]

/-- The run stays part of the whole, whatever is entered. -/
theorem isPartOf_record (h : t.run.IsPartOf t.total) (step : Step) :
    (t.record step).run.IsPartOf (t.record step).total := by
  cases step with
  | newRun => exact .of_clean _
  | _ => exact h.add_right _

end Tally

namespace ParseState

mutual

/-- What a happening makes of the state, unless a counter would run over. -/
def after? (s : ParseState) : Happening → Option ParseState
  | .overlooked _ => some s
  | .emitted _ => some s
  | .entered (.count step) => (s.tally.record? step).map fun tally => { s with tally }
  | .entered e => some (s.record e)
  | .delegated within =>
    (replay? {} within).bind fun inner =>
      (s.tally.record? (.absorb inner.outcome)).map fun tally => { s with tally }

/-- **What happenings make of the state**, with counters that refuse to run over. Whoever is handed
the transcript starts with counters of its own. -/
def replay? (s : ParseState) : List Happening → Option ParseState
  | [] => some s
  | h :: hs => (after? s h).bind fun s => replay? s hs

end

/-- The run stays part of the whole, whatever happens. -/
theorem isPartOf_after {s : ParseState} (hs : s.tally.run.IsPartOf s.tally.total) (h : Happening) :
    (s.after h).tally.run.IsPartOf (s.after h).tally.total := by
  cases h with
  | overlooked statement => exact hs
  | emitted message => exact hs
  | entered e =>
    cases e with
    | count step => exact Tally.isPartOf_record hs step
    | _ => exact hs
  | delegated within => exact hs.add_right _

/-- What is counted can be stored if what is counted later can. -/
theorem storable_of_replay {s : ParseState} (hs : List Happening)
    (h : (s.replay hs).outcome.Storable) : s.outcome.Storable := by
  rw [outcome_replay] at h
  exact ⟨(Nat.le_add_right _ _).trans h.1, (Nat.le_add_right _ _).trans h.2⟩

mutual

/-- What happens is not refused if it can be stored afterwards; the recursion goes into what
happened in other hands. -/
theorem after?_eq : ∀ (h : Happening) {s : ParseState}, s.tally.run.IsPartOf s.tally.total →
    (s.after h).outcome.Storable → s.after? h = some (s.after h)
  | .overlooked _, _, _, _ => by simp [after?, after]
  | .emitted _, _, _, _ => by simp [after?, after]
  | .entered (.count step), s, hs, hstore => by
    rw [after?, Tally.record?_eq (Tally.isPartOf_record hs step) hstore]
    rfl
  | .entered .finish, _, _, _ => by simp [after?, after]
  | .entered (.enterFile _), _, _, _ => by simp [after?, after]
  | .entered (.addMark _), _, _, _ => by simp [after?, after]
  | .entered (.replaceMarks _), _, _, _ => by simp [after?, after]
  | .delegated within, s, hs, hstore => by
    rw [after_delegated] at hstore ⊢
    -- what is counted in between is part of what is counted in the end
    have hinner : (({} : ParseState).replay within).outcome.Storable :=
      ⟨(Nat.le_add_left _ _).trans hstore.1, (Nat.le_add_left _ _).trans hstore.2⟩
    have habsorb := Tally.record?_eq
      (Tally.isPartOf_record hs (.absorb (({} : ParseState).replay within).outcome)) hstore
    rw [after?, replay?_eq within (.refl _) hinner, Option.bind_some, habsorb]
    rfl

/-- **Nothing is refused that can be stored in the end.** Counts never shrink, so what can be stored
in the end can be stored before. -/
theorem replay?_eq : ∀ (hs : List Happening) {s : ParseState},
    s.tally.run.IsPartOf s.tally.total → (s.replay hs).outcome.Storable →
      s.replay? hs = some (s.replay hs)
  | [], _, _, _ => by simp [replay?]
  | h :: hs, s, hrun, hstore => by
    have hfirst := after?_eq h hrun (storable_of_replay hs hstore)
    rw [replay?, hfirst]
    exact replay?_eq hs (isPartOf_after hrun h) hstore

end

end ParseState

/-! ## Staying within the limits -/

namespace Dialect

variable {R : Type} [LineSource R] {d d' : Dialect} {verbose : Bool}

/-- A parser that is at work has no more lines ahead of it than the outermost one. Each call uses up
the statement that makes it. -/
theorem AtWork.lines_le {source source' : R} (h : d.AtWork verbose source d' source') :
    (LineSource.lines source').length ≤ (LineSource.lines source).length := by
  induction h with
  | outermost => exact Nat.le_refl _
  | called _ hp _ hn _ ih =>
    have hpassed := hp.reads.lines_suffix.length_le
    have hless := LineSource.lines_length_lt hn
    exact (Nat.le_of_lt hless).trans (hpassed.trans ih)

/-- **A parser stays within its limits**, on a source that keeps count. -/
structure WithinLimits (d : Dialect) (verbose : Bool) (source : Metered R) : Prop where
  complete : ∀ rule ∈ d.grammar.rules.rules, rule.Complete
  /-- The parse comes to an end, where it is done or no line is left. -/
  ends : ∃ p, d.Passes verbose source p ∧ (d.parse verbose source).memory = p.memory ∧
    (d.parse verbose source).scope.state = p.scope.state ∧
    (p.scope.state.done = false → LineSource.lines (d.parse verbose source).scope.unread = [])
  /-- A statement uses up a line at least, and what it adds is one finding at most, or what the
  parser found that it hands the transcript to. -/
  statement : ∀ p, d.Passes verbose source p → ∀ statement behind,
    LineSource.takeStatement p.scope.unread = (some statement, behind) →
    (LineSource.lines behind).length < (LineSource.lines p.scope.unread).length ∧
    let next := d.grammar.rules.dispatch verbose statement (p.withUnread behind)
    match d.handsTo? statement with
    | none => next.scope.state.outcome.findings ≤ p.scope.state.outcome.findings + 1
    | some called => next.scope.state.outcome.findings = p.scope.state.outcome.findings
        + (called.parse verbose behind).scope.state.outcome.findings
  pays : ∀ p, d.Passes verbose source p → source.Pays p.scope.state p.scope.unread
  paid : source.Pays (d.parse verbose source).scope.state (d.parse verbose source).scope.unread
  counts : ∀ p, d.Passes verbose source p → ∀ n ∈ d.ownCounts p.memory,
    n + (LineSource.lines p.scope.unread).length ≤ (LineSource.lines source).length

/-- **Every tool stays within its limits.** -/
theorem withinLimits (hd : d.isTool = true) (verbose : Bool) (source : Metered R) :
    d.WithinLimits verbose source where
  complete := rules_complete hd
  ends := by
    obtain ⟨p, hp, hmemory, hstate, -, hlines⟩ := exists_passes_parse hd verbose source
    exact ⟨p, hp, hmemory, hstate, hlines⟩
  statement p _ statement behind hn := by
    refine ⟨LineSource.lines_length_lt hn, ?_⟩
    dsimp only
    split
    · next hands => exact (dispatch_advances hd hands verbose (p.withUnread behind)).findings_le
    · next called hands =>
      exact (dispatch_absorbs hands verbose (p.withUnread behind)).1.findings_eq
  pays _ hp := Metered.sustained_pays.passes hd hp
  paid := Metered.sustained_pays.parse hd verbose source
  counts _ hp := ownCounts_le hp

/-- **Counters that can count the lines can count everything.** There are no more findings than
lines, and no count is above that of the findings. -/
theorem storable_of_passes (hd : d.isTool = true) {source : Metered R}
    (hlines : (LineSource.lines source).length ≤ Outcome.maxCount)
    {p : Grammar.Position (Metered R) d.grammar.σ} (hp : d.Passes verbose source p) :
    p.scope.state.tally.run.Storable ∧ p.scope.state.tally.total.Storable ∧
      ∀ n ∈ d.ownCounts p.memory, n ≤ Outcome.maxCount := by
  have hfindings := (Metered.sustained_pays.passes hd hp).findings_le
  have htotal : p.scope.state.tally.total.Storable := by
    unfold ParseState.outcome Outcome.findings at hfindings
    constructor <;> omega
  have hrun := (sustained_sound.passes hd hp).within
  refine ⟨⟨hrun.errors.trans htotal.1, hrun.warnings.trans htotal.2⟩, htotal, fun n hn => ?_⟩
  have hcount := ownCounts_le hp n hn
  omega

end Dialect

/-- **No parse goes beyond its limits**, for every tool and every source, whether the transcript can
be read to its end or not. The source may keep count, which makes no difference to the parse. Then
every parser that is at work in its course, at whatever level, stays within its limits: it comes to
its end, it does not look at a group that takes no part, each statement uses up a line and adds one
finding at most to what is found altogether. So the findings of the whole parse are no more than the
lines that were read, and its marks no more than its findings. Single lines are used up as well, and
what is looked for in them is read. If there are fewer than `2 ^ 64` lines, no counter runs over at
any level, whatever is entered. The source is given a meter, which changes nothing of a parse, and
all bounds are those of what is sustained about the metered source. -/
theorem parse_within_limits {d : Dialect} (hd : d.isTool = true) (verbose : Bool) {R : Type}
    [LineSource R] (source : R) :
    let start : Metered R := { source }
    let result := (d.parse verbose source).scope
    (d.parse verbose start).overLines = (d.parse verbose source).overLines ∧
    (∀ d' source', d.AtWork verbose start d' source' → d'.WithinLimits verbose source') ∧
    result.state.outcome.findings + (LineSource.lines result.unread).length
      ≤ (LineSource.lines source).length ∧
    result.state.marks.length ≤ result.state.outcome.findings ∧
    (∀ (r r' : R) (line : Text), LineSource.takeLine r = (some line, r') →
      (LineSource.lines r).length = (LineSource.lines r').length + 1) ∧
    (∀ text, Typesetting.inputLine.matchesStart text = true →
      (Typesetting.inputLine? text).isSome = true) ∧
    ((LineSource.lines source).length < 2 ^ 64 →
      (∃ hs memory unread,
        d.grammar.rules.Unfolds (.resting d.grammar.rules.start) {} source hs memory unread ∧
        ParseState.replay? {} hs = some result.state) ∧
      ∀ d' source' p, d.AtWork verbose start d' source' → d'.Passes verbose source' p →
        p.scope.state.tally.run.Storable ∧ p.scope.state.tally.total.Storable ∧
        ∀ n ∈ d'.ownCounts p.memory, n ≤ Outcome.maxCount) := by
  intro start result
  have hsame : (d.parse verbose start).overLines = (d.parse verbose source).overLines :=
    (d.grammar.rules.parse_overLines verbose (d.grammar.rules.begin start)).trans
      (d.grammar.rules.parse_overLines verbose (d.grammar.rules.begin source)).symm
  have hstate : (d.parse verbose start).scope.state = result.state :=
    congrArg (fun p => p.scope.state) hsame
  have hleft :
      LineSource.lines (d.parse verbose start).scope.unread = LineSource.lines result.unread :=
    congrArg (fun p => p.scope.unread) hsame
  have hwithin (d' source') (hwork : d.AtWork verbose start d' source') :
      d'.WithinLimits verbose source' :=
    Dialect.withinLimits (hwork.isTool hd) verbose source'
  -- the meter starts at zero, so that every finding has a line of the source to pay for it
  have hpaid := (hwithin d start .outermost).paid
  rw [hstate] at hpaid
  have hfindings : result.state.outcome.findings + (LineSource.lines result.unread).length
      ≤ (LineSource.lines source).length := hleft ▸ hpaid.findings_le
  refine ⟨hsame, hwithin, hfindings, hpaid.marks, fun _ _ _ => LineSource.length_lines_takeLine,
    fun _ => Typesetting.inputLine?_of_matchesStart,
    fun hfew => ⟨?_, fun d' source' p hwork hp => ?_⟩⟩
  · obtain ⟨hs, memory, unread, hunfolds, -⟩ := Dialect.unfoldable_of_isTool hd source
    have hreplay : result.state = ParseState.replay {} hs :=
      congrArg (fun p => p.scope.state) (hunfolds.parse_eq verbose)
    -- the two counts together are no more than the lines
    have hstorable : result.state.outcome.Storable := by
      have hmax : Outcome.maxCount = 2 ^ 64 - 1 := rfl
      unfold Outcome.findings at hfindings
      constructor <;> omega
    rw [hreplay] at hstorable ⊢
    exact ⟨hs, memory, unread, hunfolds, ParseState.replay?_eq hs (.refl _) hstorable⟩
  · have hlines : (LineSource.lines source').length ≤ Outcome.maxCount :=
      hwork.lines_le.trans (Nat.le_pred_of_lt hfew)
    exact Dialect.storable_of_passes (hwork.isTool hd) hlines hp

/-- The engine that is called in a build of three lines stays within its limits, and the build has
three findings at most. -/
theorem parse_within_limits_build :
    let transcript := ["This is pdfTeX".toList, " ==> Fatal error occurred".toList,
      "Latexmk: Log file says output to 'main.pdf'".toList]
    let source := transcript.map fun line => (⟨Utf8.encode line, true⟩ : Line)
    let start : Metered (List Line) := { source }
    let behind : Metered (List Line) := { source := source.tail, statements := 1 }
    let build := Dialect.latexmk "main.tex".toList true
    let engine := Dialect.latex "main.tex".toList
    let result := (build.parse false source).scope
    build.isTool = true ∧ (LineSource.lines source).length < 2 ^ 64 ∧
      build.AtWork false start engine behind ∧ engine.WithinLimits false behind ∧
      result.state.outcome.findings + (LineSource.lines result.unread).length ≤ 3 ∧
      ∃ hs, ParseState.replay? {} hs = some result.state := by
  intro transcript source start behind build engine result
  have hn : LineSource.takeStatement start = (some "This is pdfTeX".toList, behind) := by
    show (some (Utf8.decodeLossy (Utf8.encode "This is pdfTeX".toList)), behind) = _
    rw [Utf8.decodeLossy_encode]
  have hcalled : build.AtWork false start engine behind :=
    .called .outermost .here rfl hn (by cbv)
  have hfew : (LineSource.lines source).length < 2 ^ 64 := by decide
  obtain ⟨-, hwithin, hfindings, -, -, -, hcounters⟩ :=
    parse_within_limits (d := build) rfl false source
  obtain ⟨⟨hs, -, -, -, hreplay⟩, -⟩ := hcounters hfew
  exact ⟨rfl, hfew, hcalled, hwithin _ _ hcalled, hfindings, hs, hreplay⟩

end TexTranscript
