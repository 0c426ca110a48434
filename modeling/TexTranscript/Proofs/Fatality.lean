import TexTranscript.Proofs.Levels
import TexTranscript.Proofs.Watching

/-!
# What is fatal is an error

The fatal flag is raised in several places: by a line that says so, by the description
of an error, by the line behind an argument that never ended, and by whatever a parser
was told that was at work meanwhile. Nowhere is it raised but for an error that is
counted as well. So an outcome that is fatal has an error, the one since the last run
began no less than the one of everything, and the first never exceeds the second: a
new run only drops it (`Tally.Sound`).

Neither is anything taken back. What was found altogether grows from statement to
statement and from round to round.

## Main definitions

* `Outcome.IsPartOf` – there is no more in one outcome than in another.
* `Tally.Sound` – what is fatal is an error, and the run is part of the whole.
* `Build.ReportsSoundly` – the same of the rounds that were reported.

## Main statements

* `Dialect.outcome_dispatch` – what was found grows with every statement.
* `sustained_sound` – soundness survives every statement, at every level.
* `fatal_implies_error` – every tally of a tool is sound, wherever it rests.
-/

namespace TexTranscript

/-- **One outcome is part of another**: there is no more of anything, and it is fatal only if the
other one is. -/
structure Outcome.IsPartOf (o p : Outcome) : Prop where
  fatal : o.fatal = true → p.fatal = true
  errors : o.errors ≤ p.errors
  warnings : o.warnings ≤ p.warnings

namespace Outcome.IsPartOf

variable {o p q : Outcome}

theorem refl (o : Outcome) : o.IsPartOf o := ⟨id, Nat.le_refl _, Nat.le_refl _⟩

theorem trans (h : o.IsPartOf p) (h' : p.IsPartOf q) : o.IsPartOf q :=
  ⟨h'.fatal ∘ h.fatal, h.errors.trans h'.errors, h.warnings.trans h'.warnings⟩

theorem of_clean (o : Outcome) : clean.IsPartOf o :=
  ⟨fun h => Bool.noConfusion h, Nat.zero_le _, Nat.zero_le _⟩

/-- An outcome is part of what it comes to when more is added. -/
theorem add_left (o p : Outcome) : o.IsPartOf (o + p) :=
  ⟨fun h => by rw [fatal_add, h, Bool.true_or], Nat.le_add_right .., Nat.le_add_right ..⟩

/-- The same can be added to both. -/
theorem add_right (h : o.IsPartOf p) (q : Outcome) : (o + q).IsPartOf (p + q) := by
  refine ⟨fun hfatal => ?_, Nat.add_le_add_right h.errors _, Nat.add_le_add_right h.warnings _⟩
  rw [fatal_add, Bool.or_eq_true] at hfatal ⊢
  exact hfatal.imp_left h.fatal

end Outcome.IsPartOf

/-! ## Sound tallies -/

/-- **A tally is sound.** What is fatal has an error, and what was found since the run began is
part of what was found altogether. -/
structure Tally.Sound (t : Tally) : Prop where
  run : t.run.fatal = true → 0 < t.run.errors
  total : t.total.fatal = true → 0 < t.total.errors
  within : t.run.IsPartOf t.total

namespace Tally

variable {t : Tally}

/-- Where nothing was found there is nothing fatal. -/
theorem sound_empty : ({} : Tally).Sound where
  run h := Bool.noConfusion h
  total h := Bool.noConfusion h
  within := .refl _

/-- If two outcomes have an error where they are fatal, so has their sum. -/
theorem errors_pos_of_fatal_add {o p : Outcome} (ho : o.fatal = true → 0 < o.errors)
    (hp : p.fatal = true → 0 < p.errors) (h : (o + p).fatal = true) : 0 < (o + p).errors := by
  rw [Outcome.fatal_add, Bool.or_eq_true] at h
  rcases h with h | h
  · exact Nat.add_pos_left (ho h) _
  · exact Nat.add_pos_right _ (hp h)

/-- A tally stays sound when more is found, as long as there is an error in what is fatal of it. -/
theorem Sound.add (h : t.Sound) {o : Outcome} (ho : o.fatal = true → 0 < o.errors) :
    (Tally.mk (t.run + o) (t.total + o)).Sound where
  run := errors_pos_of_fatal_add h.run ho
  total := errors_pos_of_fatal_add h.total ho
  within := h.within.add_right o

/-- A tally stays sound when a new run begins, of which nothing was found yet. -/
theorem Sound.newRun (h : t.Sound) : (t.record .newRun).Sound where
  run h := Bool.noConfusion h
  total := h.total
  within := .of_clean _

end Tally

namespace ParseState

variable {s s' inner : ParseState}

/-- A state that advances stays sound: what a single report counts as fatal it counts as an error
too. -/
theorem Advances.sound (h : s.Advances s') (hs : s.tally.Sound) : s'.tally.Sound := by
  cases h with
  | found what mark? single marked tally_eq marks_eq =>
    rw [tally_eq]
    exact hs.add single.fatal
  | newRun tally_eq marks_eq =>
    rw [tally_eq]
    exact hs.newRun

/-- A state that absorbs another one stays sound if that one is. -/
theorem Absorbs.sound (h : s.Absorbs inner s') (hs : s.tally.Sound) (hinner : inner.tally.Sound) :
    s'.tally.Sound := by
  rw [h.tally_eq]
  exact hs.add hinner.total

/-- Nothing is taken back when a state advances. -/
theorem Advances.grows (h : s.Advances s') : s.outcome.IsPartOf s'.outcome := by
  unfold outcome
  cases h with
  | found what mark? single marked tally_eq marks_eq =>
    rw [tally_eq]
    exact .add_left _ _
  | newRun tally_eq marks_eq =>
    rw [tally_eq]
    exact .refl _

/-- Nothing is taken back when a state absorbs another one. -/
theorem Absorbs.grows (h : s.Absorbs inner s') : s.outcome.IsPartOf s'.outcome := by
  unfold outcome
  rw [h.tally_eq]
  exact .add_left _ _

end ParseState

variable {R : Type} [LineSource R]

/-- **Soundness survives every statement**, at every level. This is all there is to show for the
parsers at work anywhere in a parse, whoever has called them. -/
theorem sustained_sound : Sustained fun (_ : R) s (_ : R) => s.tally.Sound where
  start _ := Tally.sound_empty
  ask h _ := h
  advance h _ _ hs := hs.sound h
  absorb h _ hinner hs := hs.sound h hinner

namespace Dialect

variable {d : Dialect} {verbose : Bool}

/-- **What was found grows** with every statement: either the parser reports something itself, or it
absorbs what another one has found. -/
theorem outcome_dispatch (hd : d.isTool = true) (verbose : Bool) (statement : Text)
    (p : Grammar.Position R d.grammar.σ) :
    p.scope.state.outcome.IsPartOf
      (d.grammar.rules.dispatch verbose statement p).scope.state.outcome := by
  cases hands : d.handsTo? statement with
  | none => exact (dispatch_advances hd hands verbose p).grows
  | some called => exact (dispatch_absorbs hands verbose p).1.grows

/-- What was found grows from one position that a parse passes to another. -/
theorem outcome_of_passes (hd : d.isTool = true) {p q : Grammar.Position R d.grammar.σ}
    (h : d.grammar.rules.Passes verbose p q) :
    p.scope.state.outcome.IsPartOf q.scope.state.outcome := by
  induction h with
  | here => exact .refl _
  | @statement q statement behind _ _ _ ih =>
    exact ih.trans (outcome_dispatch hd verbose statement (q.withUnread behind))

/-- What was found grows from every position up to the end of the parse. -/
theorem outcome_parse (hd : d.isTool = true) {source : R}
    {p : Grammar.Position R d.grammar.σ} (h : d.Passes verbose source p) :
    p.scope.state.outcome.IsPartOf (d.parse verbose source).scope.state.outcome := by
  obtain ⟨q, hq, -, hlog, -⟩ := d.grammar.rules.exists_passes_consume verbose p
  have hq' : (d.grammar.rules.consume verbose p).scope.state = q.scope.state :=
    congrArg Log.state hlog
  rw [(parse_eq_consume hd verbose source).2.1, h.consume_eq, hq']
  exact outcome_of_passes hd hq

end Dialect

/-! ## Rounds -/

namespace Build

open Grammar (Position)

/-- The counts that are reported of a round. -/
def RoundReport.tally (report : RoundReport) : Tally := ⟨report.outcome, report.total⟩

/-- **The rounds were reported soundly**: what is fatal in a report is an error, and what was
found altogether has grown since. -/
structure ReportsSoundly (memory : Memory) (state : ParseState) : Prop where
  sound : ∀ report ∈ memory.reports, report.tally.Sound
  within : ∀ report ∈ memory.reports, report.total.IsPartOf state.outcome
  grows : memory.reports.Pairwise fun earlier later => earlier.total.IsPartOf later.total

variable {master : Text} {watching verbose : Bool}

/-- The reports stay sound when more was found. -/
theorem ReportsSoundly.of_le {memory memory' : Memory} {s s' : ParseState}
    (h : ReportsSoundly memory s) (hreports : memory'.reports = memory.reports)
    (hs : s.outcome.IsPartOf s'.outcome) : ReportsSoundly memory' s' := by
  refine ⟨?_, ?_, ?_⟩
  all_goals rw [hreports]
  · exact h.sound
  · exact fun report hreport => (h.within report hreport).trans hs
  · exact h.grows

/-- One more round is reported as it is. It is sound since the state is, and the reports before it
were part of what was found already. -/
theorem ReportsSoundly.report {memory memory' : Memory} {s : ParseState}
    (h : ReportsSoundly memory s) (hs : s.tally.Sound)
    (hreports : memory'.reports = memory.reports ++ [memory.report s]) :
    ReportsSoundly memory' s := by
  refine ⟨?_, ?_, ?_⟩
  all_goals rw [hreports]
  · exact List.forall_mem_append.2 ⟨h.sound, List.forall_mem_singleton.2 hs⟩
  · exact List.forall_mem_append.2 ⟨h.within, List.forall_mem_singleton.2 (.refl _)⟩
  · refine List.pairwise_append.2 ⟨h.grows, List.pairwise_singleton _ _, ?_⟩
    exact fun earlier hearlier later hlater => List.mem_singleton.1 hlater ▸ h.within _ hearlier

/-- **Latexmk reports its rounds soundly**, wherever it passes. Along the statements, the reports
stay as they are or there is one more; and what was found has grown in any case. -/
theorem reportsSoundly_of_passes {source : R} {p : Position R Memory}
    (h : (Dialect.latexmk master watching).Passes verbose source p) :
    ReportsSoundly p.memory p.scope.state := by
  unfold Dialect.Passes at h
  induction h with
  | here => exact ⟨List.forall_mem_nil _, List.forall_mem_nil _, List.Pairwise.nil⟩
  | @statement q statement behind hq hd hn ih =>
    have hgrows : q.scope.state.outcome.IsPartOf _ := Dialect.outcome_dispatch
      (d := .latexmk master watching) rfl verbose statement (q.withUnread behind)
    by_cases hround : EndsRound statement
    · cases watching with
      | true =>
        have hsound : q.scope.state.tally.Sound := sustained_sound.passes
          (d := .latexmk master true) rfl hq
        show ReportsSoundly
          ((grammar master true).dispatch verbose statement (q.withUnread behind)).memory
          ((grammar master true).dispatch verbose statement (q.withUnread behind)).scope.state
        rw [dispatch_roundEnd_watching hround]
        exact ih.report hsound rfl
      | false =>
        refine ih.of_le ?_ hgrows
        show ((grammar master false).dispatch verbose statement
          (q.withUnread behind)).memory.reports = q.memory.reports
        rw [dispatch_roundEnd_plain hround]
        rfl
    · exact ih.of_le (dispatch_reports hround (q.withUnread behind)) hgrows

/-- Of a whole transcript latexmk has reported its rounds soundly as well. -/
theorem reportsSoundly_parse (master : Text) (watching verbose : Bool) (source : R) :
    ReportsSoundly (parse master watching verbose source).memory
      (parse master watching verbose source).scope.state := by
  obtain ⟨p, hp, hmemory, hstate, -⟩ :=
    Dialect.exists_passes_parse (d := .latexmk master watching) rfl verbose source
  have hreports := reportsSoundly_of_passes hp
  rw [← hmemory, ← hstate] at hreports
  exact hreports

end Build

/-- **What is fatal is an error**, for every tool and every source. Consider any parser that is at
work in the course of a parse, at whatever level. At every position that it passes, and when it is
over, its tally is sound: an outcome that is fatal has an error, that of the run as well as that of
everything, and the first is part of the second. The next statement takes nothing back. It advances
the state by one finding at most, or by a new run, unless it hands the transcript to another of
these parsers; then what that one finds is absorbed. And whenever latexmk that keeps watching
reports a round, the counts that it reports are sound, and part of those that it reports later and
of those in the end. The first part is an invariant that is sustained at all levels at once; growth
is shown for a single statement and carried on from there. -/
theorem fatal_implies_error {d : Dialect} (hd : d.isTool = true) (verbose : Bool) (source : R) :
    (∀ d' source', d.AtWork verbose source d' source' →
      (∀ p, d'.Passes verbose source' p →
        p.scope.state.tally.Sound ∧
        p.scope.state.outcome.IsPartOf (d'.parse verbose source').scope.state.outcome ∧
        ∀ statement behind, p.scope.state.done = false →
          LineSource.takeStatement p.scope.unread = (some statement, behind) →
          let next := d'.grammar.rules.dispatch verbose statement (p.withUnread behind)
          p.scope.state.outcome.IsPartOf next.scope.state.outcome ∧
          match d'.handsTo? statement with
          | none => p.scope.state.Advances next.scope.state
          | some called =>
            p.scope.state.Absorbs (called.parse verbose behind).scope.state next.scope.state) ∧
      (d'.parse verbose source').scope.state.tally.Sound) ∧
    ∀ master, d = .latexmk master true →
      let r := parseBuild master true verbose source
      (∀ report ∈ r.rounds, (Tally.mk report.outcome report.total).Sound ∧
        report.total.IsPartOf r.outcome) ∧
      r.rounds.Pairwise fun earlier later => earlier.total.IsPartOf later.total := by
  -- what holds at one parser at work holds at each, since all of them are tools
  refine ⟨fun d' source' hwork => ?_, fun master _ => ?_⟩
  · have hd' := hwork.isTool hd
    refine ⟨fun p hp => ?_, sustained_sound.parse hd' verbose source'⟩
    refine ⟨sustained_sound.passes hd' hp, Dialect.outcome_parse hd' hp,
      fun statement behind _ _ => ?_⟩
    refine ⟨Dialect.outcome_dispatch hd' verbose statement (p.withUnread behind), ?_⟩
    cases hands : d'.handsTo? statement with
    | none => exact Dialect.dispatch_advances hd' hands verbose (p.withUnread behind)
    | some called => exact (Dialect.dispatch_absorbs hands verbose (p.withUnread behind)).1
  · have hreports := Build.reportsSoundly_parse master true verbose source
    exact ⟨fun report h => ⟨hreports.sound report h, hreports.within report h⟩, hreports.grows⟩

/-- The engine that is called in a build meets with a fatal error. -/
theorem fatal_implies_error_engine :
    let transcript := ["This is pdfTeX".toList, " ==> Fatal error occurred".toList,
      "Latexmk: Log file says output to 'main.pdf'".toList]
    let source := transcript.map fun line => (⟨Utf8.encode line, true⟩ : Line)
    let build := Dialect.latexmk "main.tex".toList true
    let engine := Dialect.latex "main.tex".toList
    build.isTool = true ∧ build.AtWork false source engine source.tail ∧
      (engine.parse false source.tail).scope.state.tally.Sound := by
  intro transcript source build engine
  have hn : LineSource.takeStatement source = (some "This is pdfTeX".toList, source.tail) := by
    show (some (Utf8.decodeLossy (Utf8.encode "This is pdfTeX".toList)), source.tail) = _
    rw [Utf8.decodeLossy_encode]
  have hcalled : build.AtWork false source engine source.tail :=
    .called .outermost .here rfl hn (by cbv)
  exact ⟨rfl, hcalled, ((fatal_implies_error (d := build) rfl false source).1 _ _ hcalled).2⟩

end TexTranscript
