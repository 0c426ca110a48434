import Mathlib.Data.List.DropRight
import Mathlib.Data.List.Perm.Basic
import TexTranscript.Proofs.Limits

/-!
# What a history of steps comes to

A tally is never set; it is made by the steps that are entered into it, one after the
other, from nothing on. What it holds can be told from this history without going
through it. The errors altogether are the steps that count one, and those of all parts
that were absorbed; so are the warnings; and the flag is raised if any of these raised
it. None of that depends on the order of the steps. For the run it is the same, of the
steps since it began.

Every step is entered twice, with counters of sixty-four bits, and a step is refused if
any of them would run over. But what was counted since the run began is part of what was
counted altogether. So it is refused for what was counted altogether or not at all, and
a history is entered to its end just when its sums can be stored.

## Main definitions

* `Tally.recordAll`, `Tally.recordAll?` – a history is entered, without bounds or with them.
* `Tally.added` – the exact sums of a history.
* `Tally.latestRun` – the steps since the run began.

## Main statements

* `Tally.recordAll_empty` – what a history comes to without bounds.
* `Tally.recordAll?_empty` – with them it comes to the same, or is refused.
* `Tally.history_adds_up` – what every history comes to.
-/

namespace TexTranscript

namespace Outcome

/-- What can be stored has counts of sixty-four bits. -/
theorem storable_iff (o : Outcome) : o.Storable ↔ o.errors < 2 ^ 64 ∧ o.warnings < 2 ^ 64 := by
  have hmax : maxCount = 2 ^ 64 - 1 := rfl
  unfold Storable
  omega

/-- An outcome is clean that counts nothing and raises no flag. -/
theorem isClean_iff (o : Outcome) :
    o.isClean = true ↔ o.errors = 0 ∧ o.warnings = 0 ∧ o.fatal = false := by
  unfold isClean
  simp only [Bool.and_eq_true, Bool.not_eq_true', beq_iff_eq]
  exact ⟨fun ⟨⟨hf, he⟩, hw⟩ => ⟨he, hw, hf⟩, fun ⟨he, hw, hf⟩ => ⟨⟨hf, he⟩, hw⟩⟩

end Outcome

namespace Tally

/-! ## Exact sums -/

/-- What a step takes over. -/
def Step.part? : Step → Option Outcome
  | absorb part => some part
  | _ => none

/-- What the steps of a history take over. -/
def absorbed (steps : List Step) : List Outcome := steps.filterMap Step.part?

/-- **The errors that a history adds**, those that it takes over included. -/
def errorsAdded (steps : List Step) : Nat :=
  steps.count .error + ((absorbed steps).map Outcome.errors).sum

/-- **The warnings that a history adds**, those that it takes over included. -/
def warningsAdded (steps : List Step) : Nat :=
  steps.count .warning + ((absorbed steps).map Outcome.warnings).sum

/-- **A history raises the flag**, by a step of its own or by what it takes over. -/
def isFlagged (steps : List Step) : Bool :=
  steps.contains .fatal || (absorbed steps).any Outcome.fatal

/-- **The exact sums of a history.** -/
def added (steps : List Step) : Outcome :=
  ⟨isFlagged steps, errorsAdded steps, warningsAdded steps⟩

/-- **The steps since the run began**, or since the start if no run was begun. -/
def latestRun (steps : List Step) : List Step := steps.rtakeWhile fun step => step ≠ .newRun

/-- **Sums of histories add up**, field by field. -/
theorem added_append (steps steps' : List Step) :
    added (steps ++ steps') = added steps + added steps' := by
  have habsorbed : absorbed (steps ++ steps') = absorbed steps ++ absorbed steps' :=
    List.filterMap_append
  ext
  · show isFlagged (steps ++ steps') = (isFlagged steps || isFlagged steps')
    unfold isFlagged
    rw [habsorbed, List.any_append, List.contains_eq_any_beq, List.any_append,
      ← List.contains_eq_any_beq, ← List.contains_eq_any_beq]
    ac_rfl
  · show errorsAdded (steps ++ steps') = errorsAdded steps + errorsAdded steps'
    unfold errorsAdded
    rw [habsorbed, List.count_append, List.map_append, List.sum_append, Nat.add_add_add_comm]
  · show warningsAdded (steps ++ steps') = warningsAdded steps + warningsAdded steps'
    unfold warningsAdded
    rw [habsorbed, List.count_append, List.map_append, List.sum_append, Nat.add_add_add_comm]

/-- A single step adds what it amounts to. -/
theorem added_singleton (step : Step) : added [step] = step.amount := by
  cases step with
  | absorb part => simp [added, isFlagged, errorsAdded, warningsAdded, absorbed, Step.part?,
      Step.amount]
  | _ => rfl

/-- **The order of the steps does not matter** for the sums. Counting, adding and looking for a flag
do not depend on an order. -/
theorem added_perm {steps steps' : List Step} (h : steps.Perm steps') :
    added steps = added steps' := by
  have habsorbed : (absorbed steps).Perm (absorbed steps') := h.filterMap _
  ext
  · show (steps.contains _ || (absorbed steps).any _)
      = (steps'.contains _ || (absorbed steps').any _)
    rw [h.contains_eq, habsorbed.any_eq]
  · exact congrArg₂ (· + ·) (h.count_eq _) (habsorbed.map _).sum_eq
  · exact congrArg₂ (· + ·) (h.count_eq _) (habsorbed.map _).sum_eq

/-- A run that has just begun has no steps. -/
theorem latestRun_concat_newRun (steps : List Step) : latestRun (steps ++ [.newRun]) = [] :=
  List.rtakeWhile_concat_neg _ _ _ (by simp)

/-- Any other step belongs to the run that it is taken in. -/
theorem latestRun_concat {step : Step} (h : step ≠ .newRun) (steps : List Step) :
    latestRun (steps ++ [step]) = latestRun steps ++ [step] :=
  List.rtakeWhile_concat_pos _ _ _ (by simpa using h)

/-! ## Entering a history -/

/-- Enters a history. -/
def recordAll (t : Tally) (steps : List Step) : Tally := steps.foldl record t

/-- **Enters a history, if the counts can be stored after each step.** -/
def recordAll? (t : Tally) (steps : List Step) : Option Tally := steps.foldlM record? t

variable {t : Tally}

theorem recordAll_concat (t : Tally) (steps : List Step) (step : Step) :
    t.recordAll (steps ++ [step]) = (t.recordAll steps).record step := List.foldl_concat ..

/-- The last step is entered if all those before it could be. -/
theorem recordAll?_concat (t : Tally) (steps : List Step) (step : Step) :
    t.recordAll? (steps ++ [step]) = (t.recordAll? steps).bind (·.record? step) := by
  unfold recordAll?
  rw [List.foldlM_append]
  exact congrArg (Option.bind _) (funext fun t => bind_pure (t.record? step))

/-- **What a history comes to** from the start: the run as well as the total. The induction is from
the end, since the steps of the latest run are found from there: a step that begins a run empties
them, and every other one adds to both sums. -/
theorem recordAll_empty (steps : List Step) :
    recordAll {} steps = ⟨added (latestRun steps), added steps⟩ := by
  induction steps using List.reverseRecOn with
  | nil => rfl
  | append_singleton steps step ih =>
    have htotal : added (steps ++ [step]) = added steps + step.amount := by
      rw [added_append, added_singleton]
    rw [recordAll_concat, ih, htotal]
    by_cases hstep : step = .newRun
    · subst hstep
      rw [latestRun_concat_newRun]
      exact congrArg (Tally.mk .clean) (Outcome.add_clean _).symm
    · rw [latestRun_concat hstep, added_append, added_singleton]
      cases step with
      | newRun => exact absurd rfl hstep
      | _ => rfl

/-- The run is part of the whole after every history. -/
theorem isPartOf_recordAll (steps : List Step) :
    (recordAll {} steps).run.IsPartOf (recordAll {} steps).total := by
  induction steps using List.reverseRecOn with
  | nil => exact .refl _
  | append_singleton steps step ih =>
    rw [recordAll_concat]
    exact isPartOf_record ih step

/-- A step is refused just when what is counted altogether cannot be stored. -/
theorem record?_eq_ite (h : t.run.IsPartOf t.total) (step : Step) :
    t.record? step = if (t.record step).total.Storable then some (t.record step) else none := by
  split
  · next hstorable => exact record?_eq (isPartOf_record h step) hstorable
  · next hstorable => exact if_neg fun hboth => hstorable hboth.2

/-- **A history is entered to its end just when its sums can be stored.** Sums only grow, so that if
they can be stored in the end they can be stored all the way; and the run never has more than the
whole. -/
theorem recordAll?_empty (steps : List Step) :
    recordAll? {} steps = if (added steps).Storable then some (recordAll {} steps) else none := by
  induction steps using List.reverseRecOn with
  | nil => rfl
  | append_singleton steps step ih =>
    have htotal : ((recordAll {} steps).record step).total = added (steps ++ [step]) := by
      rw [← recordAll_concat, recordAll_empty]
    rw [recordAll?_concat, ih, recordAll_concat]
    by_cases hsteps : (added steps).Storable
    · rw [if_pos hsteps, Option.bind_some, record?_eq_ite (isPartOf_recordAll steps), htotal]
    · -- what was too much is too much with one step more
      have hmore : ¬(added (steps ++ [step])).Storable := by
        rw [added_append]
        exact fun h => hsteps ⟨(Nat.le_add_right _ _).trans h.1, (Nat.le_add_right _ _).trans h.2⟩
      rw [if_neg hsteps, if_neg hmore]
      rfl

/-- What a history that is entered to its end has led to. -/
theorem eq_of_recordAll? {steps : List Step} (h : recordAll? {} steps = some t) :
    t = recordAll {} steps := by
  rw [recordAll?_empty] at h
  split at h
  · exact (Option.some.inj h).symm
  · exact absurd h.symm (Option.some_ne_none t)

/-- **What every history comes to.** It is entered to its end just when the exact sums of its errors
and of its warnings fit into sixty-four bits. The total has these sums then, and the flag if any
step raised it; the run has the same of the steps since it began. On the way the run is part of the
whole, before a step is refused as well as after it, so that no count of the run is ever too large
where that of the whole is not. The whole and the run are clean just when their sums are zero and
nothing raised their flag. And in another order the same steps are refused as well, or come to the
same total. What the tally is after a history is computed once, by its exact sums, and everything
else that is said here is read off these sums. -/
theorem history_adds_up (steps : List Step) :
    let whole : Outcome := ⟨isFlagged steps, errorsAdded steps, warningsAdded steps⟩
    let run : Outcome := ⟨isFlagged (latestRun steps), errorsAdded (latestRun steps),
      warningsAdded (latestRun steps)⟩
    recordAll? {} steps
        = (if errorsAdded steps < 2 ^ 64 ∧ warningsAdded steps < 2 ^ 64 then some ⟨run, whole⟩
          else none) ∧
    (∀ before step t, before ++ [step] <+: steps → recordAll? {} before = some t →
      (t.record step).run.IsPartOf (t.record step).total ∧
      (t.record? step = none ↔
        2 ^ 64 ≤ (t.record step).total.errors ∨ 2 ^ 64 ≤ (t.record step).total.warnings)) ∧
    (whole.isClean = true ↔
      errorsAdded steps = 0 ∧ warningsAdded steps = 0 ∧ isFlagged steps = false) ∧
    (run.isClean = true ↔ errorsAdded (latestRun steps) = 0 ∧
      warningsAdded (latestRun steps) = 0 ∧ isFlagged (latestRun steps) = false) ∧
    ∀ steps', steps'.Perm steps →
      (recordAll? {} steps').map total = (recordAll? {} steps).map total := by
  intro whole run
  have hfits : (added steps).Storable ↔
      errorsAdded steps < 2 ^ 64 ∧ warningsAdded steps < 2 ^ 64 := Outcome.storable_iff _
  refine ⟨?_, fun before step t _ ht => ?_, Outcome.isClean_iff _, Outcome.isClean_iff _,
    fun steps' hperm => ?_⟩
  · rw [recordAll?_empty, recordAll_empty]
    exact if_congr hfits rfl rfl
  · have hpart : t.run.IsPartOf t.total := by
      rw [eq_of_recordAll? ht]
      exact isPartOf_recordAll before
    refine ⟨isPartOf_record hpart step, ?_⟩
    rw [record?_eq_ite hpart, ← not_lt, ← not_lt, ← not_and_or, ← Outcome.storable_iff]
    split
    · next h => exact iff_of_false (Option.some_ne_none _) (not_not_intro h)
    · next h => exact iff_of_true rfl h
  · have hadded : added steps' = added steps := added_perm hperm
    rw [recordAll?_empty, recordAll?_empty, recordAll_empty, recordAll_empty, hadded]
    split
    · rfl
    · rfl

end Tally

end TexTranscript
