/-!
# Outcomes and tallies

An *outcome* is how a transcript is classified: how many errors and warnings
were found, and whether one of them was fatal. A *tally* keeps two of them, one
for the current run of the tools and one for everything seen so far; a new run
starts the first again from nothing.

Counts are natural numbers. Where they are stored or exchanged they have
sixty-four bits, and `Tally.record?` is the tally that refuses to count beyond
that.

## Main definitions

* `Outcome`, `Outcome.add` – outcomes and their sum.
* `Tally`, `Tally.Step`, `Tally.record` – tallies and what can be entered.
* `Tally.record?` – entering within sixty-four bits.
-/

namespace TexTranscript

/-- **How a transcript is classified.** -/
structure Outcome where
  fatal : Bool
  errors : Nat
  warnings : Nat
deriving Repr, DecidableEq

namespace Outcome

/-- Nothing was found. -/
def clean : Outcome := ⟨false, 0, 0⟩

instance : Inhabited Outcome := ⟨clean⟩

/-- Nothing was found. -/
def isClean (o : Outcome) : Bool := !o.fatal && o.errors == 0 && o.warnings == 0

/-- What two parts of a transcript come to: counts add up, and the whole is
fatal when a part is. -/
def add (o p : Outcome) : Outcome :=
  ⟨o.fatal || p.fatal, o.errors + p.errors, o.warnings + p.warnings⟩

instance : Add Outcome := ⟨add⟩

/-- One error. -/
def oneError : Outcome := ⟨false, 1, 0⟩

/-- One warning. -/
def oneWarning : Outcome := ⟨false, 0, 1⟩

/-- The flag alone, which counts nothing. -/
def flagged : Outcome := ⟨true, 0, 0⟩

/-- The largest count that can be stored. -/
def maxCount : Nat := UInt64.size - 1

/-- Both counts can be stored. -/
def Storable (o : Outcome) : Prop := o.errors ≤ maxCount ∧ o.warnings ≤ maxCount

instance (o : Outcome) : Decidable o.Storable := inferInstanceAs (Decidable (_ ∧ _))

@[simp] theorem fatal_add (o p : Outcome) : (o + p).fatal = (o.fatal || p.fatal) := rfl

@[simp] theorem errors_add (o p : Outcome) : (o + p).errors = o.errors + p.errors := rfl

@[simp] theorem warnings_add (o p : Outcome) : (o + p).warnings = o.warnings + p.warnings := rfl

@[ext] theorem ext {o p : Outcome} (hf : o.fatal = p.fatal) (he : o.errors = p.errors)
    (hw : o.warnings = p.warnings) : o = p := by
  cases o; cases p; simp_all

@[simp] theorem add_clean (o : Outcome) : o + clean = o := by ext <;> simp [clean]

@[simp] theorem clean_add (o : Outcome) : clean + o = o := by ext <;> simp [clean]

theorem add_assoc (o p q : Outcome) : o + p + q = o + (p + q) := by
  ext <;> simp [Bool.or_assoc, Nat.add_assoc]

theorem add_comm (o p : Outcome) : o + p = p + o := by
  ext <;> simp [Bool.or_comm, Nat.add_comm]

end Outcome

/-- **The counts of a parse**, since its current run began and altogether. -/
structure Tally where
  run : Outcome := .clean
  total : Outcome := .clean
deriving Repr, DecidableEq, Inhabited

namespace Tally

/-- What can be entered into a tally. -/
inductive Step where
  | error
  | warning
  /-- Raises the flag without counting an error. -/
  | fatal
  /-- Starts a new run. -/
  | newRun
  /-- Takes over what a part of the transcript came to. -/
  | absorb (part : Outcome)
deriving Repr, DecidableEq

/-- What a step adds to the counts. -/
def Step.amount : Step → Outcome
  | error => .oneError
  | warning => .oneWarning
  | fatal => .flagged
  | newRun => .clean
  | absorb part => part

/-- Enters a step. Everything counts both for the run and altogether; a new run
drops the former. -/
def record (t : Tally) : Step → Tally
  | .newRun => { t with run := .clean }
  | step => ⟨t.run + step.amount, t.total + step.amount⟩

/-- Enters a step, if the counts can still be stored after it. -/
def record? (t : Tally) (step : Step) : Option Tally :=
  if (t.record step).run.Storable ∧ (t.record step).total.Storable then some (t.record step)
  else none

end Tally

end TexTranscript
