import TexTranscript.Stream.Statement

/-!
# Line sources

A parser can do two things with what it reads from: ask for the next statement,
and ask for the next physical line. A *line source* is anything that answers
these two questions. Behind it stands a list of lines, which is what is still to
be read; the laws of a source say that it answers out of that list and takes
what it answered off its front. Past the last line there is nothing, however
often one asks.

A list of lines is a source. So is a `LineReader`, which gets its bytes bit by
bit and may be let down by them.

## Main definitions

* `LineSource` – what can be read from.
* `LineSource.Reads` – where asking leads to.
-/

namespace TexTranscript

/-- Takes the next statement off some lines. -/
def Statement.take (ls : List Line) : Option Text × List Line :=
  match next? ls with
  | some (statement, rest) => (some statement, rest)
  | none => (none, [])

/-- Takes the next physical line off some lines, and says what it says. -/
def Line.take : List Line → Option Text × List Line
  | [] => (none, [])
  | l :: ls => (some l.text, ls)

/-- **What a parser reads from.** -/
class LineSource (R : Type) where
  /-- What is still to be read. -/
  lines : R → List Line
  /-- Asks for the next statement. -/
  takeStatement : R → Option Text × R
  /-- Asks for the next physical line. -/
  takeLine : R → Option Text × R
  lines_takeStatement : ∀ r, (takeStatement r).map id lines = Statement.take (lines r)
  lines_takeLine : ∀ r, (takeLine r).map id lines = Line.take (lines r)

/-- A list of lines is read from the front. -/
instance : LineSource (List Line) where
  lines ls := ls
  takeStatement := Statement.take
  takeLine := Line.take
  lines_takeStatement _ := rfl
  lines_takeLine _ := rfl

namespace LineSource

variable {R : Type} [LineSource R]

@[simp] theorem lines_list (ls : List Line) : lines ls = ls := rfl

@[simp] theorem takeStatement_list (ls : List Line) : takeStatement ls = Statement.take ls := rfl

@[simp] theorem takeLine_list (ls : List Line) : takeLine ls = Line.take ls := rfl

/-- Without a statement there was no line left, and there is none now. -/
theorem lines_of_takeStatement_none {r r' : R} (h : takeStatement r = (none, r')) :
    lines r = [] ∧ lines r' = [] := by
  have hl := lines_takeStatement r
  rw [h] at hl
  unfold Statement.take at hl
  split at hl
  · simp at hl
  · next hn =>
    rw [Statement.next?_eq_none_iff] at hn
    exact ⟨hn, congrArg Prod.snd hl⟩

/-- A statement is the next one of the lines that are left. -/
theorem next?_of_takeStatement_some {r r' : R} {statement : Text}
    (h : takeStatement r = (some statement, r')) :
    Statement.next? (lines r) = some (statement, lines r') := by
  have hl := lines_takeStatement r
  rw [h] at hl
  unfold Statement.take at hl
  split at hl
  · next hn =>
    rw [hn]
    simp only [Prod.map_apply, id_eq, Prod.mk.injEq, Option.some.injEq] at hl
    rw [hl.1, hl.2]
  · simp at hl

/-- **Every statement uses a line up.** -/
theorem lines_length_lt {r r' : R} {statement : Text}
    (h : takeStatement r = (some statement, r')) : (lines r').length < (lines r).length :=
  Statement.next?_length_lt (next?_of_takeStatement_some h)

/-- **Where asking leads to**: any number of questions of either kind. -/
inductive Reads (r : R) : R → Prop
  | nothing : Reads r r
  | statement {r' : R} : Reads r r' → Reads r (takeStatement r').2
  | line {r' : R} : Reads r r' → Reads r (takeLine r').2

namespace Reads

theorem trans {r r' r'' : R} (h : Reads r r') (h' : Reads r' r'') : Reads r r'' := by
  induction h' with
  | nothing => exact h
  | statement _ ih => exact ih.statement
  | line _ ih => exact ih.line

/-- A question for a statement, whatever the answer. -/
theorem of_takeStatement {r r' : R} {answer : Option Text}
    (h : takeStatement r = (answer, r')) : Reads r r' := by
  have := (Reads.nothing (r := r)).statement
  rwa [h] at this

/-- **Asking takes lines off the front** and does nothing else to them. -/
theorem lines_suffix {r r' : R} (h : Reads r r') : lines r' <:+ lines r := by
  induction h with
  | nothing => exact List.suffix_refl _
  | @statement r' _ ih =>
    refine List.IsSuffix.trans ?_ ih
    have hl : lines (takeStatement r').2 = (Statement.take (lines r')).2 :=
      congrArg Prod.snd (lines_takeStatement r')
    rw [hl]
    cases lines r' with
    | nil => exact List.suffix_refl _
    | cons l ls => exact (Statement.gather_suffix l ls).trans (List.suffix_cons l ls)
  | @line r' _ ih =>
    refine List.IsSuffix.trans ?_ ih
    have hl : lines (takeLine r').2 = (Line.take (lines r')).2 :=
      congrArg Prod.snd (lines_takeLine r')
    rw [hl]
    cases lines r' with
    | nil => exact List.suffix_refl _
    | cons l ls => exact List.suffix_cons l ls

end Reads

end LineSource

end TexTranscript
