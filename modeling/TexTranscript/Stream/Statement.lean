import TexTranscript.Stream.Line

/-!
# Statements

The tools break what they print at a fixed width of seventy-nine columns. A
*statement* is what stood there before the break: a physical line together with
the lines that continue it. A line is continued when a line feed ended it, it
is exactly as long as the width, and it does not end a sentence.

Both the width and the end of a sentence are a matter of bytes, and a statement
is decoded only after its lines were put together: a character that was cut in
two by the break is whole again.

## Main definitions

* `Line.continues` – the next line goes on with this one.
* `Statement.gather` – the bytes of the statement that begins with a line.
* `Statement.next?` – the next statement of a transcript.
-/

namespace TexTranscript

/-- The number of bytes after which a tool breaks a line. -/
def wrapWidth : Nat := 79

/-- The bytes that end a sentence: `.` and `!`. -/
def sentenceEnds : List UInt8 := [0x2E, 0x21]

/-- The line is broken off: a line feed ended it at the full width, but not
after a sentence. -/
def Line.continues (l : Line) : Bool :=
  l.terminated && l.bytes.length == wrapWidth &&
    !(l.bytes.getLast?.any sentenceEnds.contains)

namespace Statement

/-- The bytes of the statement that begins with the line `l`, and the lines
after it. Where the lines run out the statement is what was gathered. -/
def gather (l : Line) : List Line → List UInt8 × List Line
  | [] => (l.bytes, [])
  | m :: ls =>
    if l.continues then (l.bytes ++ (gather m ls).1, (gather m ls).2)
    else (l.bytes, m :: ls)

/-- The next statement of a transcript, and the lines after it; `none` when no
line is left. -/
def next? : List Line → Option (Text × List Line)
  | [] => none
  | l :: ls => some (Utf8.decodeLossy (gather l ls).1, (gather l ls).2)

/-- **A statement takes lines off the front.** -/
theorem gather_suffix (l : Line) (ls : List Line) : (gather l ls).2 <:+ ls := by
  induction ls generalizing l with
  | nil => simp [gather]
  | cons m ls ih =>
    simp only [gather]
    split
    · exact (ih m).trans (List.suffix_cons m ls)
    · exact List.suffix_refl _

/-- **Every statement uses a line up.** -/
theorem next?_length_lt {ls rest : List Line} {t : Text} (h : next? ls = some (t, rest)) :
    rest.length < ls.length := by
  cases ls with
  | nil => simp [next?] at h
  | cons l ls =>
    simp only [next?, Option.some.injEq, Prod.mk.injEq] at h
    rw [← h.2]
    exact Nat.lt_succ_of_le (gather_suffix l ls).length_le

/-- A statement is missing only where no line is left. -/
@[simp] theorem next?_eq_none_iff {ls : List Line} : next? ls = none ↔ ls = [] := by
  cases ls <;> simp [next?]

end Statement

end TexTranscript
