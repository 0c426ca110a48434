import TexTranscript.Text.Utf8

/-!
# Physical lines

A transcript is a sequence of bytes, cut into lines at each line feed. A line
is *terminated* when a line feed closed it; only the last one may not be, and
then it is not empty. The line feed is no part of the line, and neither is one
carriage return directly before it. A carriage return anywhere else stays, in
particular at the end of a line that is not terminated.

What is still unread of a transcript is a list of such lines. Reading a line is
taking the first of them; past the last there is nothing, however often one
reads.

## Main definitions

* `Line` – a physical line.
* `Line.ofBytes` – the lines of a byte sequence.
* `Line.text` – what a line says.
-/

namespace TexTranscript

/-- The byte that ends a line. -/
def lineFeed : UInt8 := 0x0A

/-- The byte that is dropped in front of a line feed. -/
def carriageReturn : UInt8 := 0x0D

/-- **A physical line** of a transcript. -/
structure Line where
  /-- The bytes of the line, without what ended it. -/
  bytes : List UInt8
  /-- A line feed ended the line. -/
  terminated : Bool
deriving Repr, DecidableEq

namespace Line

/-- What the line says, read leniently. -/
def text (l : Line) : Text := Utf8.decodeLossy l.bytes

/-- Puts one byte in front of the lines that follow it. -/
def push (b : UInt8) (ls : List Line) : List Line :=
  if b = lineFeed then ⟨[], true⟩ :: ls
  else match ls with
    | [] => [⟨[b], false⟩]
    | l :: ls => { l with bytes := b :: l.bytes } :: ls

/-- The lines of a byte sequence, carriage returns and all. -/
def cut (bytes : List UInt8) : List Line := bytes.foldr push []

/-- The line without the carriage return that stood before its line feed. -/
def dropReturn (l : Line) : Line :=
  if l.terminated && l.bytes.getLast? == some carriageReturn then
    { l with bytes := l.bytes.dropLast }
  else l

/-- The lines of a byte sequence. -/
def ofBytes (bytes : List UInt8) : List Line := (cut bytes).map dropReturn

/-- The bytes that the line was cut from. -/
def source (l : Line) : List UInt8 := l.bytes ++ if l.terminated then [lineFeed] else []

@[simp] theorem cut_nil : cut [] = [] := rfl

@[simp] theorem cut_cons (b : UInt8) (bytes : List UInt8) :
    cut (b :: bytes) = push b (cut bytes) := rfl

/-- **Cutting loses nothing**: the lines, each with its line feed, are the
bytes they were cut from. -/
theorem flatMap_source_cut (bytes : List UInt8) : (cut bytes).flatMap source = bytes := by
  induction bytes with
  | nil => rfl
  | cons b bytes ih =>
    simp only [cut_cons, push]
    split
    · next h => simp [source, ih, h]
    · split
      · next h => simp_all [source]
      · next l ls h =>
        rw [h] at ih
        simpa [source] using ih

@[simp] theorem terminated_dropReturn (l : Line) : l.dropReturn.terminated = l.terminated := by
  unfold dropReturn
  split <;> rfl

end Line

end TexTranscript
