import TexTranscript.Text.Basic

/-!
# UTF-8

Transcripts are bytes, and not always well-formed ones: the tools cut lines at
a fixed width, which may split a character, and write file names in whatever
encoding they were given. A byte sequence is therefore read as a list of
*readings*: a character where the bytes are well formed, and nothing where they
are not – one such gap for each longest piece of the sequence that begins a
character but does not complete it, or for a byte that begins none.

A transcript is read leniently, with the replacement character in every gap. A
settings or ledger file is read strictly: one gap and it is no text at all.

## Main definitions

* `Utf8.readings` – the characters and gaps of a byte sequence.
* `Utf8.decodeLossy` – gaps become U+FFFD.
* `Utf8.decode?` – no gaps allowed.
* `Utf8.encode` – the bytes of a text.
-/

namespace TexTranscript

namespace Utf8

/-- What a lead byte announces: how many bytes complete the character, the bits
that the lead byte itself contributes, and the range allowed for the byte right
after it – narrower than that of later bytes where the full range would write a
surrogate, a value beyond the last code point, or a value that has a shorter
form. -/
structure Lead where
  following : Nat
  bits : Nat
  low : UInt8
  high : UInt8
deriving Repr, DecidableEq

/-- What a byte announces when it begins a character; `none` when it cannot. -/
def lead? (b : UInt8) : Option Lead :=
  if b ≤ 0x7F then some ⟨0, b.toNat, 0x80, 0xBF⟩
  else if b < 0xC2 then none
  else if b ≤ 0xDF then some ⟨1, b.toNat - 0xC0, 0x80, 0xBF⟩
  else if b = 0xE0 then some ⟨2, 0, 0xA0, 0xBF⟩
  else if b = 0xED then some ⟨2, 0xD, 0x80, 0x9F⟩
  else if b ≤ 0xEF then some ⟨2, b.toNat - 0xE0, 0x80, 0xBF⟩
  else if b = 0xF0 then some ⟨3, 0, 0x90, 0xBF⟩
  else if b ≤ 0xF3 then some ⟨3, b.toNat - 0xF0, 0x80, 0xBF⟩
  else if b = 0xF4 then some ⟨3, 4, 0x80, 0x8F⟩
  else none

/-- Reads `n` more bytes of a character whose bits so far are `bits`, the first
of them between `low` and `high`. Gives the code point, or `none` where a byte
is missing or out of range, and the bytes from there on. -/
def complete (low high : UInt8) : Nat → Nat → List UInt8 → Option Nat × List UInt8
  | 0, bits, bytes => (some bits, bytes)
  | _ + 1, _, [] => (none, [])
  | n + 1, bits, b :: bytes =>
    if low ≤ b ∧ b ≤ high then complete 0x80 0xBF n (64 * bits + (b.toNat - 0x80)) bytes
    else (none, b :: bytes)

theorem complete_length_le (low high : UInt8) (n bits : Nat) (bytes : List UInt8) :
    (complete low high n bits bytes).2.length ≤ bytes.length := by
  induction bytes generalizing low high n bits with
  | nil => cases n <;> simp [complete]
  | cons b bytes ih =>
    cases n with
    | zero => simp [complete]
    | succ n =>
      simp only [complete]
      split
      · exact Nat.le_succ_of_le (ih ..)
      · simp

/-- The characters of a byte sequence, with `none` in each gap. -/
def readings : List UInt8 → List (Option Char)
  | [] => []
  | b :: bytes =>
    match lead? b with
    | none => none :: readings bytes
    | some l =>
      (complete l.low l.high l.following l.bits bytes).1.map Char.ofNat ::
        readings (complete l.low l.high l.following l.bits bytes).2
termination_by bytes => bytes.length
decreasing_by
  · simp
  · exact Nat.lt_succ_of_le (complete_length_le ..)

/-- The character that stands in the gaps of what could not be read. -/
def replacement : Char := '\uFFFD'

/-- The text of a byte sequence, with the replacement character in each gap. -/
def decodeLossy (bytes : List UInt8) : Text :=
  (readings bytes).map (·.getD replacement)

/-- The text of a well-formed byte sequence. -/
def decode? (bytes : List UInt8) : Option Text := (readings bytes).mapM id

/-- The bytes of a text. -/
def encode (t : Text) : List UInt8 := t.flatMap String.utf8EncodeChar

@[simp] theorem readings_nil : readings [] = [] := by simp [readings]

@[simp] theorem decodeLossy_nil : decodeLossy [] = [] := by simp [decodeLossy]

/-- An ASCII byte is read as its own character. -/
theorem readings_ascii {b : UInt8} (h : b ≤ 0x7F) (bytes : List UInt8) :
    readings (b :: bytes) = some (Char.ofNat b.toNat) :: readings bytes := by
  rw [readings]
  simp [lead?, h, complete]

end Utf8

end TexTranscript
