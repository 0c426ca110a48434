import TexTranscript.Text.Basic
import TexTranscript.Text.Digit

/-!
# The range of numbers

A number of a document can have any size. One that is held back must fit into
binary64, and whether it does is found out with the means of binary64 and of
64-bit arithmetic alone:

* Digits are taken into a significand as long as it stays below `2 ^ 64`. Those
  before the point that do not fit any more count as zeros, and those behind it
  count for nothing.
* The significand and the power of ten that it is multiplied with are both rounded
  first, and then their product is. The number is out of range if that last step
  leads to infinity.
* A power of ten that is out of range itself is refused for every significand but
  zero. What becomes too small is zero, and is in range.

## Main definitions

* `Binary64.round` – a natural number in 53 significant bits.
* `DecimalText` – a number as it is written; `DecimalText.inRange`.
-/

namespace TexTranscript

namespace Binary64

/-- How many low bits of a number do not fit into 53 significant ones. -/
def surplus (n : Nat) : Nat := n.log2 + 1 - 53

/-- The number in units of its last significant bit, rounded to the nearest one, to
an even one if two are as near. -/
def rounded (n : Nat) : Nat :=
  let unit := 1 <<< surplus n
  let q := n / unit
  let r := n % unit
  if 2 * r < unit ∨ (2 * r = unit ∧ q % 2 = 0) then q else q + 1

/-- **A natural number in 53 significant bits.** -/
def round (n : Nat) : Nat := rounded n <<< surplus n

/-- The least natural number that is rounded to infinity. -/
def infinity : Nat := 1 <<< 1024 - 1 <<< 970

/-- The largest exponent of a power of ten that is in range. -/
def largestPower : Nat := 308

end Binary64

/-- **A number as it is written**, without its sign. -/
structure DecimalText where
  /-- The digits before the point. -/
  whole : Text
  /-- The digits behind it. -/
  fraction : Text := []
  exponent : Int := 0

namespace DecimalText

/-- Takes digits into a significand as long as there is room, and gives back those
that are left. -/
def takeIn (significand : Nat) : Text → Nat × Text
  | [] => (significand, [])
  | c :: t =>
    let next := 10 * significand + (Text.asciiDigit? c).getD 0
    if next < UInt64.size then takeIn next t else (significand, c :: t)

/-- The significand, and the power of ten that it is multiplied with. -/
def parts (d : DecimalText) : Nat × Int :=
  let (s, zeros) := takeIn 0 d.whole
  let (s, dropped) := takeIn s d.fraction
  (s, (zeros.length : Int) - ((d.fraction.length - dropped.length : Nat) : Int) + d.exponent)

/-- **The number fits into binary64.** -/
def inRange (d : DecimalText) : Bool :=
  let (s, e) := d.parts
  if e < 0 ∨ s = 0 then true
  else if Binary64.largestPower < e.toNat then false
  else decide (Binary64.round s * Binary64.round (Nat.pow 10 e.toNat) < Binary64.infinity)

end DecimalText

end TexTranscript
