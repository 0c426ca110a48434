import TexTranscript.Text.Basic

/-!
# Internet addresses

The host of a web address may be a number rather than a name. In the old form
there are up to four numbers between dots, each of them decimal, octal or
hexadecimal, and the last one fills all the bytes that are left. In the new form
there are eight groups of hexadecimal digits between colons; a run of empty
groups may be left out once, and the last two may be written in the old form.

Either form is written back in one way only: four decimal numbers, and eight
lower-case groups of which the first of the longest runs of zeros, if it has at
least two, is left out.

## Main definitions

* `Address.endsInNumber` – a host that must be an address of the old form.
* `Address.four?`, `Address.fourText` – the old form, read and written.
* `Address.six?`, `Address.sixText` – the new form, read and written.
-/

namespace TexTranscript

namespace Address

/-- The value of a digit in base sixteen, in either case. -/
def digitValue? (c : Char) : Option Nat :=
  if c.isDigit then some (c.toNat - 0x30)
  else if 'a' ≤ c.toLower ∧ c.toLower ≤ 'f' then some (c.toLower.toNat - 0x57)
  else none

/-- The number of a text of digits, all below the base; the empty text is zero. -/
def number? (base : Nat) (t : Text) : Option Nat :=
  t.foldlM (fun n c => (digitValue? c).bind fun d => if d < base then some (base * n + d) else none)
    0

/-- **A number of the old form**: hexadecimal after `0x`, octal after another
leading zero, decimal otherwise. -/
def part? : Text → Option Nat
  | [] => none
  | '0' :: 'x' :: t | '0' :: 'X' :: t => number? 16 t
  | '0' :: c :: t => number? 8 (c :: t)
  | t => number? 10 t

/-- The parts of a host between its dots, without an empty one at the end. -/
def parts (host : Text) : List Text :=
  let ps := Text.pieces '.' host
  if ps.getLast? = some [] then ps.dropLast else ps

/-- The last part of a host is a number, or all digits, so that the host can be
nothing but an address of the old form. -/
def endsInNumber (host : Text) : Bool :=
  match (parts host).getLast? with
  | none => false
  | some [] => false
  | some t => t.all Char.isDigit || (part? t).isSome

/-- Reads an address of the old form, as a number of 32 bits. Each number but the
last one fills one byte, from the highest down. -/
def four? (host : Text) : Option Nat := do
  let ns ← (parts host).mapM part?
  let last ← ns.getLast?
  let front := ns.dropLast
  let left := 8 * (4 - front.length)
  if front.length < 4 ∧ front.all (· < 256) ∧ last < 1 <<< left then
    some (front.foldl (fun n b => 256 * n + b) 0 <<< left + last)
  else none

/-- Writes an address of the old form. -/
def fourText (n : Nat) : Text :=
  Text.join ['.'] ([24, 16, 8, 0].map fun left => (toString (n >>> left % 256)).toList)

/-- One of the four decimal numbers that may end an address of the new form. -/
def byte? (t : Text) : Option Nat := do
  let n ← number? 10 t
  if t ≠ [] ∧ n < 256 ∧ (t.head? = some '0' → t.length = 1) then some n else none

/-- One group of an address of the new form, or two that are written in the old
form. -/
def group? (t : Text) (atEnd : Bool) : Option (List Nat) :=
  if t.contains '.' then
    match (Text.pieces '.' t).mapM byte?, atEnd with
    | some [a, b, c, d], true => some [256 * a + b, 256 * c + d]
    | _, _ => none
  else if t = [] ∨ 4 < t.length then none
  else (number? 16 t).map ([·])

/-- The groups of a text between its colons; no group in an empty text. -/
def groups? (t : Text) (atEnd : Bool) : Option (List Nat) :=
  if t = [] then some []
  else
    let ps := Text.pieces ':' t
    (ps.zipIdx.mapM fun (p, i) => group? p (atEnd && i + 1 == ps.length)).map List.flatten

/-- What stands before and after the first two colons in a row. -/
def cutAtGap? : Text → Option (Text × Text)
  | [] => none
  | c :: t =>
    match c, t with
    | ':', ':' :: rest => some ([], rest)
    | _, _ => (cutAtGap? t).map fun (before, rest) => (c :: before, rest)

/-- Reads an address of the new form, as its eight groups. -/
def six? (t : Text) : Option (List Nat) :=
  match cutAtGap? t with
  | none => (groups? t true).filter (·.length = 8)
  | some (before, rest) => do
    let front ← groups? before false
    let back ← groups? rest true
    if front.length + back.length < 8 then
      some (front ++ List.replicate (8 - front.length - back.length) 0 ++ back)
    else none

/-- How many zeros a list begins with. -/
def zerosAhead (ns : List Nat) : Nat := (ns.takeWhile (· = 0)).length

/-- Where the first of the longest runs of zeros begins, and how long it is. -/
def longestRun (ns : List Nat) : Nat × Nat :=
  (List.range ns.length).foldl
    (fun best i => if best.2 < zerosAhead (ns.drop i) then (i, zerosAhead (ns.drop i)) else best)
    (0, 0)

/-- Writes an address of the new form. -/
def sixText (ns : List Nat) : Text :=
  let written (ns : List Nat) := Text.join [':'] (ns.map (Nat.toDigits 16))
  let (start, length) := longestRun ns
  if length < 2 then written ns
  else written (ns.take start) ++ [':', ':'] ++ written (ns.drop (start + length))

end Address

end TexTranscript
