import TexTranscript.Text.Basic

/-!
# Punycode

A host name is made of ASCII characters, so a label of a name that holds others
is written in Punycode: first its ASCII characters as they are, then, after a
hyphen, where in the label the others stand. The others are put in one by one, in
ascending order of code points and from left to right within one code point, and
each is written as the number of steps to it from the one before – steps through
all places of the label as it is so far, for every code point in between.

A number of steps is written in digits of base 36, the lowest first. What a digit
can be before it is taken for the last one depends on a *bias*, which follows the
size of the numbers seen so far. Read back, no number may need more than 32 bits.

## Main definitions

* `Punycode.digits` – a number in digits, under a bias.
* `Punycode.adapt` – the bias after a number.
* `Punycode.encode` – a label in Punycode.
* `Punycode.decode?` – the label that was written in Punycode.
-/

namespace TexTranscript

namespace Punycode

/-- The digit of a number below 36: the letters, then the decimal digits. -/
def digit (n : Nat) : Char :=
  if n < 26 then Char.ofNat (0x61 + n) else Char.ofNat (0x30 + (n - 26))

/-- The smallest digit at a place that is not the last one. -/
def threshold (place bias : Nat) : Nat := max 1 (min 26 (36 * place - bias))

theorem threshold_pos (place bias : Nat) : 0 < threshold place bias := by
  simp only [threshold]
  omega

/-- The digits of a number from a place on, the first place being 1. -/
def digits (bias place n : Nat) : Text :=
  let t := threshold place bias
  if n < t then [digit n]
  else digit (t + (n - t) % (36 - t)) :: digits bias (place + 1) ((n - t) / (36 - t))
termination_by n
decreasing_by
  have h : 0 < threshold place bias := threshold_pos place bias
  exact Nat.lt_of_le_of_lt (Nat.div_le_self ..) (by omega)

/-- Divides by 35 until the number is small, counting the divisions. -/
def shrink (n : Nat) : Nat × Nat :=
  if n ≤ 455 then (n, 0) else ((shrink (n / 35)).1, (shrink (n / 35)).2 + 1)
termination_by n
decreasing_by all_goals omega

/-- **The bias after a number**, when the label has `length` characters so far. The
first number is likely to be large, and counts for less. -/
def adapt (n length : Nat) (first : Bool) : Nat :=
  let n := if first then n / 700 else n / 2
  let (n, times) := shrink (n + n / length)
  36 * times + 36 * n / (n + 38)

/-- What has been written of a label. -/
structure Progress where
  written : Text := []
  /-- How many characters have been put in. -/
  length : Nat
  /-- Steps since the last one was. -/
  steps : Nat := 0
  bias : Nat := 72

/-- Passes one place of the label while the characters `c` are put in; `basic` is
the number of ASCII characters. -/
def visit (basic : Nat) (c : Char) (p : Progress) (d : Char) : Progress :=
  if d < c then { p with steps := p.steps + 1 }
  else if d = c then
    { written := p.written ++ digits p.bias 1 p.steps
      length := p.length + 1
      steps := 0
      bias := adapt p.steps (p.length + 1) (p.length = basic) }
  else p

/-- Puts in the characters of a list, in ascending order, from the code point
`next` on. -/
def putIn (label : Text) (basic : Nat) : List Char → Nat → Progress → Progress
  | [], _, p => p
  | c :: cs, next, p =>
    let arrived := { p with steps := p.steps + (c.toNat - next) * (p.length + 1) }
    let passed := label.foldl (visit basic c) arrived
    putIn label basic cs (c.toNat + 1) { passed with steps := passed.steps + 1 }

/-- Puts a character in its place in ascending order, unless it is there. -/
def place (c : Char) : List Char → List Char
  | [] => [c]
  | d :: ds => if c < d then c :: d :: ds else if c = d then d :: ds else d :: place c ds

/-- **A label in Punycode.** -/
def encode (label : Text) : Text :=
  let basic := label.filter (· < '\x80')
  let others := (label.filter ('\x80' ≤ ·)).foldr place []
  basic ++ (if basic = [] then [] else ['-']) ++
    (putIn label basic.length others 0x80 ⟨[], basic.length, 0, 72⟩).written

/-- The number of a digit. -/
def digit? (c : Char) : Option Nat :=
  if 'a' ≤ c ∧ c ≤ 'z' then some (c.toNat - 0x61)
  else if '0' ≤ c ∧ c ≤ '9' then some (c.toNat - 0x30 + 26)
  else none

/-- Takes the digits of a number, from a place on where a one has a certain weight. -/
def number? (bias place weight : Nat) : Text → Option (Nat × Text)
  | [] => none
  | c :: t => do
    let d ← digit? c
    let least := threshold place bias
    if d < least then return (d * weight, t)
    else if UInt32.size ≤ weight * (36 - least) then none
    else
      let (n, rest) ← number? bias (place + 1) (weight * (36 - least)) t
      return (d * weight + n, rest)

theorem number?_length_lt {bias place weight n : Nat} {t rest : Text}
    (h : number? bias place weight t = some (n, rest)) : rest.length < t.length := by
  induction t generalizing place weight n with
  | nil => simp [number?] at h
  | cons c t ih =>
    simp only [number?, Option.bind_eq_bind, Option.bind_eq_some_iff] at h
    obtain ⟨d, _, h⟩ := h
    split at h
    · simp only [Option.pure_def, Option.some.injEq, Prod.mk.injEq] at h
      simp [← h.2]
    · split at h
      · simp at h
      · simp only [Option.pure_def, Option.bind_eq_some_iff, Option.some.injEq, Prod.mk.injEq,
          Prod.exists] at h
        obtain ⟨m, r, hr, _, rfl⟩ := h
        exact Nat.lt_succ_of_lt (ih hr)

/-- Puts the characters that are written in digits into a label. The next one is not
below `code`, and if it is that one, it does not stand before the place `i`. -/
def insertAll (label : Text) (code i bias : Nat) (t : Text) : Option Text :=
  if t = [] then some label
  else
    match _h : number? bias 1 1 t with
    | none => none
    | some (n, rest) =>
      let length := label.length + 1
      let code := code + (i + n) / length
      let place := (i + n) % length
      if UInt32.size ≤ i + n ∨ !code.isValidChar then none
      else
        insertAll (label.insertIdx place (Char.ofNat code)) code (place + 1)
          (adapt n length (i = 0)) rest
termination_by t.length
decreasing_by exact number?_length_lt _h

/-- **The label that was written in Punycode.** -/
def decode? (t : Text) : Option Text :=
  let digits := Text.afterLast '-' t
  let basic := t.take (t.length - digits.length - 1)
  if basic = [] then insertAll [] 0x80 0 72 t else insertAll basic 0x80 0 72 digits

end Punycode

end TexTranscript
