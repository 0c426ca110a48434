import TexTranscript.Json.Basic
import TexTranscript.Json.Number

/-!
# Reading JSON

The reader takes one value and nothing else, with white space – space, tab, line
feed and carriage return – where the format allows it. Control characters below
U+0020 must be escaped in a text. A number has no leading zeros, and digits on
both sides of its point.

Nothing is refused for what it means: a text with half a surrogate pair and a
number of any size are read, as foreign values where need be. It is the decoder
that decides whether it can do with them.

## Main definitions

* `Json.read?` – the value of a text.
-/

namespace TexTranscript

namespace Json

/-- The text without the white space in front of it. -/
def skipBlank : Text → Text :=
  List.dropWhile fun c => c == ' ' || c == '\t' || c == '\n' || c == '\r'

/-! ## Texts -/

/-- The value of a hexadecimal digit. -/
def hexValue? (c : Char) : Option Nat :=
  if '0' ≤ c ∧ c ≤ '9' then some (c.toNat - '0'.toNat)
  else if 'a' ≤ c ∧ c ≤ 'f' then some (c.toNat - 'a'.toNat + 10)
  else if 'A' ≤ c ∧ c ≤ 'F' then some (c.toNat - 'A'.toNat + 10)
  else none

/-- What four hexadecimal digits write. -/
def hexValue4? (a b c d : Char) : Option Nat := do
  return ((← hexValue? a) * 16 + (← hexValue? b)) * 256 + (← hexValue? c) * 16 + (← hexValue? d)

/-- The character that a letter behind a backslash stands for. -/
def unescape? : Char → Option Char
  | '"' => some '"'
  | '\\' => some '\\'
  | '/' => some '/'
  | 'b' => some '\x08'
  | 'f' => some '\x0c'
  | 'n' => some '\n'
  | 'r' => some '\r'
  | 't' => some '\t'
  | _ => none

/-- What stands between quotation marks, piece by piece: a character, or half of
a surrogate pair. -/
inductive Unit16 where
  | char (c : Char)
  | half (n : Nat)
deriving Repr, DecidableEq

/-- What a four-digit escape stands for. -/
def Unit16.ofCode (n : Nat) : Unit16 :=
  if 0xD800 ≤ n ∧ n < 0xE000 then half n else char (Char.ofNat n)

/-- The pieces up to the closing quotation mark, and the text behind it. -/
def pieces? : Text → Option (List Unit16 × Text)
  | [] => none
  | '"' :: t => some ([], t)
  | '\\' :: 'u' :: a :: b :: c :: d :: t => do
    let n ← hexValue4? a b c d
    let (ps, rest) ← pieces? t
    return (.ofCode n :: ps, rest)
  | '\\' :: e :: t => do
    let c ← unescape? e
    let (ps, rest) ← pieces? t
    return (.char c :: ps, rest)
  | c :: t =>
    if c = '\\' ∨ c.toNat < 0x20 then none
    else do
      let (ps, rest) ← pieces? t
      return (.char c :: ps, rest)

/-- The text of pieces in which every half has its other half behind it. -/
def assemble? : List Unit16 → Option Text
  | [] => some []
  | .char c :: ps => (assemble? ps).map (c :: ·)
  | .half high :: .half low :: ps =>
    if high < 0xDC00 ∧ 0xDC00 ≤ low then
      (assemble? ps).map
        (Char.ofNat (0x10000 + (high - 0xD800) * 0x400 + (low - 0xDC00)) :: ·)
    else none
  | .half _ :: _ => none

/-! ## Numbers -/

/-- The digits in front of a text, and the rest of it. -/
def takeDigits : Text → Text × Text :=
  List.span fun c => decide ('0' ≤ c ∧ c ≤ '9')

/-- The number that digits write. -/
def valueOf (digits : Text) : Nat := (Text.asciiNumberFrom 0 digits).getD 0

/-- Takes a point with digits behind it, if there is one. -/
def fraction? : Text → Option (Option Text × Text)
  | '.' :: t =>
    match takeDigits t with
    | ([], _) => none
    | (digits, rest) => some (some digits, rest)
  | t => some (none, t)

/-- Takes the sign of an exponent, if there is one: whether it is negative. -/
def exponentSign : Text → Bool × Text
  | '+' :: t => (false, t)
  | '-' :: t => (true, t)
  | t => (false, t)

/-- Takes an exponent, if there is one. -/
def exponent? : Text → Option (Option Int × Text)
  | c :: t =>
    if c = 'e' ∨ c = 'E' then
      let (negative, t) := exponentSign t
      match takeDigits t with
      | ([], _) => none
      | (digits, rest) =>
        some (some (if negative then -(valueOf digits : Int) else (valueOf digits : Int)), rest)
    else some (none, c :: t)
  | [] => some (none, [])

/-- The digits before the point: a zero alone, or digits that begin with none. -/
def whole? (t : Text) : Option (Text × Text) :=
  match takeDigits t with
  | ([], _) => none
  | ('0' :: _ :: _, _) => none
  | (digits, rest) => some (digits, rest)

/-- Takes a number. -/
def number? (negative : Bool) (t : Text) : Option (Json × Text) := do
  let (whole, t) ← whole? t
  let (fraction, t) ← fraction? t
  let (exponent, t) ← exponent? t
  let written : DecimalText := ⟨whole, fraction.getD [], exponent.getD 0⟩
  if !negative && fraction.isNone && exponent.isNone && valueOf whole < UInt64.size then
    return (.natural (valueOf whole), t)
  else return (.foreign written.inRange, t)

/-! ## Values -/

/-- An object, unless one of its keys is foreign. -/
def ofMembers (members : List (Option Text × Json)) : Json :=
  match members.mapM fun (key, j) => key.map fun k => (String.ofList k, j) with
  | some ms => .object ms
  | none => .foreign false

mutual

/-- Takes a value. The first argument bounds the number of steps. -/
def value? : Nat → Text → Option (Json × Text)
  | 0, _ => none
  | n + 1, t =>
    match skipBlank t with
    | '"' :: t => do
      let (ps, rest) ← pieces? t
      match assemble? ps with
      | some s => return (.string (String.ofList s), rest)
      | none => return (.foreign false, rest)
    | '[' :: t =>
      match skipBlank t with
      | ']' :: rest => some (.array [], rest)
      | t => (items? n t).map fun (js, rest) => (.array js, rest)
    | '\x7b' :: t =>
      match skipBlank t with
      | '\x7d' :: rest => some (.object [], rest)
      | t => (members? n t).map fun (ms, rest) => (ofMembers ms, rest)
    | 'n' :: 'u' :: 'l' :: 'l' :: rest => some (.null, rest)
    | 't' :: 'r' :: 'u' :: 'e' :: rest => some (.bool true, rest)
    | 'f' :: 'a' :: 'l' :: 's' :: 'e' :: rest => some (.bool false, rest)
    | '-' :: t => number? true t
    | t => number? false t

/-- Takes the items up to the closing bracket. -/
def items? : Nat → Text → Option (List Json × Text)
  | 0, _ => none
  | n + 1, t => do
    let (j, t) ← value? n t
    match skipBlank t with
    | ',' :: t =>
      let (js, rest) ← items? n t
      return (j :: js, rest)
    | ']' :: rest => return ([j], rest)
    | _ => none

/-- Takes the members up to the closing brace. -/
def members? : Nat → Text → Option (List (Option Text × Json) × Text)
  | 0, _ => none
  | n + 1, t => do
    let (key, t) ← key? t
    let (j, t) ← value? n t
    match skipBlank t with
    | ',' :: t =>
      let (ms, rest) ← members? n t
      return ((key, j) :: ms, rest)
    | '\x7d' :: rest => return ([(key, j)], rest)
    | _ => none
where
  /-- Takes a key and the colon behind it. The key is missing if it is no
  text. -/
  key? (t : Text) : Option (Option Text × Text) :=
    match skipBlank t with
    | '"' :: t => do
      let (ps, t) ← pieces? t
      match skipBlank t with
      | ':' :: rest => return (assemble? ps, rest)
      | _ => none
    | _ => none

end

/-- **The value of a text** that holds nothing else. Each step of the reader
uses up a character or goes one level into a value, so twice the length of the
text is enough of them. -/
def read? (t : Text) : Option Json :=
  match value? (2 * t.length + 2) t with
  | some (j, rest) => if (skipBlank rest).isEmpty then some j else none
  | none => none

end Json

end TexTranscript
