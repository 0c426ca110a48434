import TexTranscript.Json.Basic

/-!
# Writing JSON

A value is written on one line without any space, or on several lines with two
spaces for each level. In a text only the quotation mark, the backslash and the
control characters below U+0020 are escaped; everything else stands for itself.
No text that is written holds a line feed, therefore, unless the value is spread
over several lines.

## Main definitions

* `Json.compact` – the value on one line.
* `Json.spread` – the value on several lines.
-/

namespace TexTranscript

namespace Json

/-- The hexadecimal digit of a number below sixteen. -/
def hexDigit (n : Nat) : Char :=
  if n < 10 then Char.ofNat ('0'.toNat + n) else Char.ofNat ('a'.toNat + (n - 10))

/-- A character as it is written within quotation marks. -/
def escapeChar (c : Char) : Text :=
  if c = '"' then ['\\', '"']
  else if c = '\\' then ['\\', '\\']
  else if 0x20 ≤ c.toNat then [c]
  else if c = '\x08' then ['\\', 'b']
  else if c = '\t' then ['\\', 't']
  else if c = '\n' then ['\\', 'n']
  else if c = '\x0c' then ['\\', 'f']
  else if c = '\r' then ['\\', 'r']
  else ['\\', 'u', '0', '0', hexDigit (c.toNat / 16), hexDigit (c.toNat % 16)]

/-- A text within quotation marks. -/
def quote (s : String) : Text := '"' :: s.toList.flatMap escapeChar ++ ['"']

/-- A foreign value, by the shortest text that is read as one. -/
def writeForeign (holdable : Bool) : Text :=
  if holdable then ['-', '1'] else "\"\\ud800\"".toList

mutual

/-- **The value on one line.** -/
def compact : Json → Text
  | null => "null".toList
  | bool b => if b then "true".toList else "false".toList
  | natural n => Nat.toDigits 10 n
  | string s => quote s
  | array items => '[' :: compactItems items ++ [']']
  | object members => '\x7b' :: compactMembers members ++ ['\x7d']
  | foreign holdable => writeForeign holdable

/-- Items with commas between them. -/
def compactItems : List Json → Text
  | [] => []
  | [j] => compact j
  | j :: k :: js => compact j ++ ',' :: compactItems (k :: js)

/-- Members with commas between them. -/
def compactMembers : List (String × Json) → Text
  | [] => []
  | [(key, j)] => quote key ++ ':' :: compact j
  | (key, j) :: m :: ms => quote key ++ ':' :: compact j ++ ',' :: compactMembers (m :: ms)

end

/-- The start of a line at a level. -/
def newLine (level : Nat) : Text := '\n' :: List.replicate (2 * level) ' '

mutual

/-- **The value on several lines**, of which the first is begun at a level. -/
def spread (level : Nat) : Json → Text
  | array [] => ['[', ']']
  | array (j :: js) =>
    '[' :: newLine (level + 1) ++ spread (level + 1) j ++ spreadItems (level + 1) js ++
      newLine level ++ [']']
  | object [] => ['\x7b', '\x7d']
  | object ((key, j) :: ms) =>
    '\x7b' :: newLine (level + 1) ++ quote key ++ ": ".toList ++ spread (level + 1) j ++
      spreadMembers (level + 1) ms ++ newLine level ++ ['\x7d']
  | null => "null".toList
  | bool b => if b then "true".toList else "false".toList
  | natural n => Nat.toDigits 10 n
  | string s => quote s
  | foreign holdable => writeForeign holdable

/-- The items after the first, each on its own line. -/
def spreadItems (level : Nat) : List Json → Text
  | [] => []
  | j :: js => ',' :: newLine level ++ spread level j ++ spreadItems level js

/-- The members after the first, each on its own line. -/
def spreadMembers (level : Nat) : List (String × Json) → Text
  | [] => []
  | (key, j) :: ms =>
    ',' :: newLine level ++ quote key ++ ": ".toList ++ spread level j ++ spreadMembers level ms

end

end Json

end TexTranscript
