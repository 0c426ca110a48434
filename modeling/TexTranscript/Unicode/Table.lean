import TexTranscript.Text.Basic
import TexTranscript.Text.Ranges

/-!
# Tables of characters

The properties of characters are written down as texts of words, with the code points
in hexadecimal digits.

* A set of characters is a list of code points and ranges: `41-5A 61`.
* A table of replacements is a list of entries. A word with a colon says which
  character the next entry is for, and the entries behind it are for the characters
  that follow: `C0: 41,300 41,301`.
* A table of shifts is a list of ranges with the character that takes the place of the
  first one: `41-5A>61`.

## Main definitions

* `CodeTable.ranges` – the set that a text writes.
* `CodeTable.entries`, `CodeTable.entry?` – the replacements that a text writes, and
  the one for a character.
* `CodeTable.shifts`, `CodeTable.shift?` – the same for shifts.
-/

namespace TexTranscript

namespace CodeTable

/-- The value of a hexadecimal digit with a capital letter. -/
def digit (c : Char) : Nat := if c ≤ '9' then c.toNat - 0x30 else c.toNat - 0x37

/-- The number that hexadecimal digits write. -/
def number (t : Text) : Nat := t.foldl (fun n c => 16 * n + digit c) 0

/-- The words of a text. -/
def words (s : String) : List Text :=
  (Text.pieces ' ' (s.toList.map fun c => if c = '\n' then ' ' else c)).filter (· ≠ [])

/-- What stands in front of the first `c` in a word, and what stands behind it; the
whole word for both if there is none. -/
def around (c : Char) (word : Text) : Text × Text :=
  match word.span (· ≠ c) with
  | (a, _ :: b) => (a, b)
  | (a, []) => (a, a)

/-- The range that a word writes. -/
def range (word : Text) : Nat × Nat :=
  let (a, b) := around '-' word
  (number a, number b)

/-- **The set that a text writes.** -/
def ranges (s : String) : CodeRanges := (words s).map range

/-- The entries of a table, the next one being for the character `next`. -/
def entriesFrom (next : Nat) : List Text → List (Nat × Text)
  | [] => []
  | word :: rest =>
    if word.getLast? = some ':' then entriesFrom (number word.dropLast) rest
    else
      (next, (Text.pieces ',' word).map fun t => Char.ofNat (number t)) ::
        entriesFrom (next + 1) rest

/-- **The replacements that a text writes.** -/
def entries (s : String) : List (Nat × Text) := entriesFrom 0 (words s)

/-- The replacement for a character. -/
def entry? (table : List (Nat × Text)) (c : Char) : Option Text := table.lookup c.toNat

/-- **The shifts that a text writes.** -/
def shifts (s : String) : List ((Nat × Nat) × Nat) :=
  (words s).map fun word =>
    let (r, target) := around '>' word
    (range r, number target)

/-- The character that takes the place of a character. -/
def shift? (table : List ((Nat × Nat) × Nat)) (c : Char) : Option Char :=
  (table.find? fun (r, _) => decide (r.1 ≤ c.toNat) && decide (c.toNat ≤ r.2)).map
    fun (r, target) => Char.ofNat (target + (c.toNat - r.1))

end CodeTable

end TexTranscript
