import TexTranscript.Text.Blank
import TexTranscript.Text.Digit
import TexTranscript.Text.Word

/-!
# Character classes of the rule patterns

The sets of characters that a pattern may take one by one. There are only a
handful: any character but a line feed, the word, digit and blank classes of
Unicode, all characters but one, and the characters of a source file name as
the TeX engines print it.

## Main definitions

* `CharClass` – the classes.
* `CharClass.contains` – membership.
* `CharClass.source` – the spelling of a class in the source of a pattern.
-/

namespace TexTranscript

/-- A set of characters from which a pattern takes one. -/
inductive CharClass where
  /-- Every character but a line feed. -/
  | any
  /-- Word characters of all scripts. -/
  | word
  /-- Decimal digits of all scripts. -/
  | digit
  /-- White space. -/
  | blank
  /-- Every character but the given one. -/
  | except (c : Char)
  /-- What the engines print in the name of a source file: word characters,
  `.`, `/`, `-`, and everything beyond ASCII. -/
  | fileName
deriving Repr, DecidableEq

namespace CharClass

/-- The character is in the class. -/
def contains : CharClass → Char → Bool
  | any, c => c != '\n'
  | word, c => Text.isWord c
  | digit, c => Text.isDigit c
  | blank, c => Text.isBlank c
  | except d, c => c != d
  | fileName, c =>
    Text.isWord c || c == '.' || c == '/' || c == '-' || decide (0x80 ≤ c.toNat)

/-- The class as it is spelled in the source of a pattern. -/
def source : CharClass → String
  | any => "."
  | word => "\\w"
  | digit => "\\d"
  | blank => "\\s"
  | except c => "[^" ++ c.toString ++ "]"
  | fileName => "[\\w./\\-\\x\x7b80\x7d-\\x\x7b10FFFF\x7d]"

end CharClass

end TexTranscript
