import TexTranscript.Text.Basic
import TexTranscript.Text.Ranges

/-!
# White space

The characters with the Unicode property White_Space: twenty-five of them, and
more than the four that `Char.isWhitespace` knows. Both the class `\s` of the
rule patterns and the trimming of captured text use this set.

## Main definitions

* `Text.isBlank` – the character is white space.
* `Text.trim` – a text without the white space at its two ends.
-/

namespace TexTranscript

namespace Text

/-- The code points of white space. -/
def blankRanges : CodeRanges :=
  [(0x0009, 0x000D), (0x0020, 0x0020), (0x0085, 0x0085), (0x00A0, 0x00A0), (0x1680, 0x1680),
   (0x2000, 0x200A), (0x2028, 0x2029), (0x202F, 0x202F), (0x205F, 0x205F), (0x3000, 0x3000)]

/-- The character is white space. -/
def isBlank (c : Char) : Bool := blankRanges.holds c.toNat

/-- The text without the white space at its two ends. -/
def trim (t : Text) : Text := stripBy isBlank t

/-- The table is in order and has twenty-five members. -/
theorem blankRanges_ordered : blankRanges.Ordered = true ∧ blankRanges.size = 25 := by decide

/-- **The table only adds.** Every character that the core library calls white
space is blank. -/
theorem isBlank_of_isWhitespace {c : Char} (h : c.isWhitespace = true) : isBlank c = true := by
  simp only [Char.isWhitespace, Bool.or_eq_true, decide_eq_true_eq] at h
  rcases h with ((h | h) | h) | h <;> subst h <;> decide

end Text

end TexTranscript
