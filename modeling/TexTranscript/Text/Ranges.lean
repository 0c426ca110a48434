/-!
# Sets of code points as ranges

A character class of the Unicode standard is stored as a list of closed ranges
of code points, ascending and apart. This module says when a code point lies in
such a list, and what it means for a list to be in order.

## Main definitions

* `CodeRanges.Holds` – a code point lies in one of the ranges.
* `CodeRanges.Ordered` – the ranges ascend and do not touch.
-/

namespace TexTranscript

/-- Closed ranges of code points. -/
abbrev CodeRanges := List (Nat × Nat)

namespace CodeRanges

/-- The code point lies in one of the ranges. -/
def Holds (ranges : CodeRanges) (n : Nat) : Prop := ∃ r ∈ ranges, r.1 ≤ n ∧ n ≤ r.2

/-- Decides membership, trying the ranges in turn. -/
def holds (ranges : CodeRanges) (n : Nat) : Bool :=
  ranges.any fun r => decide (r.1 ≤ n) && decide (n ≤ r.2)

theorem holds_iff {ranges : CodeRanges} {n : Nat} : ranges.holds n = true ↔ ranges.Holds n := by
  simp [holds, Holds]

instance (ranges : CodeRanges) (n : Nat) : Decidable (ranges.Holds n) :=
  decidable_of_iff _ holds_iff

/-- The ranges are not empty, ascend, and leave a gap between each other. -/
def Ordered : CodeRanges → Bool
  | [] => true
  | [r] => decide (r.1 ≤ r.2)
  | r :: s :: rest => decide (r.1 ≤ r.2) && decide (r.2 + 1 < s.1) && Ordered (s :: rest)

/-- How many code points the ranges hold. -/
def size (ranges : CodeRanges) : Nat := ranges.foldr (fun r n => r.2 + 1 - r.1 + n) 0

end CodeRanges

end TexTranscript
