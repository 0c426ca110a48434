import TexTranscript.Unicode.CombiningClass
import TexTranscript.Unicode.Decomposition

/-!
# Composition

A text in which characters were taken apart is put into one form: the marks behind a
character are sorted by their classes – the order within a class matters, and is kept –
and then each character is put together with the marks behind it, as far as there is a
character for that. A mark can be put together with the character in front as long as
nothing between them is of its class or a higher one.

## Main definitions

* `Composition.sorted` – a text with its marks in order.
* `Composition.compose` – a text with its characters put together.
-/

namespace TexTranscript

namespace Composition

/-- A character with its combining class. -/
abbrev Classed := Nat × Char

/-- Puts a character in front of others, but behind marks of a lower class. -/
def sink (c : Classed) : List Classed → List Classed
  | [] => [c]
  | d :: t => if 0 < d.1 ∧ d.1 < c.1 then d :: sink c t else c :: d :: t

/-- **A text with its marks in order.** -/
def sorted (t : Text) : List Classed := (t.map fun c => (CombiningClass.of c, c)).foldr sink []

/-- Puts a character together with those that follow. Some marks between them, in
reverse, are left as they are; `last` is the class of the last one. -/
def composeFrom (starter : Char) (between : Text) (last : Nat) : List Classed → Text
  | [] => starter :: between.reverse
  | (k, c) :: t =>
    match if between = [] ∨ last < k then Decomposition.together? starter c else none with
    | some whole => composeFrom whole between last t
    | none =>
      if k = 0 then starter :: between.reverse ++ composeFrom c [] 0 t
      else composeFrom starter (c :: between) k t

/-- Puts characters together, from the first one on that is no mark. -/
def composeSorted : List Classed → Text
  | [] => []
  | (k, c) :: t => if k = 0 then composeFrom c [] 0 t else c :: composeSorted t

/-- **A text with its characters put together.** -/
def compose (t : Text) : Text := composeSorted (sorted t)

end Composition

end TexTranscript
