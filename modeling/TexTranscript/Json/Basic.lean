import TexTranscript.Text.Basic

/-!
# JSON values

Messages, marks and ledgers are stored and exchanged as JSON. The only numbers
they use are natural ones of 64 bits, and every text they use is well formed. A
document from elsewhere may hold other numbers, and texts whose escapes name half a
surrogate pair; these are *foreign*: a decoder may pass them over, but nothing
can be read off them. An object with a foreign key is foreign as a whole.

## Holding a value back

A value that comes before the decoder knows what it is must be held back until
it does. Only then do limits apply: the value must not be nested too deeply, its
numbers must be in the range of binary64, and its texts must be well formed,
even where it is passed over in the end.

## Main definitions

* `Json` – values.
* `Json.canHold` – the value can be held back.
-/

namespace TexTranscript

/-- **A JSON value.** Members of an object are in the order they were written. -/
inductive Json where
  | null
  | bool (b : Bool)
  | natural (n : Nat)
  | string (s : String)
  | array (items : List Json)
  | object (members : List (String × Json))
  /-- A value that nothing can be read off: a number of another kind, a text
  that is not well formed, or an object with such a key. It may be possible to
  hold it back. -/
  | foreign (holdable : Bool)
deriving Repr, Inhabited

namespace Json

/-- How many values may be nested in each other, from the outermost on. -/
def depthLimit : Nat := 127

mutual

/-- The value can be held back where it may be nested `depth` deep. -/
def canHold : Nat → Json → Bool
  | _, null => true
  | _, bool _ => true
  | _, natural _ => true
  | _, string _ => true
  | depth, array items => decide (0 < depth) && canHoldItems (depth - 1) items
  | depth, object members => decide (0 < depth) && canHoldMembers (depth - 1) members
  | _, foreign holdable => holdable

/-- All items can be held back. -/
def canHoldItems : Nat → List Json → Bool
  | _, [] => true
  | depth, j :: js => canHold depth j && canHoldItems depth js

/-- The values of all members can be held back. -/
def canHoldMembers : Nat → List (String × Json) → Bool
  | _, [] => true
  | depth, (_, j) :: ms => canHold depth j && canHoldMembers depth ms

end

end Json

end TexTranscript
