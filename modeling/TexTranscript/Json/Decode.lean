import TexTranscript.Json.Basic

/-!
# Reading values off JSON

The parts from which the decoders of the library are put together. A *record* –
a fixed list of named fields – is written as an object, and may also be read
from an array of its fields in order. In an object the order of the members does
not matter, unknown members are passed over, and a field that is given twice is
refused. A field that may be missing counts as `null` when it is; in an array
nothing may be missing.

The name of a constant – a tool, a severity – may also be given as an object
whose only member has that name and the value `null`. Where the value was held
back, an empty object does in place of `null`.

## Main definitions

* `Json.fields?`, `Json.record?` – the fields of a record.
* `Json.text?`, `Json.count?`, `Json.line?`, … – values of fields.
* `Json.constant?` – the name of a constant.
-/

namespace TexTranscript

namespace Json

/-- The member of a name: it may be missing, but must not be given twice. -/
def member? (name : String) (members : List (String × Json)) : Option (Option Json) :=
  match members.filter (·.1 == name) with
  | [] => some none
  | [m] => some (some m.2)
  | _ => none

/-- The fields of an object, in the order of their names. -/
def fields? (names : List String) : Json → Option (List (Option Json))
  | object members => names.mapM (member? · members)
  | _ => none

/-- The fields of a record, in the order of their names. -/
def record? (names : List String) : Json → Option (List (Option Json))
  | array items => if items.length = names.length then some (items.map some) else none
  | j => fields? names j

/-- A text. -/
def text? : Json → Option String
  | string s => some s
  | _ => none

/-- A truth value. -/
def flag? : Json → Option Bool
  | bool b => some b
  | _ => none

/-- A count, which has sixty-four bits. -/
def count? : Json → Option Nat
  | natural n => if n < UInt64.size then some n else none
  | _ => none

/-- A line number, which has thirty-two bits. -/
def line? : Json → Option UInt32
  | natural n => if n < UInt32.size then some (UInt32.ofNat n) else none
  | _ => none

/-- A list of values of one kind. -/
def list? {α : Type} (item? : Json → Option α) : Json → Option (List α)
  | array items => items.mapM item?
  | _ => none

/-- A value that may be `null` or missing. -/
def nullable? {α : Type} (value? : Json → Option α) : Option Json → Option (Option α)
  | none => some none
  | some null => some none
  | some j => (value? j).map some

/-- The name of a constant. The flag says that the value was held back. -/
def constant? (held : Bool) : Json → Option String
  | string s => some s
  | object [(s, null)] => some s
  | object [(s, object [])] => if held then some s else none
  | _ => none

end Json

end TexTranscript
