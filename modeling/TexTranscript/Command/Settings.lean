import TexTranscript.Sink
import TexTranscript.Json.Decode
import TexTranscript.Json.Reader

/-!
# Settings

What can be settled once and for all for a project is kept in a settings file: a
JSON object whose members are all optional, or an array of their values, of which
the last ones may be missing. A file that cannot be read so, in whatever way,
settles nothing at all.

## Main definitions

* `Settings` – the settings, with what holds where nothing is said.
* `Settings.load` – the settings in a file.
-/

namespace TexTranscript

/-- **The settings of a project.** -/
structure Settings where
  /-- Statements that no rule recognizes are echoed. -/
  verbose : Bool := false
  /-- The scheme of the editor that links lead into. -/
  linkScheme : String := "txmt"
  format : Format := .html
  /-- The file in which the ledger of marks is kept. -/
  marksCache : Option String := none
deriving Repr, DecidableEq, Inhabited

namespace Settings

/-- The members of a settings object. -/
def fields : List String := ["verbose", "link_scheme", "format", "marks_cache"]

/-- The values that are given for the fields, in their order. -/
def given? : Json → Option (List (Option Json))
  | .array items =>
    if items.length ≤ fields.length then
      some (items.map some ++ List.replicate (fields.length - items.length) none)
    else none
  | j => Json.fields? fields j

/-- A value for a field, or what holds where none is given. -/
def orElse {α : Type} (default : α) (value? : Json → Option α) : Option Json → Option α
  | none => some default
  | some j => value? j

/-- Reads settings. -/
def ofJson? (j : Json) : Option Settings := do
  let [verbose, scheme, format, cache] ← given? j | none
  return {
    verbose := ← orElse false Json.flag? verbose
    linkScheme := ← orElse "txmt" Json.text? scheme
    format := ← orElse .html (fun j => (Json.constant? false j).bind Format.ofName?) format
    marksCache := ← Json.nullable? Json.text? cache }

/-- **The settings in a file**, of which there may be no content. -/
def load (content : Option (List UInt8)) : Settings :=
  (do ofJson? (← Json.read? (← Utf8.decode? (← content)))).getD {}

end Settings

end TexTranscript
