import TexTranscript.Html
import TexTranscript.Message.Codec
import TexTranscript.Json.Writer

/-!
# Sinks

A sink is where the messages of a parse go, one after the other. It writes each of
them as one piece: a fragment of HTML or a JSON object, and a line break. A message
that cannot be written is lost, and the next one is written as if nothing had
happened.

## Main definitions

* `Format` – how messages are written.
* `Format.line` – a message as it is written.
* `Format.written` – what each message adds to the output.
-/

namespace TexTranscript

/-- **How messages are written.** -/
inductive Format where
  | html
  | json
deriving Repr, DecidableEq, Inhabited

namespace Format

/-- The name of a format. -/
def name : Format → String
  | html => "html"
  | json => "json"

/-- The format of a name. -/
def ofName? (s : String) : Option Format := [html, json].find? (·.name == s)

@[simp] theorem ofName?_name (f : Format) : ofName? f.name = some f := by
  cases f <;> decide

/-- **A message as it is written.** Only HTML has links. -/
def line (l : Linker) : Format → Message → Text
  | html, m => (m.html l).text ++ ['\n']
  | json, m => m.toJson.compact ++ ['\n']

/-- What each message adds to the output. Each comes with the answer whether it could
be written. -/
def written (f : Format) (l : Linker) (messages : List (Message × Bool)) : List Text :=
  messages.map fun (m, ok) => if ok then f.line l m else []

/-- What is written of messages that all could be. -/
def output (f : Format) (l : Linker) (messages : List Message) : Text :=
  messages.flatMap (f.line l)

end Format

end TexTranscript
