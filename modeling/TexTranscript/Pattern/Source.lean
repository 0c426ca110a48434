import TexTranscript.Pattern.Basic

/-!
# The source of a pattern

A rule table can be listed as the regular expressions that it stands for. A
backslash is written before each character that would otherwise have a meaning
of its own. In the text of a rule these are the metacharacters outside a
class; in a text that came from outside – a file extension – they are also the
four that have a meaning inside a class or where comments are allowed.

## Main definitions

* `Pattern.source` – the regular expression of a pattern.
* `Pattern.anchored` – the same, tied to the start of the text.
-/

namespace TexTranscript

namespace Pattern

/-- The character has a meaning of its own outside a class. -/
def isMeta (c : Char) : Bool := "\\.+*?()|[]\x7b\x7d^$".toList.contains c

/-- The character has a meaning of its own somewhere in a pattern. -/
def isMetaAnywhere (c : Char) : Bool := isMeta c || "#&-~".toList.contains c

/-- The text with a backslash before the characters that satisfy `p`. -/
def escapeBy (p : Char → Bool) (t : Text) : Text :=
  t.flatMap fun c => if p c then ['\\', c] else [c]

/-- The regular expression of a pattern. -/
def source : Pattern → Text
  | literal s => escapeBy isMeta s
  | quoted s => escapeBy isMetaAnywhere s
  | one c => c.source.toList
  | many c => c.source.toList ++ ['*']
  | several c => c.source.toList ++ ['+']
  | fewest c => c.source.toList ++ ['*', '?']
  | optional p => source p ++ ['?']
  | seq p q => source p ++ source q
  | alt p q => source p ++ '|' :: source q
  | group p => '(' :: source p ++ [')']
  | bracket p => "(?:".toList ++ source p ++ [')']
  | atEnd => ['$']

/-- The regular expression of a pattern that is only sought at the start of a
text. -/
def anchored (p : Pattern) : String :=
  String.ofList ("^(?:".toList ++ source p ++ [')'])

end Pattern

end TexTranscript
