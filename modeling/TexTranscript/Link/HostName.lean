import TexTranscript.Link.NameMapping
import TexTranscript.Link.Punycode
import TexTranscript.Unicode.Composition
import TexTranscript.Unicode.Direction
import TexTranscript.Unicode.Joining

/-!
# Names of hosts

The host of an address in the network may be a name in any script. It is mapped to the
characters that a name can hold, put together, and cut into labels at its dots. A label
that begins with `xn--` is written in Punycode already, and must be what some label
would be written as; any other label is written in Punycode if it holds more than ASCII.

A label is *sound* when it does not begin with a mark, when every joiner in it has
something to join, and when nothing in it separates the parts of an address. A name in
which something is written from right to left is under the rule of directions as well:
each of its labels must be of one direction and must not change its looks beside others.

## Main definitions

* `HostName.mapped?` – a text in the characters that a name can hold.
* `HostName.isSound`, `HostName.hasOneDirection` – what is asked of a label.
* `HostName.ascii?` – a name in ASCII.
-/

namespace TexTranscript

namespace HostName

/-- What a label in Punycode begins with. -/
def codedStart : Text := "xn--".toList

/-- The most characters of a label that is not in ASCII. -/
def labelLimit : Nat := 1000

/-- The most characters of a label in Punycode behind its beginning. -/
def codeLimit : Nat := 2000

/-- The text is in ASCII. -/
def isAscii (t : Text) : Bool := t.all (· < '\x80')

/-- **A text in the characters that a name can hold**, if it can be written so. -/
def mapped? (t : Text) : Option Text :=
  (t.mapM NameMapping.ofChar?).map fun ts => Composition.compose ts.flatten

/-! ### Joiners -/

/-- What lets its neighbours join, or not join. -/
def nonJoiner : Char := '\u200C'

/-- What joins its neighbours. -/
def joiner : Char := '\u200D'

/-- A joiner has something to join, given what stands in front of it, in reverse, and
what stands behind it: a sign that suppresses a vowel, or, if it keeps letters from being
joined, two letters that would be. -/
def joins (c : Char) (before after : Text) : Bool :=
  (before.head?.map CombiningClass.of == some CombiningClass.virama) ||
    (c == nonJoiner &&
      ((before.dropWhile Joining.isTransparent).head?.map Joining.joinsNext).getD false &&
      ((after.dropWhile Joining.isTransparent).head?.map Joining.joinsLast).getD false)

/-- Every joiner has something to join, in a text behind another one that is given in
reverse. -/
def joinersFit (before : Text) : Text → Bool
  | [] => true
  | c :: t => (!(c == nonJoiner || c == joiner) || joins c before t) && joinersFit (c :: before) t

/-! ### Labels -/

/-- What no name can hold: controls, and the characters that separate the parts of an
address. -/
def isForbidden (c : Char) : Bool :=
  c ≤ ' ' || c = '\x7F' || "%#/:<>?@[\\]^|".toList.contains c

/-- **What is asked of a label** in any name. -/
def isSound (label : Text) : Bool :=
  !(label.head?.any Mark.isMark) && joinersFit [] label && !label.any isForbidden

/-- What a label that is written from left to right can hold. -/
def inLeftToRight (d : Direction) : Bool :=
  [.leftToRight, .europeanNumber, .europeanSeparator, .commonSeparator, .europeanTerminator,
    .otherNeutral, .boundaryNeutral, .nonspacingMark].contains d

/-- What a label that is written from right to left can hold. -/
def inRightToLeft (d : Direction) : Bool :=
  [.rightToLeft, .arabic, .arabicNumber, .europeanNumber, .europeanSeparator, .commonSeparator,
    .europeanTerminator, .otherNeutral, .boundaryNeutral, .nonspacingMark].contains d

/-- **What is asked of a label** in a name of which something is written from right to
left. It begins with a letter, and ends, marks apart, with a letter or a number. From
right to left, its numbers are of one kind. -/
def hasOneDirection (label : Text) : Bool :=
  let ds := label.map Direction.of
  let ends (allowed : List Direction) : Bool :=
    (ds.reverse.find? (· ≠ .nonspacingMark)).any allowed.contains
  match ds with
  | [] => true
  | .leftToRight :: _ => ds.all inLeftToRight && ends [.leftToRight, .europeanNumber]
  | .rightToLeft :: _ | .arabic :: _ =>
    ds.all inRightToLeft && ends [.rightToLeft, .arabic, .europeanNumber, .arabicNumber] &&
      !(ds.contains .europeanNumber && ds.contains .arabicNumber)
  | _ => false

/-- The label that is written by a code, if it could not be written otherwise. -/
def decoded? (code : Text) : Option Text := do
  if code.getLast? = some '-' ∨ codeLimit < code.length then none
  let label ← Punycode.decode? code
  if isAscii label ∨ mapped? label ≠ some label ∨ Text.startsWith codedStart label then none
  return label

/-- A label of a mapped name: as it is meant, and in ASCII. -/
def forms? (label : Text) : Option (Text × Text) :=
  match Text.after? codedStart label with
  | some [] => none
  | some code => (decoded? code).map (·, label)
  | none =>
    some (label, if isAscii label then label else codedStart ++ Punycode.encode label)

/-- The labels can stand together in a name. -/
def fit (labels : List Text) : Bool :=
  labels.all (fun t => isSound t && (isAscii t || t.length ≤ labelLimit)) &&
    (!(labels.any (·.any fun c => (Direction.of c).isRightToLeft)) || labels.all hasOneDirection)

/-- **A name in ASCII**, if it is one. -/
def ascii? (t : Text) : Option Text := do
  let forms ← (Text.pieces '.' (← mapped? t)).mapM forms?
  if fit (forms.map (·.1)) then some (Text.join ['.'] (forms.map (·.2))) else none

end HostName

end TexTranscript
