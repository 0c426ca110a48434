import TexTranscript.Text.Basic

/-!
# Paths

Paths name files in the manner of Unix: parts between slashes, where repeated
slashes and parts `.` count for nothing, except a `.` in front. The *name* in a
path is its last part, if that is neither `..` nor a lone `.`; the slashes and
dots behind it are not looked at. The *extension* is what follows the last dot
in the name, but not where that dot is the first character of the name; the
*stem* is what stands before.

Paths are never looked up here, and `..` is never resolved.

## Main definitions

* `FilePath.parts`, `FilePath.above` – the parts of a path, and the path without the
  last one.
* `FilePath.name?`, `FilePath.stem?`, `FilePath.extension?` – the last part, and
  its two halves.
* `FilePath.withExtension` – the path with another extension.
* `FilePath.join` – a path seen from a directory.
-/

namespace TexTranscript

namespace FilePath

/-- The path starts at the root. -/
def isAbsolute (p : Text) : Bool := p.head? == some '/'

/-- The parts of a path, without what counts for nothing. -/
def parts (p : Text) : List Text :=
  match Text.pieces '/' p with
  | [] => []
  | first :: rest =>
    [first].filter (· ≠ []) ++ rest.filter fun part => part ≠ [] ∧ part ≠ ['.']

/-- Two paths are the same as far as their parts show. -/
def same (p q : Text) : Bool := isAbsolute p == isAbsolute q && parts p == parts q

/-- Drops the slashes and dots at the end of a path that is read backwards. -/
def dropTrailing : Text → Text
  | '/' :: r => dropTrailing r
  | '.' :: '/' :: r => dropTrailing r
  | r => r

/-- What stands in front of the name in a path, and the name. -/
def splitName? (p : Text) : Option (Text × Text) :=
  let r := dropTrailing p.reverse
  let name := (r.takeWhile (· != '/')).reverse
  if name = [] ∨ name = ['.'] ∨ name = ['.', '.'] then none
  else some ((r.dropWhile (· != '/')).reverse, name)

/-- The path of what the last part of a path is in, which is empty if that cannot be
said. -/
def above (p : Text) : Text :=
  let r := dropTrailing ((dropTrailing p.reverse).dropWhile (· ≠ '/'))
  if r = [] ∧ isAbsolute p then ['/'] else r.reverse

/-- The name in a path. -/
def name? (p : Text) : Option Text := (splitName? p).map (·.2)

/-- The two halves of a name, around its last dot. -/
def splitAtDot (name : Text) : Text × Option Text :=
  let extension := Text.afterLast '.' name
  let stem := name.take (name.length - extension.length - 1)
  if extension.length = name.length ∨ stem = [] then (name, none) else (stem, some extension)

/-- The name in a path, without its extension. -/
def stem? (p : Text) : Option Text := (name? p).map fun name => (splitAtDot name).1

/-- The extension of the name in a path. -/
def extension? (p : Text) : Option Text := (name? p).bind fun name => (splitAtDot name).2

/-- Puts an extension, with a dot, behind the stem of the name in a path. A path
without a name stays as it is. -/
def setExtension (p ext : Text) : Text :=
  match splitName? p with
  | none => p
  | some (before, name) =>
    before ++ (splitAtDot name).1 ++ if ext = [] then [] else '.' :: ext

/-- The path with another extension. As many characters as the old extension
has are cut off before the new one is set, so that a name which is then no name
any more – `..`, from `..old` – gets none. -/
def withExtension (p ext : Text) : Text :=
  match extension? p with
  | none => setExtension p ext
  | some old => setExtension (p.take (p.length - old.length)) ext

/-- The path `p` as it is seen from the directory `root`. -/
def join (root p : Text) : Text :=
  if isAbsolute p then p
  else if root = [] ∨ root.getLast? = some '/' then root ++ p
  else root ++ '/' :: p

end FilePath

end TexTranscript
