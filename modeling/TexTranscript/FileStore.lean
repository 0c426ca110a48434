import TexTranscript.FilePath
import TexTranscript.Text.Utf8

/-!
# Files and directories

A *store* says what is found at a place: a file with its bytes, a directory, or
nothing. A place is given by the names that lead to it from the root, which is always
a directory; `[]` is the root itself.

A path is followed part by part, and everything but its last part must be a
directory that is there. This is so also for a part that leads nowhere new: `f/.` is
not found when `f` is a file. A path that does not begin at the root begins at the
directory that the program is in.

This directory has a path of its own, but it cannot always be told: a program can be
adrift, in a directory that no path leads to any more.

Paths and names must not be too long, and no path holds a null character; otherwise
nothing can be done with them.

## Main definitions

* `FileStore`, `FileStore.find?` – stores, and what is at a place.
* `FileStore.directoryPath` – the path of the directory that the program is in.
* `FileStore.locate?` – the place that a path leads to.
* `FileStore.content?`, `FileStore.opened?` – reading.
* `FileStore.save` – writing, with the directories that are missing.
-/

namespace TexTranscript

/-- The names that lead to something from the root. -/
abbrev Place := List Text

/-- What can be at a place. -/
inductive Node where
  | directory
  | file (content : List UInt8)
deriving Repr, DecidableEq

/-- **What is found where**, and where the program is. -/
structure FileStore where
  /-- Below the root. -/
  entry : Place → Option Node
  /-- The directory that the program is in. -/
  directory : Place := []
  /-- The path of this directory cannot be told. It was removed while the program was in
  it, or it lies outside of all that can be reached from the root. -/
  adrift : Bool := false

namespace FileStore

/-- Nothing but the root, with the program in it. -/
def empty : FileStore := { entry := fun _ => none }

instance : Inhabited FileStore := ⟨empty⟩

/-- What is at a place. -/
def find? (s : FileStore) (p : Place) : Option Node := if p = [] then some .directory else s.entry p

/-- There is a directory at a place. -/
def isDirectory (s : FileStore) (p : Place) : Bool := s.find? p = some .directory

/-- Puts something at a place. -/
def put (s : FileStore) (p : Place) (n : Node) : FileStore :=
  { s with entry := fun q => if q = p then some n else s.entry q }

@[simp] theorem directory_put (s : FileStore) (p : Place) (n : Node) :
    (s.put p n).directory = s.directory := rfl

@[simp] theorem find?_put_self {s : FileStore} {p : Place} {n : Node} (h : p ≠ []) :
    (s.put p n).find? p = some n := by
  simp [find?, put, h]

@[simp] theorem find?_put_of_ne {s : FileStore} {p q : Place} {n : Node} (h : q ≠ p) :
    (s.put p n).find? q = s.find? q := by
  simp [find?, put, h]

/-- The most bytes that a name can have. -/
def nameLimit : Nat := 255

/-- The most bytes that a path can have. -/
def pathLimit : Nat := 4095

/-- A path with which something can be done. -/
def isUsable (path : Text) : Bool :=
  !path.contains '\x00' && decide ((Utf8.encode path).length ≤ pathLimit)

/-- The path of the directory that the program is in. -/
def directoryPath (s : FileStore) : Text := '/' :: Text.join ['/'] s.directory

/-- The path of the directory that the program is in, if it can be told. -/
def directoryPath? (s : FileStore) : Option Text :=
  if s.adrift then none else some s.directoryPath

theorem directoryPath?_of_not_adrift {s : FileStore} (h : s.adrift = false) :
    s.directoryPath? = some s.directoryPath := if_neg (Bool.eq_false_iff.1 h)

/-- The place where a path begins. -/
def start (s : FileStore) (path : Text) : Place :=
  if FilePath.isAbsolute path then [] else s.directory

/-- Follows one part of a path. -/
def step? (s : FileStore) (p : Place) (part : Text) : Option Place :=
  if !s.isDirectory p ∨ nameLimit < (Utf8.encode part).length then none
  else if part = [] ∨ part = ['.'] then some p
  else if part = ['.', '.'] then some p.dropLast
  else some (p ++ [part])

/-- **The place that a path leads to.** Nothing need be there. -/
def locate? (s : FileStore) (path : Text) : Option Place :=
  if path = [] ∨ !isUsable path then none
  else (Text.pieces '/' path).foldlM s.step? (s.start path)

/-- The content of a file. -/
def content? (s : FileStore) (path : Text) : Option (List UInt8) :=
  match (s.locate? path).bind s.find? with
  | some (.file bytes) => some bytes
  | _ => none

/-- What can be read after opening a file. A directory can be opened, and there is
nothing to be read in it. -/
def opened? (s : FileStore) (path : Text) : Option (List UInt8) :=
  match (s.locate? path).bind s.find? with
  | some (.file bytes) => some bytes
  | some .directory => some []
  | none => none

/-- Makes the directories on the way along some parts, starting at a place, where
they are missing. Gives where the way ends, unless a file stands in it. -/
def makeWay (s : FileStore) (p : Place) : List Text → FileStore × Option Place
  | [] => (s, some p)
  | part :: parts =>
    match s.step? p part with
    | none => (s, none)
    | some q =>
      match s.find? q with
      | some .directory => makeWay s q parts
      | some (.file _) => (s, none)
      | none => makeWay (s.put q .directory) q parts

/-- Makes a directory and those above it. -/
def makeDirectory (s : FileStore) (path : Text) : FileStore × Option Place :=
  if isUsable path then s.makeWay (s.start path) (FilePath.parts path) else (s, none)

/-- Writes a file whose directory is there. -/
def write? (s : FileStore) (path : Text) (bytes : List UInt8) : Option FileStore := do
  let p ← s.locate? path
  if s.isDirectory p then none else some (s.put p (.file bytes))

/-- **Writes a file**, after making the directories above it. The answer says whether
the file could be written; directories that were made stay. -/
def save (s : FileStore) (path : Text) (bytes : List UInt8) : FileStore × Bool :=
  match s.makeDirectory (FilePath.above path) with
  | (s, none) => (s, false)
  | (s, some _) =>
    match s.write? path bytes with
    | none => (s, false)
    | some written => (written, true)

end FileStore

end TexTranscript
