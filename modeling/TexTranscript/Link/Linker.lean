import TexTranscript.FilePath
import TexTranscript.Link.Url

/-!
# Links into an editor

An editor opens a file at a line when it is sent to a web address of its own
scheme: `<scheme>://open/?url=file://<path>&line=<n>`. The path is percent-encoded
but for its slashes; spaces become `%20`, for editors do not decode the value as a
form would be decoded.

A *linker* makes such addresses. It may have a root, from which relative paths are
seen.

## Main definitions

* `Linker`, `Linker.ofScheme`, `Linker.withRoot` – linkers.
* `Linker.resolve` – the path that a link means.
* `Linker.link` – the link to a line of a file.
-/

namespace TexTranscript

/-- **What makes links** into one editor. -/
structure Linker where
  /-- The address that opens nothing yet. -/
  base : Url
  root : Option Text := none
deriving Repr, DecidableEq

namespace Linker

/-- The linker of a scheme, if an address can begin with it. -/
def ofScheme (scheme : Text) : Except Refusal Linker := do
  return { base := ← Url.read (scheme ++ "://open/".toList) }

/-- The linker of the editor that is assumed where none is named. -/
def standard : Linker :=
  { base := { scheme := "txmt".toList, authority := some "open".toList, path := ['/'] } }

instance : Inhabited Linker := ⟨standard⟩

/-- The same linker, with relative paths seen from `root`. -/
def withRoot (l : Linker) (root : Text) : Linker := { l with root := some root }

/-- The path that a link to a file means. -/
def resolve (l : Linker) (file : Text) : Text :=
  match l.root with
  | some root => FilePath.join root file
  | none => file

/-- The query that names a path and a line. -/
def query (path : Text) (line : UInt32) : Text :=
  "url=file://".toList ++ Percent.path path ++ "&line=".toList ++ (toString line.toNat).toList

/-- **The link to a line of a file.** -/
def link (l : Linker) (file : Text) (line : UInt32) : Text :=
  (l.base.withQuery (query (l.resolve file) line)).text

end Linker

end TexTranscript
