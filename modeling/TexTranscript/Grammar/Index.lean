import TexTranscript.Grammar.Basic

/-!
# The index processor

The grammar of makeindex. It reports progress on files with certain extensions
only; which ones is a parameter, because the program that makes glossaries
calls makeindex for files of its own.

The extensions are taken literally: a character that means something in a
pattern means itself in an extension.

## Main definitions

* `Index.grammar` – the grammar for a list of extensions.
* `Index.defaultExtensions` – the extensions of an index.
-/

namespace TexTranscript

namespace Index

/-- What a statement of makeindex says. -/
inductive Finding where
  | version (number : Text)
  | progress (description file status : Text)
  | sorting (status : Text)
  | artifact (description path : Text)
  /-- Makeindex is done, and has written its transcript. -/
  | transcript (description path : Text)
deriving Repr, DecidableEq

/-- The extensions of an index and of its source. -/
def defaultExtensions : List Text := ["idx".toList, "ind".toList]

/-- Progress on a file whose extension is one of the given patterns. -/
def progressPattern (extensions : List Pattern) : Pattern :=
  .group (.several .word ++ .lit " " ++ .several .word ++ .lit " file") ++ .lit " " ++
    .optional (.bracket (.lit "./")) ++
    .group (.many .any ++ .lit "." ++ .bracket (.firstOf extensions)) ++
    .many .any ++ .lit "(" ++ .group (.many .any) ++ .lit ")"

/-- The version that makeindex gives itself. -/
def versionPattern : Pattern :=
  .lit "This is makeindex, version " ++
    .group (.several .digit ++ .lit "." ++ .several .digit)

/-- A file that was written, after what was written to it. -/
def writtenPattern : Pattern :=
  .group (.several .word ++ .lit " written in") ++ .lit " " ++ .group (.many .any) ++
    .lit "." ++ .atEnd

/-- The rules, for a list of extensions. -/
def rules (extensions : List Text) : List (Rule Finding) :=
  [⟨versionPattern, fun
     | [number] => some (.version number)
     | _ => none⟩,
   ⟨progressPattern (extensions.map .quoted), fun
     | [description, file, status] => some (.progress description file status)
     | _ => none⟩,
   ⟨.lit "Sorting entries" ++ .many .any ++ .lit "(" ++ .group (.many .any) ++ .lit ")", fun
     | [status] => some (.sorting status)
     | _ => none⟩,
   ⟨.group (.lit "Transcript written in") ++ .lit " " ++ .group (.many .any) ++ .lit "." ++
      .atEnd, fun
     | [description, path] => some (.transcript description path)
     | _ => none⟩,
   ⟨writtenPattern, fun
     | [description, path] => some (.artifact description path)
     | _ => none⟩]

variable {ν : Type}

/-- What the parser does with a finding. -/
def react : Finding → Text → Unit → Reaction ν Unit
  | .version number, _, _ => Reaction.say (.toolVersion .makeindex (String.ofList number))
  | .progress description file status, _, _ =>
    Reaction.say (.progress (String.ofList description) (String.ofList file)
      (String.ofList status))
  | .sorting status, _, _ => Reaction.say (.sorting (String.ofList status))
  | .artifact description path, _, _ =>
    Reaction.say (.artifact (String.ofList description) (String.ofList path))
  | .transcript description path, _, _ => do
    Reaction.say (.artifact (String.ofList description) (String.ofList path))
    Reaction.finish

/-- **The grammar of makeindex**, for files with the given extensions. -/
def grammar (extensions : List Text) : Grammar Unit Finding ν where
  tool := .makeindex
  rules := rules extensions
  start := ()
  react := react

end Index

end TexTranscript
