import TexTranscript.Grammar.Index
import TexTranscript.Text.Blank

/-!
# The glossary maker

The grammar of makeglossaries, which calls makeindex or xindy for each type of
glossary. The types are announced together with the extensions of their files;
a *registry* remembers which type an extension was announced for last, and
names the type when a file of it is done. An extension that was never announced
stands for itself.

Runs of makeindex are handed to the parser of makeindex. There is nothing by
which makeglossaries says that it is done; the parse ends with the transcript.

## Main definitions

* `Glossary.Registry`, `Glossary.Registry.typeOf?` – the types by extension.
* `Glossary.grammar` – the grammar.
-/

namespace TexTranscript

namespace Glossary

/-- **The types of glossary** by the extension of their files, the one that was
announced last in front. -/
abbrev Registry := List (Text × Text)

/-- The type that an extension was announced for last. -/
def Registry.typeOf? (r : Registry) (extension : Text) : Option Text :=
  (r.find? fun entry => entry.1 == extension).map (·.2)

/-- The type that an extension was announced for last, or the extension. -/
def Registry.typeOf (r : Registry) (extension : Text) : Text :=
  (r.typeOf? extension).getD extension

/-- Announces a type for the extensions that a text lists between commas. -/
def Registry.announce (r : Registry) (name files : Text) : Registry :=
  ((Text.pieces ',' files).map fun extension => (Text.trim extension, name)).reverse ++ r

/-- What the grammar remembers. -/
structure Memory where
  registry : Registry := []
  /-- How often makeindex was called. -/
  makeindexRuns : Nat := 0
deriving Repr, DecidableEq

/-- What a statement of makeglossaries says. -/
inductive Finding where
  | makeindex (number : Text)
  | version (number : Text)
  | glossaryType (name files : Text)
  | progress (description file status : Text)
  | artifact (description path : Text)
  /-- A glossary was written to a file. -/
  | finished (path : Text)
  | xindy (language extension : Text)
  | warning
  | error
  | remark
deriving Repr, DecidableEq

/-- The extensions of the files that makeindex is called for. -/
def indexExtensions : List Text :=
  ["idx", "ind", "acn", "acr", "ist", "glo", "gls"].map String.toList

/-- The extensions of the files that progress is reported on. -/
def ownExtensions : List Pattern := ["acr", "ist", "glo", "gls"].map .lit

/-- The rules. -/
def rules : List (Rule Finding) :=
  [⟨Index.versionPattern, fun
     | [number] => some (.makeindex number)
     | _ => none⟩,
   ⟨.many .any ++ .lit "makeglossaries version " ++ .group (.many .any) ++ .atEnd, fun
     | [number] => some (.version number)
     | _ => none⟩,
   ⟨.many .any ++ .lit "added glossary type '" ++ .group (.many .any) ++ .lit "' (" ++
      .group (.many .any) ++ .lit ")" ++ .many .any ++ .atEnd, fun
     | [name, files] => some (.glossaryType name files)
     | _ => none⟩,
   ⟨Index.progressPattern ownExtensions, fun
     | [description, file, status] => some (.progress description file status)
     | _ => none⟩,
   ⟨Index.writtenPattern, fun
     | [description, path] => some (.artifact description path)
     | _ => none⟩,
   ⟨.many .any ++ .lit "Markup written into file \"" ++ .group (.many .any) ++ .lit "\"" ++
      .one .any ++ .atEnd, fun
     | [path] => some (.finished path)
     | _ => none⟩,
   ⟨.many .any ++ .lit "xindy" ++ .many .any ++ .lit "-L " ++ .group (.many .any) ++
      .lit " -I" ++ .many .any ++ .lit "-t \"" ++ .many .any ++ .lit "." ++
      .group (.many .any) ++ .lit "\" -o" ++ .many .any ++ .atEnd, fun
     | [language, extension] => some (.xindy language extension)
     | _ => none⟩,
   .sign (.lit "Cannot locate xindy module") .warning,
   .sign (.lit "ERROR") .error,
   .sign (.lit "Warning") .warning,
   .sign (.lit "***") .remark]

/-- What the parser does with a finding. -/
def react : Finding → Text → Memory → Reaction Unit Memory
  | .makeindex number, _, memory => do
    Reaction.say (.toolVersion .makeindex (String.ofList number))
    let _ ← Reaction.handTo
      ((Index.grammar indexExtensions : Grammar Unit Index.Finding Unit).nested id)
    return { memory with makeindexRuns := memory.makeindexRuns + 1 }
  | .version number, _, memory => do
    Reaction.say (.toolVersion .makeglossaries (String.ofList (Text.trim number)))
    return memory
  | .glossaryType name files, _, memory => do
    Reaction.say (.glossaryType (String.ofList name) (String.ofList files))
    return { memory with registry := memory.registry.announce name files }
  | .progress description file status, _, memory => do
    Reaction.say (.progress (String.ofList description) (String.ofList file)
      (String.ofList status))
    return memory
  | .artifact description path, _, memory => do
    Reaction.say (.artifact (String.ofList description) (String.ofList path))
    return memory
  | .finished path, _, memory => do
    let name := memory.registry.typeOf (Text.afterLast '.' path)
    Reaction.say (.glossaryFinished (String.ofList name) (String.ofList path))
    return memory
  | .xindy language extension, _, memory => do
    Reaction.say (.xindyRun (String.ofList (memory.registry.typeOf extension))
      (String.ofList language))
    return memory
  | .warning, statement, memory => do
    Reaction.warning statement
    return memory
  | .error, statement, memory => do
    Reaction.error statement
    return memory
  | .remark, statement, memory => do
    Reaction.info statement
    return memory

/-- **The grammar of makeglossaries.** -/
def grammar : Grammar Memory Finding Unit where
  tool := .makeglossaries
  rules := rules
  start := {}
  react := react

end Glossary

end TexTranscript
