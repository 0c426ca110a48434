import TexTranscript.Json.Reader
import TexTranscript.Json.Writer
import TexTranscript.Message.Codec
import TexTranscript.Text.Utf8

/-!
# The gutter

An editor shows marks in the gutter beside the lines of a file. They stay there
until they are taken away, also when the next run has nothing to say about the
file any more. A *ledger* therefore remembers which files carry marks. After
each run it is updated: the files it knew are to be cleared, and the new marks
to be set.

The ledger is kept in a file between runs. One that is missing or makes no sense
is as good as an empty one.

## Main definitions

* `FileSet` – a set of files, in ascending order.
* `MarkLedger`, `MarkUpdate`, `MarkLedger.update` – ledgers and updates.
* `MarkLedger.stored`, `MarkLedger.load` – the ledger in a file.
-/

namespace TexTranscript

/-- **A set of files**, in the order of their code points and without
repetition. -/
structure FileSet where
  files : List String
  ascending : files.Pairwise (· < ·)
deriving DecidableEq

namespace FileSet

/-- No file. -/
def empty : FileSet := ⟨[], .nil⟩

instance : Inhabited FileSet := ⟨empty⟩

/-- Puts a file in its place among files in order, unless it is there. -/
def place (f : String) : List String → List String
  | [] => [f]
  | g :: gs => if f < g then f :: g :: gs else if f = g then g :: gs else g :: place f gs

@[simp] theorem mem_place {f g : String} {gs : List String} :
    g ∈ place f gs ↔ g = f ∨ g ∈ gs := by
  induction gs with
  | nil => simp [place]
  | cons h gs ih =>
    simp only [place]
    split
    · simp
    · split
      · next hfh => simp [hfh]
      · simp only [List.mem_cons, ih]
        exact or_left_comm

theorem ascending_place {f : String} {gs : List String} (h : gs.Pairwise (· < ·)) :
    (place f gs).Pairwise (· < ·) := by
  induction gs with
  | nil => simp [place]
  | cons g gs ih =>
    obtain ⟨hg, hgs⟩ := List.pairwise_cons.1 h
    simp only [place]
    split
    · next hfg =>
      refine List.pairwise_cons.2 ⟨fun k hk => ?_, h⟩
      rcases List.mem_cons.1 hk with rfl | hk
      · exact hfg
      · exact String.lt_trans hfg (hg k hk)
    · next hfg =>
      split
      · exact h
      · next hne =>
        refine List.pairwise_cons.2 ⟨fun k hk => ?_, ih hgs⟩
        rcases mem_place.1 hk with rfl | hk
        · refine String.not_le.1 fun hle => hne ?_
          exact String.le_antisymm hle (String.not_lt.1 hfg)
        · exact hg k hk

/-- The set with one more file. -/
def insert (s : FileSet) (f : String) : FileSet := ⟨place f s.files, ascending_place s.ascending⟩

/-- The set of the files in a list. -/
def ofList (fs : List String) : FileSet := fs.foldr (fun f s => s.insert f) empty

@[simp] theorem mem_ofList {f : String} {fs : List String} : f ∈ (ofList fs).files ↔ f ∈ fs := by
  induction fs with
  | nil => simp [ofList, empty]
  | cons g fs ih =>
    simp only [ofList, List.foldr_cons, insert, mem_place, List.mem_cons] at ih ⊢
    rw [ih]

end FileSet

/-- **Which files carry marks.** -/
structure MarkLedger where
  filesWithMarks : FileSet := .empty
deriving DecidableEq, Inhabited

/-- **What an editor has to do after a run.** -/
structure MarkUpdate where
  /-- The files whose marks are to be taken away first. -/
  clear : List String
  /-- The marks to be shown. -/
  set : List Mark
deriving Repr, DecidableEq, Inhabited

namespace MarkLedger

/-- The ledger after a run with these marks, and what the editor has to do. -/
def update (ledger : MarkLedger) (marks : List Mark) : MarkLedger × MarkUpdate :=
  (⟨.ofList (marks.map (·.file))⟩, ⟨ledger.filesWithMarks.files, marks⟩)

/-- The ledger as an object. -/
def toJson (ledger : MarkLedger) : Json :=
  .object [("files_with_marks", .array (ledger.filesWithMarks.files.map .string))]

/-- Reads a ledger. -/
def ofJson? (j : Json) : Option MarkLedger := do
  let [some files] ← j.record? ["files_with_marks"] | none
  return ⟨.ofList (← Json.list? Json.text? files)⟩

/-- What is written to the file of a ledger. -/
def stored (ledger : MarkLedger) : Text := ledger.toJson.spread 0

/-- The ledger in a file, of which there may be no content. -/
def load (content : Option (List UInt8)) : MarkLedger :=
  (do ofJson? (← Json.read? (← Utf8.decode? (← content)))).getD {}

end MarkLedger

namespace MarkUpdate

/-- The update as an object. -/
def toJson (u : MarkUpdate) : Json :=
  .object [("clear", .array (u.clear.map .string)), ("set", .array (u.set.map Mark.toJson))]

/-- Reads an update. -/
def ofJson? (j : Json) : Option MarkUpdate := do
  let [some clear, some set] ← j.record? ["clear", "set"] | none
  return ⟨← Json.list? Json.text? clear, ← Json.list? Mark.ofJson? set⟩

end MarkUpdate

end TexTranscript
