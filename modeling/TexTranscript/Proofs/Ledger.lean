import TexTranscript.Proofs.Encoding
import TexTranscript.Proofs.RoundTrip
import TexTranscript.Proofs.Saving

/-!
# The gutter shows the last run

An editor does what the updates of a ledger tell it: it takes away the marks of some
files, and puts new ones. It does not look at the marks that it shows. That they are
those of the last run and no others is the merit of the ledger, which knows the files
that carry marks – also after it has been put away in a file and taken from there again,
as happens between two runs.

## Main definitions

* `MarkUpdate.apply` – an editor does what an update says.
* `Gutter`, `Gutter.Reachable` – a ledger and an editor, and what they can come to.

## Main statements

* `MarkLedger.load_stored` – a ledger is loaded as it was.
* `Gutter.shows_latest` – the editor shows the marks of the last run.
-/

namespace TexTranscript

/-! ## Ledgers -/

/-- A ledger is read back from what is written to its file. -/
theorem MarkLedger.decode_stored (ledger : MarkLedger) :
    decode MarkLedger.ofJson? ledger.stored = some ledger := by
  show (Json.read? (ledger.toJson.spread 0)).bind ofJson? = some ledger
  rw [Json.read?_spread 0 ledger.fits]
  exact ledger.reads _ (Json.Reordered.refl _)

/-- **A ledger is loaded as it was** when it was put into the file. What is written is valid text,
and the text is that of a document from which the same ledger is read. -/
theorem MarkLedger.load_stored (ledger : MarkLedger) :
    MarkLedger.load (some (Utf8.encode ledger.stored)) = ledger := by
  show (do ofJson? (← Json.read? (← Utf8.decode? (Utf8.encode ledger.stored)))).getD {} = ledger
  rw [Utf8.decode?_encode]
  show (decode MarkLedger.ofJson? ledger.stored).getD {} = ledger
  rw [ledger.decode_stored]
  rfl

/-- Files of a ledger are in the order of their bytes. -/
theorem FileSet.ascending_bytes (s : FileSet) :
    s.files.Pairwise fun f g => Utf8.encode f.toList < Utf8.encode g.toList :=
  s.ascending.imp fun h => Utf8.encode_lt_encode (String.lt_iff.1 h)

/-- No file is in a set twice. -/
theorem FileSet.nodup (s : FileSet) : s.files.Nodup := s.ascending.imp fun h => String.ne_of_lt h

/-! ## Editors -/

/-- **An editor does what an update says**: it takes away the marks of the files to be
cleared, and puts the new ones behind the others. -/
def MarkUpdate.apply (u : MarkUpdate) (shown : List Mark) : List Mark :=
  shown.filter (fun m => m.file ∉ u.clear) ++ u.set

/-- **A ledger and an editor.** -/
structure Gutter where
  ledger : MarkLedger
  /-- The marks that the editor shows. -/
  shown : List Mark
  /-- The marks of the last run. -/
  latest : List Mark

namespace Gutter

/-- Nothing is shown at first, and no file is known to carry marks. -/
def start : Gutter := ⟨{}, [], []⟩

/-- A run with some marks: the ledger is updated, and the editor follows. -/
def afterRun (g : Gutter) (marks : List Mark) : Gutter :=
  ⟨(g.ledger.update marks).1, (g.ledger.update marks).2.apply g.shown, marks⟩

/-- The ledger is saved among some files, and loaded from there. -/
def reloaded (g : Gutter) (files : FileStore) (path : Text) : Gutter :=
  { g with
    ledger := .load ((files.save path (Utf8.encode g.ledger.stored)).1.content? path) }

/-- **What a ledger and an editor can come to.** Between two runs the ledger can be put away
any number of times, among any files, if only it can be saved there. -/
inductive Reachable : Gutter → Prop
  | start : Reachable start
  | run {g : Gutter} (h : Reachable g) (marks : List Mark) : Reachable (g.afterRun marks)
  | reload {g : Gutter} (h : Reachable g) (files : FileStore) (path : Text)
      (hsaved : (files.save path (Utf8.encode g.ledger.stored)).2 = true) :
      Reachable (g.reloaded files path)

/-- The editor shows the marks of the last run, and the ledger knows their files. -/
structure IsExact (g : Gutter) : Prop where
  shown : g.shown = g.latest
  files : ∀ f, f ∈ g.ledger.filesWithMarks.files ↔ ∃ m ∈ g.shown, m.file = f

/-- At first nothing is shown, and no file is known. -/
theorem isExact_start : IsExact start where
  shown := rfl
  files _ := ⟨fun h => absurd h List.not_mem_nil, fun ⟨_, h, _⟩ => absurd h List.not_mem_nil⟩

/-- A run leaves no old mark, for the ledger knows the files of all of them. So what is taken away
is everything, and what is put is what is shown. -/
theorem IsExact.afterRun {g : Gutter} (h : g.IsExact) (marks : List Mark) :
    (g.afterRun marks).IsExact := by
  have hold : g.shown.filter (fun m => m.file ∉ g.ledger.filesWithMarks.files) = [] := by
    refine List.filter_eq_nil_iff.2 fun m hm hnot => ?_
    exact of_decide_eq_true hnot ((h.files m.file).2 ⟨m, hm, rfl⟩)
  have hshown : (g.afterRun marks).shown = marks := by
    show g.shown.filter (fun m => m.file ∉ g.ledger.filesWithMarks.files) ++ marks = marks
    rw [hold, List.nil_append]
  refine ⟨hshown, fun f => ?_⟩
  rw [hshown]
  exact FileSet.mem_ofList.trans List.mem_map

/-- To put a ledger away and to load it again changes nothing. -/
theorem reloaded_eq {g : Gutter} {files : FileStore} {path : Text}
    (hsaved : (files.save path (Utf8.encode g.ledger.stored)).2 = true) :
    g.reloaded files path = g := by
  unfold reloaded
  rw [FileStore.content?_save hsaved, MarkLedger.load_stored]

/-- Whatever a ledger and an editor can come to is exact. -/
theorem Reachable.isExact {g : Gutter} (h : g.Reachable) : g.IsExact := by
  induction h with
  | start => exact isExact_start
  | run _ marks ih => exact ih.afterRun marks
  | reload _ files path hsaved ih =>
    rw [reloaded_eq hsaved]
    exact ih

/-- **The editor shows the marks of the last run**, and the ledger knows the files that carry them.
These are the ones that the next update clears, each once and in the order of their bytes. All of
this is exactness, but for the order of the files, which the ledger has by its type. -/
theorem shows_latest {g : Gutter} (h : g.Reachable) :
    g.shown = g.latest ∧
    (∀ f, f ∈ g.ledger.filesWithMarks.files ↔ ∃ m ∈ g.shown, m.file = f) ∧
    ∀ marks, (g.ledger.update marks).2.clear = g.ledger.filesWithMarks.files ∧
      (g.ledger.update marks).2.clear.Pairwise
        (fun f f' => Utf8.encode f.toList < Utf8.encode f'.toList) ∧
      (g.ledger.update marks).2.clear.Nodup := by
  refine ⟨h.isExact.shown, h.isExact.files, fun marks => ⟨rfl, ?_, ?_⟩⟩
  · exact g.ledger.filesWithMarks.ascending_bytes
  · exact g.ledger.filesWithMarks.nodup

/-- A ledger that is put away between two runs, the second of which has no marks. -/
theorem shows_latest_reloaded :
    let marks := [⟨"main.tex", 4, .error, "Undefined control sequence."⟩]
    ((start.afterRun marks).reloaded .empty "marks.json".toList).shown = marks ∧
    (((start.afterRun marks).reloaded .empty "marks.json".toList).afterRun []).shown = [] := by
  have hreloaded := Reachable.reload
    (.run .start [⟨"main.tex", 4, .error, "Undefined control sequence."⟩])
    .empty "marks.json".toList (by rfl)
  exact ⟨(shows_latest hreloaded).1, (shows_latest (.run hreloaded [])).1⟩

end Gutter

end TexTranscript
