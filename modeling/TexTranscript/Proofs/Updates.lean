import TexTranscript.Proofs.Dialects
import TexTranscript.Proofs.Ledger
import TexTranscript.Proofs.Marks
import TexTranscript.Proofs.Setup

/-!
# What a run does to its ledger

A run takes its ledger out of a file, updates it with some marks, and puts it back. It
does so once, with the marks of the report, or once for every round if latexmk keeps
watching, with the marks that there are when the round ends. Then the updates are a
chain: each clears the files of the one before, and the first those of the ledger that
was taken out; and what is found in the file in the end are the files of the last.

The marks of a transcript are the same whether or not its overlooked statements are
echoed. The output has no part in the updates at all. So they depend on nothing but the
transcript, what is known of it, and the ledger.

## Main definitions

* `Arguments.KeepsLedger` – a run gets past its setup and keeps a ledger.
* `MarkUpdate.files` – the files that carry marks after an update.

## Main statements

* `MarkLedger.chain_updates` – each update clears the files of the one before.
* `Arguments.markSets_report` – verbosity makes no difference to the marks.
* `Arguments.run_updates_ledger` – what a run does to its ledger.
-/

namespace TexTranscript

/-! ## Updates in a row -/

/-- **The files that carry marks after an update.** -/
def MarkUpdate.files (u : MarkUpdate) : FileSet := .ofList (u.set.map (·.file))

namespace MarkLedger

/-- Each update sets the marks that the ledger is updated with. -/
theorem map_set_updates (ledger : MarkLedger) (sets : List (List Mark)) :
    (ledger.updates sets).map (·.set) = sets := by
  induction sets generalizing ledger with
  | nil => rfl
  | cons marks rest ih =>
    show marks :: ((ledger.update marks).1.updates rest).map (·.set) = marks :: rest
    rw [ih]

/-- There is no update just if there are no marks to update with. -/
theorem updates_eq_nil_iff {ledger : MarkLedger} {sets : List (List Mark)} :
    ledger.updates sets = [] ↔ sets = [] := by
  rw [← List.map_eq_nil_iff (f := MarkUpdate.set), map_set_updates]

/-- The first update clears the files of the ledger. -/
theorem clear_of_mem_head? {ledger : MarkLedger} {sets : List (List Mark)} {first : MarkUpdate}
    (h : first ∈ (ledger.updates sets).head?) :
    first.clear = ledger.filesWithMarks.files := by
  cases sets with
  | nil => exact nomatch h
  | cons marks rest =>
    obtain rfl := Option.some.inj h
    rfl

/-- **Each update clears the files of the one before.** The induction is on the sets of marks; each
update leaves a ledger of its own files. -/
theorem chain_updates (ledger : MarkLedger) (sets : List (List Mark)) :
    (ledger.updates sets).IsChain fun u u' => u'.clear = u.files.files := by
  induction sets generalizing ledger with
  | nil => exact .nil
  | cons marks rest ih =>
    refine List.isChain_cons.2 ⟨fun u hu => ?_, ih _⟩
    -- what is cleared next are the files of the ledger as it was left
    exact clear_of_mem_head? hu

/-- Files are cleared in their order. -/
theorem ascending_clear {ledger : MarkLedger} {sets : List (List Mark)} {u : MarkUpdate}
    (h : u ∈ ledger.updates sets) : u.clear.Pairwise (· < ·) := by
  induction sets generalizing ledger with
  | nil => exact absurd h List.not_mem_nil
  | cons marks rest ih =>
    rcases List.mem_cons.1 h with rfl | h
    · exact ledger.filesWithMarks.ascending
    · exact ih h

/-- **The ledger in the end** has the files of the last update. -/
theorem afterAll_of_mem_getLast? {ledger : MarkLedger} {sets : List (List Mark)}
    {last : MarkUpdate} (h : last ∈ (ledger.updates sets).getLast?) :
    ledger.afterAll sets = ⟨last.files⟩ := by
  induction sets generalizing ledger with
  | nil => exact nomatch h
  | cons marks rest ih =>
    by_cases hrest : rest = []
    · subst hrest
      obtain rfl := Option.some.inj h
      rfl
    · have hne : (ledger.update marks).1.updates rest ≠ [] := mt updates_eq_nil_iff.1 hrest
      have hlast : last ∈ ((ledger.update marks).1.updates rest).getLast? := by
        rwa [updates, List.getLast?_cons_of_ne_nil hne] at h
      exact ih hlast

/-- **What is found in the file in the end** are the files of the last update, if it can be
saved. -/
theorem content?_savedAll {ledger : MarkLedger} {sets : List (List Mark)} {last : MarkUpdate}
    (hlast : last ∈ (ledger.updates sets).getLast?) {s : FileStore} {path : Text}
    {bytes : List UInt8} (hsaved : (s.save path bytes).2 = true) :
    (ledger.savedAll s path sets).content? path
      = some (Utf8.encode (MarkLedger.mk last.files).stored) := by
  have hne : sets ≠ [] := by
    rintro rfl
    exact nomatch hlast
  rw [FileStore.snd_save] at hsaved
  unfold savedAll
  rw [if_neg hne, afterAll_of_mem_getLast? hlast]
  exact FileStore.content?_save ((FileStore.snd_save ..).trans hsaved)

end MarkLedger

/-! ## Verbosity -/

section

variable {R : Type} [LineSource R]

/-- A verbose parse of latexmk has the marks of a quiet one, also in every round. -/
theorem parseBuild_marks (master : Text) (watching verbose : Bool) (source : R) :
    (parseBuild master watching verbose source).marks
        = (parseBuild master watching false source).marks ∧
      (parseBuild master watching verbose source).rounds
        = (parseBuild master watching false source).rounds :=
  have h := Grammar.Unfoldable.parse_verbose (Build.unfoldable master watching) verbose source
  ⟨congrArg ParseState.marks h.2, congrArg Build.Memory.reports h.1⟩

/-- A verbose parse of any tool has the marks of a quiet one. -/
theorem parseTranscript_marks (tool : Tool) (master : Text) (verbose : Bool) (source : R) :
    (parseTranscript tool master verbose source).marks
      = (parseTranscript tool master false source).marks := by
  by_cases ht : tool = .latexmk
  · subst ht
    exact (parseBuild_marks master false verbose source).1
  · obtain ⟨_, _, g, hg, hreport⟩ := exists_unfoldable ht master
    rw [hreport, hreport]
    exact congrArg ParseState.marks (Grammar.Unfoldable.parse_verbose hg verbose source).2

end

namespace Arguments

variable {a b : Arguments} {standardInput bytes : List UInt8} {s : FileStore} {linker : Linker}
  {cache : String}

/-- **Verbosity makes no difference to the marks** that a ledger is updated with. -/
theorem markSets_report (a : Arguments) (verbose : Bool) (bytes : List UInt8) :
    a.markSets (a.report verbose bytes) = a.markSets (a.report false bytes) := by
  unfold markSets
  rw [report_eq, report_eq]
  by_cases hw : a.watching = true
  · rw [if_pos hw, if_pos hw, if_pos hw, if_pos hw, (parseBuild_marks ..).2]
  · rw [if_neg hw, if_neg hw, if_neg hw, if_neg hw, parseTranscript_marks]

/-- The marks that a ledger is updated with depend on the tool, on whether it is watched, and on the
master document. -/
theorem markSets_congr (htool : b.tool = a.tool) (hwatch : b.watch = a.watch)
    (hmaster : b.master = a.master) (verbose : Bool) (bytes : List UInt8) :
    b.markSets (b.report verbose bytes) = a.markSets (a.report verbose bytes) := by
  have hwatching : b.watching = a.watching := by
    unfold watching
    rw [htool, hwatch]
  unfold markSets report
  rw [hwatching, htool, hmaster]

/-- **While latexmk keeps watching**, a ledger is updated with the marks since the last banner of an
engine, at the end of each round. -/
theorem markSets_of_watching (hw : a.watching = true) (verbose : Bool) (bytes : List UInt8) :
    a.markSets (a.report verbose bytes)
      = (roundsOf (a.report verbose bytes).messages).map engineMarks := by
  have hkeeps : (Build.grammar a.master true).Keeps (Build.Mirrors true) :=
    Build.keeps (Build.mirrors_empty true) Build.Step.mirrors
  obtain ⟨memory, log, h, hlog, hrounds⟩ := parseBuild_keeps hkeeps verbose (Line.ofBytes bytes)
  unfold markSets
  rw [report_eq, if_pos hw, if_pos hw, hlog.messages, hrounds]
  exact h.rounds

/-! ## The ledger of a run -/

/-- **A run gets past its setup and keeps a ledger**, in a file other than the transcript. -/
structure KeepsLedger (a : Arguments) (standardInput : List UInt8) (s : FileStore)
    (bytes : List UInt8) (linker : Linker) (cache : String) : Prop
    extends a.Starts standardInput s bytes linker where
  kept : (a.effective s).marksCache = some cache
  apart : a.Apart s cache.toList

/-- A run that keeps a ledger has the updates of its marks, and leaves the files as they are after
all of them. -/
theorem run_of_keepsLedger (h : a.KeepsLedger standardInput s bytes linker cache) :
    let old := MarkLedger.load (s.content? cache.toList)
    let sets := a.markSets (a.report false bytes)
    ∃ finish, a.run (FileStore.files standardInput) s
        = (.ok finish, old.savedAll s cache.toList sets) ∧
      finish.updates = old.updates sets := by
  intro old sets
  have hrun := run_of_starts h.toStarts
  rw [parse_of_marksCache h.kept h.opens h.apart] at hrun
  dsimp only at hrun
  rw [markSets_report] at hrun
  exact ⟨_, hrun, rfl⟩

/-- **What a run does to its ledger.** There is one update, with the marks of the report, or,
while latexmk keeps watching, one for every round, with the marks that there are when it ends.
The first clears the files of the ledger as it was, each other one those of the update before,
in their order. If nothing is updated nothing is saved; otherwise what is found in the file
afterwards are the files of the last update, if they can be saved. All of this is the same
whatever the output, the links and the verbosity are, and with another run on the same bytes. -/
theorem run_updates_ledger (h : a.KeepsLedger standardInput s bytes linker cache) :
    let old := MarkLedger.load (s.content? cache.toList)
    ∃ finish s', a.run (FileStore.files standardInput) s = (.ok finish, s') ∧
      (a.watching = false → ∀ verbose,
        finish.updates = [⟨old.filesWithMarks.files, (a.report verbose bytes).marks⟩]) ∧
      (a.watching = true → ∀ verbose,
        finish.updates.map (·.set)
          = (roundsOf (a.report verbose bytes).messages).map engineMarks) ∧
      (∀ first ∈ finish.updates.head?, first.clear = old.filesWithMarks.files) ∧
      finish.updates.IsChain (fun u u' => u'.clear = u.files.files) ∧
      (∀ u ∈ finish.updates, u.clear.Pairwise (· < ·)) ∧
      (finish.updates = [] → s' = s) ∧
      (∀ last ∈ finish.updates.getLast?, ∀ stored, (s.save cache.toList stored).2 = true →
        ∃ text, s'.content? cache.toList = some (Utf8.encode text) ∧
          decode MarkLedger.ofJson? text = some ⟨last.files⟩) ∧
      ∀ (b : Arguments) (standardInput' : List UInt8) (t : FileStore) (linker' : Linker)
        (cache' : String), b.KeepsLedger standardInput' t bytes linker' cache' →
        b.tool = a.tool → b.watch = a.watch → b.master = a.master →
        MarkLedger.load (t.content? cache'.toList) = old →
        ∃ finish' t', b.run (FileStore.files standardInput') t = (.ok finish', t') ∧
          finish'.updates = finish.updates ∧ (t = s → cache' = cache → t' = s') := by
  intro old
  obtain ⟨finish, hrun, hupdates⟩ := run_of_keepsLedger h
  refine ⟨finish, _, hrun, ?plain, ?watched, ?first, ?chain, ?ascending, ?unchanged, ?saved,
    ?independent⟩
  -- all that is said of the updates is said of those that a ledger makes of sets of marks
  all_goals rw [hupdates]
  case plain =>
    intro hw verbose
    have hsets : a.markSets (a.report false bytes) = [(a.report verbose bytes).marks] := by
      rw [← markSets_report a verbose, markSets, hw]
      rfl
    rw [hsets]
    rfl
  case watched =>
    intro hw verbose
    rw [MarkLedger.map_set_updates, ← markSets_report a verbose, markSets_of_watching hw]
  case first => exact fun first hfirst => MarkLedger.clear_of_mem_head? hfirst
  case chain => exact MarkLedger.chain_updates _ _
  case ascending => exact fun u hu => MarkLedger.ascending_clear hu
  case unchanged => exact fun hnone => if_pos (MarkLedger.updates_eq_nil_iff.1 hnone)
  case saved =>
    intro last hlast stored hsaved
    exact ⟨_, MarkLedger.content?_savedAll hlast hsaved, MarkLedger.decode_stored _⟩
  case independent =>
    intro b standardInput' t linker' cache' h' htool hwatch hmaster hold
    obtain ⟨finish', hrun', hupdates'⟩ := run_of_keepsLedger h'
    rw [hold, markSets_congr htool hwatch hmaster] at hrun' hupdates'
    refine ⟨finish', _, hrun', hupdates', ?_⟩
    rintro rfl rfl
    rfl

/-- A run on the standard input, with a ledger that is not there yet. -/
theorem run_updates_ledger_missing :
    let a : Arguments := ⟨some .bibtex, none, false, false, some .json,
      some "marks.json".toList, none, none⟩
    a.KeepsLedger [0x61] .empty [0x61] .standard "marks.json" ∧
      ∃ finish s', a.run (FileStore.files [0x61]) .empty = (.ok finish, s') ∧
        finish.updates = [⟨[], (a.report false [0x61]).marks⟩] := by
  intro a
  have h : a.KeepsLedger [0x61] .empty [0x61] .standard "marks.json" :=
    ⟨⟨rfl, rfl, show Linker.named "txmt".toList = _ from rfl⟩, rfl, .inl rfl⟩
  obtain ⟨finish, s', hrun, hplain, -⟩ := run_updates_ledger h
  exact ⟨h, finish, s', hrun, hplain rfl false⟩

end Arguments

end TexTranscript
