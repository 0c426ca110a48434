import TexTranscript.Command.Run
import TexTranscript.Proofs.Resumption

/-!
# Past the setup

A run begins with what can fail: the transcript is opened, the directory that the program
is in is found out, and the linker is made. From there on it is a parse, of which the
messages are put out, and updates of a ledger, if there is one. This module says what a run
comes to, and how far it gets, once its settings are known.

The parse is the one of the bytes that the transcript had at first. For latexmk that keeps
watching this is so if the ledger is not kept in the transcript itself: the transcript is
looked at again after every round, and shows the same then (`Arguments.Apart`).

## Main definitions

* `Arguments.effective` – the settings of a run.
* `Arguments.resultWith` – what a run comes to with certain settings.
* `Arguments.Starts` – a run gets past its setup.
* `Arguments.Apart` – the ledger is saved elsewhere than in the transcript.
* `Arguments.markSets` – the marks that the ledger is updated with.

## Main statements

* `Arguments.run_eq_resultWith` – a run is settled by its settings.
* `Arguments.run_of_starts` – a run that gets past its setup.
* `Arguments.parse_of_marksCache` – its parse, and what it does to its ledger.
-/

namespace TexTranscript

/-- A reader whose bytes come all at once reads their lines. -/
theorem LineReader.lines_ofBytes (bytes : List UInt8) :
    LineSource.lines (LineReader.ofBytes bytes) = Line.ofBytes bytes := by
  cases bytes with
  | nil =>
    have hended : Interruption.Delivers (.prematureEnd 0) [] [.bytes []] :=
      ⟨[], [], rfl, ⟨by simp, rfl⟩, ⟨by simp, rfl⟩⟩
    exact Interruption.lines_ofFills hended
  | cons b bytes =>
    exact Interruption.lines_of_bring ⟨by simp [Fill.IsPlain], by simp [Fill.content]⟩

namespace Arguments

variable {a : Arguments} {standardInput bytes : List UInt8} {s : FileStore} {linker : Linker}

/-- The settings of a run among some files: those that it was given, and those of its settings
file. -/
def effective (a : Arguments) (s : FileStore) : Settings :=
  match a.config? with
  | none => a.settings {}
  | some path => a.settings (.load (s.content? path))

/-- The settings are those in the file, if its path leads to one. -/
theorem loadSettings_files (a : Arguments) (standardInput : List UInt8) (s : FileStore) :
    loadSettings (FileStore.files standardInput) a s = (a.effective s, s) := by
  unfold loadSettings effective
  cases a.config? with
  | none => rfl
  | some path => rfl

/-- The bytes of the transcript, if it can be opened. -/
def transcript? (a : Arguments) (standardInput : List UInt8) (s : FileStore) :
    Option (List UInt8) :=
  if a.fromStandardInput then some standardInput else s.opened? a.log

/-- To look at the transcript is to read it, and leaves the store as it is. -/
theorem look_files (a : Arguments) (standardInput : List UInt8) (s : FileStore) :
    look (FileStore.files standardInput) a s = (a.transcript? standardInput s, s) := by
  unfold look transcript?
  cases a.fromStandardInput with
  | true => rfl
  | false => rfl

/-- The working directory is the path of its place, and nothing if it was removed. -/
theorem directory_files (standardInput : List UInt8) (s : FileStore) :
    (FileStore.files standardInput).directory s = (s.directoryPath?, s) := rfl

/-- **What a run comes to with certain settings**, however it came by them. -/
def resultWith (a : Arguments) (standardInput : List UInt8) (settings : Settings) (s : FileStore) :
    Except Failure Finish × FileStore :=
  match a.transcript? standardInput s with
  | none => (.error (.fault (.noTranscript a.log)), s)
  | some bytes =>
    match s.directoryPath? with
    | none => (.error .noDirectory, s)
    | some root =>
      match Linker.named settings.linkScheme.toList with
      | .error fault => (.error (.fault fault), s)
      | .ok linker =>
        let ((r, updates), s') := parse (FileStore.files standardInput) a settings bytes s
        (.ok ⟨settings.format.output (linker.withRoot root) (messages r), updates, r.outcome⟩, s')

/-- **A run is settled by its settings**: beyond them it makes no use of its settings file and of
the flags that come before it. -/
theorem run_eq_resultWith (a : Arguments) (standardInput : List UInt8) (s : FileStore) :
    run (FileStore.files standardInput) a s = a.resultWith standardInput (a.effective s) s := by
  unfold run resultWith
  -- one action after the other, each of which only looks at the store
  dsimp only [bind, StateT.bind]
  rw [loadSettings_files]
  dsimp only
  rw [look_files]
  cases a.transcript? standardInput s with
  | none => rfl
  | some bytes =>
    dsimp only [StateT.bind]
    rw [directory_files]
    cases s.directoryPath? with
    | none => rfl
    | some root =>
      dsimp only
      cases Linker.named (a.effective s).linkScheme.toList with
      | error fault => rfl
      | ok linker => rfl

/-- **A run gets past its setup**: the transcript opens, the path of the directory that the program
is in can be told, and the scheme of the links is accepted. -/
structure Starts (a : Arguments) (standardInput : List UInt8) (s : FileStore)
    (bytes : List UInt8) (linker : Linker) : Prop where
  opens : a.transcript? standardInput s = some bytes
  not_adrift : s.adrift = false
  accepted : Linker.named (a.effective s).linkScheme.toList = .ok linker

/-- **A run that gets past its setup** puts out the messages of its parse and the summary. -/
theorem run_of_starts (h : a.Starts standardInput s bytes linker) :
    run (FileStore.files standardInput) a s =
      let ((r, updates), s') := parse (FileStore.files standardInput) a (a.effective s) bytes s
      (.ok ⟨(a.effective s).format.output (linker.withRoot s.directoryPath) (messages r), updates,
        r.outcome⟩, s') := by
  rw [run_eq_resultWith]
  unfold resultWith
  rw [h.opens, FileStore.directoryPath?_of_not_adrift h.not_adrift, h.accepted]
  rfl

/-! ## What is parsed -/

/-- **The ledger is kept apart** from the transcript: the place where it is saved is another. -/
def Apart (a : Arguments) (s : FileStore) (path : Text) : Prop :=
  a.fromStandardInput = true ∨ s.savedAt? path ≠ s.locate? a.log

/-- **The marks that the ledger is updated with**: those of every round if latexmk keeps
watching, and otherwise those of the report. -/
def markSets (a : Arguments) (r : Report) : List (List Mark) :=
  if a.watching then r.rounds.map (·.marks) else [r.marks]

/-- What a run that keeps watching looks at after every round. -/
def lookAgain (a : Arguments) (standardInput bytes : List UInt8) : StateM FileStore (List UInt8) :=
  if a.fromStandardInput then pure bytes
  else (fun content => content.getD []) <$> (FileStore.files standardInput).transcript a.log

/-- What is looked at again is the same transcript, if the ledger is kept apart. -/
theorem steady_lookAgain {path : Text} (hopens : a.transcript? standardInput s = some bytes)
    (hapart : a.Apart s path) :
    Watch.Steady (a.lookAgain standardInput bytes) path bytes s := by
  unfold transcript? at hopens
  unfold lookAgain
  cases hstdin : a.fromStandardInput with
  | true => exact ⟨rfl, fun _ => rfl⟩
  | false =>
    rw [hstdin] at hopens
    have hne : s.savedAt? path ≠ s.locate? a.log :=
      hapart.resolve_left (by simp [hstdin])
    have looks {t : FileStore} (ht : t.opened? a.log = some bytes) :
        ((fun content => content.getD []) <$> (FileStore.files standardInput).transcript a.log) t
          = (bytes, t) := by
      show ((t.opened? a.log).getD [], t) = (bytes, t)
      rw [ht]
      rfl
    exact ⟨looks hopens, fun _ => looks (FileStore.opened?_save hopens hne)⟩

/-- **What a run reads are the lines of its bytes.** -/
theorem report_eq (a : Arguments) (verbose : Bool) (bytes : List UInt8) :
    a.report verbose bytes =
      if a.watching then parseBuild a.master true verbose (Line.ofBytes bytes)
      else parseTranscript a.tool a.master verbose (Line.ofBytes bytes) := by
  unfold report
  split
  · rw [parseBuild_eq_lines]
    exact congrArg (parseBuild a.master true verbose) (LineReader.lines_ofBytes bytes)
  · rw [parseTranscript_eq_lines]
    exact congrArg (parseTranscript a.tool a.master verbose) (LineReader.lines_ofBytes bytes)

/-- The parse of a run without a ledger. -/
theorem parse_of_none {settings : Settings} (hcache : settings.marksCache = none)
    (a : Arguments) (standardInput bytes : List UInt8) (s : FileStore) :
    parse (FileStore.files standardInput) a settings bytes s
      = ((a.report settings.verbose bytes, []), s) := by
  unfold parse
  rw [hcache]
  rfl

/-- The parse of a run whose ledger is updated once. -/
theorem parse_of_not_watching {settings : Settings} {cache : String}
    (hcache : settings.marksCache = some cache) (hw : a.watching = false) :
    parse (FileStore.files standardInput) a settings bytes s
      = let ledger := MarkLedger.load (s.content? cache.toList)
        let r := a.report settings.verbose bytes
        ((r, ledger.updates (a.markSets r)), ledger.savedAll s cache.toList (a.markSets r)) := by
  unfold parse markSets
  rw [hcache]
  dsimp only [Option.map_some]
  rw [hw]
  rfl

/-- The parse of a run whose ledger is updated after every round. -/
theorem parse_of_watching {settings : Settings} {cache : String}
    (hcache : settings.marksCache = some cache) (hw : a.watching = true) :
    parse (FileStore.files standardInput) a settings bytes s
      = let ((w, updates), s') := Watch.run (FileStore.files standardInput)
          (a.lookAgain standardInput bytes) cache.toList a.master settings.verbose
          (max bytes.length fileLimit) (.load (s.content? cache.toList)) (.start a.master) s
        ((w.report, updates), s') := by
  unfold parse
  rw [hcache]
  dsimp only [Option.map_some]
  rw [hw]
  rfl

/-- **The parse of a run, and what it does to its ledger**, which is loaded first. It is updated
round by round where latexmk is watched, and once where it is not. -/
theorem parse_of_marksCache {settings : Settings} {cache : String}
    (hcache : settings.marksCache = some cache)
    (hopens : a.transcript? standardInput s = some bytes) (hapart : a.Apart s cache.toList) :
    parse (FileStore.files standardInput) a settings bytes s
      = let ledger := MarkLedger.load (s.content? cache.toList)
        let r := a.report settings.verbose bytes
        ((r, ledger.updates (a.markSets r)), ledger.savedAll s cache.toList (a.markSets r)) := by
  cases hw : a.watching with
  | false => exact parse_of_not_watching hcache hw
  | true =>
    have hfuel := Watch.length_sets_start_lt a.master settings.verbose
      (Nat.le_max_left bytes.length fileLimit)
      (Nat.lt_of_lt_of_le (by decide : 0 < fileLimit) (Nat.le_max_right _ _))
    obtain ⟨w, hw', hrun⟩ := Watch.run_eq standardInput (MarkLedger.load (s.content? cache.toList))
      (steady_lookAgain hopens hapart) hfuel
    have hreport : w.report = a.report settings.verbose bytes := by
      unfold Watch.report
      rw [hw', Watch.last_start, report_eq, if_pos hw]
      rfl
    have hsets : (Watch.start a.master).sets a.master settings.verbose bytes
        = a.markSets (a.report settings.verbose bytes) := by
      rw [← hreport, markSets, if_pos hw]
      unfold Watch.sets Watch.report
      rw [hw']
      rfl
    rw [parse_of_watching hcache hw, hrun, hsets]
    dsimp only
    rw [hreport]

end Arguments

end TexTranscript
