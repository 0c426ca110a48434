import TexTranscript.Command.Arguments
import TexTranscript.Command.Settings
import TexTranscript.Command.Watch
import TexTranscript.Fault

/-!
# Running the command

A run reads the settings, opens the transcript, finds out which directory it is in, and
makes the linker. All but the first of these may fail, and then nothing was done. From
there on it cannot fail any more. The transcript is parsed, its messages are put out, and
the ledger of marks, if there is one, is updated and saved – once at the end, or, while
latexmk keeps watching, once for every round.

## Main definitions

* `Finish` – what a run leaves behind, with its exit code.
* `Arguments.run` – a run.
-/

namespace TexTranscript

/-- **What a run leaves behind**, besides a saved ledger. -/
structure Finish where
  /-- What is put out. -/
  output : Text
  /-- What an editor is told to do, in this order. -/
  updates : List MarkUpdate
  outcome : Outcome
deriving DecidableEq

namespace Finish

/-- The exit code: 3 after a fatal error, 2 after errors, 1 after warnings. -/
def exitCode (f : Finish) : UInt32 :=
  if f.outcome.fatal then 3
  else if 0 < f.outcome.errors then 2
  else if 0 < f.outcome.warnings then 1
  else 0

end Finish

namespace Arguments

/-- The settings of a run: arguments come before the settings file. -/
def settings (a : Arguments) (s : Settings) : Settings where
  verbose := s.verbose || a.verbose
  linkScheme := s.linkScheme
  format := a.format?.getD s.format
  marksCache := (a.marks?.map String.ofList).or s.marksCache

/-- Latexmk keeps watching. Nothing else can be watched. -/
def watching (a : Arguments) : Bool := a.watch && a.tool = .latexmk

/-- The parse of the transcript. -/
def report (a : Arguments) (verbose : Bool) (bytes : List UInt8) : Report :=
  let reader := LineReader.ofBytes bytes
  if a.watching then parseBuild a.master true verbose reader
  else parseTranscript a.tool a.master verbose reader

/-- The messages of a run: those of the parse, and the summary. -/
def messages (r : Report) : List Message := r.messages ++ [.summary r.outcome r.runs]

variable {m : Type → Type} [Monad m]

/-- The settings file of a run, as settings. -/
def loadSettings (files : Files m) (a : Arguments) : m Settings := do
  match a.config? with
  | none => return a.settings {}
  | some path => return a.settings (.load (← files.content path))

/-- The bytes of the transcript of a run, as far as they can be read, if it can be
opened. -/
def look (files : Files m) (a : Arguments) : m (Option (List UInt8)) := do
  if a.fromStandardInput then return some (← files.standardInput) else files.transcript a.log

/-- Updates a ledger once and saves it. -/
def publish (files : Files m) (path : Text) (ledger : MarkLedger) (marks : List Mark) :
    m (List MarkUpdate) := do
  let (ledger, update) := ledger.update marks
  files.save path (Utf8.encode ledger.stored)
  return [update]

/-- The most bytes that a file can have. A transcript has fewer rounds. -/
def fileLimit : Nat := 1 <<< 63 - 1

/-- Parses the transcript of a run, which begins with some bytes, and updates the ledger,
if there is one. -/
def parse (files : Files m) (a : Arguments) (s : Settings) (bytes : List UInt8) :
    m (Report × List MarkUpdate) := do
  match s.marksCache.map String.toList with
  | none => return (a.report s.verbose bytes, [])
  | some path =>
    let ledger : MarkLedger := .load (← files.content path)
    if a.watching then
      let look := if a.fromStandardInput then pure bytes
        else (fun content => content.getD []) <$> files.transcript a.log
      let (w, updates) ← Watch.run files look path a.master s.verbose
        (max bytes.length fileLimit) ledger (.start a.master)
      return (w.report, updates)
    else
      let r := a.report s.verbose bytes
      return (r, ← publish files path ledger r.marks)

/-- **A run.** -/
def run (files : Files m) (a : Arguments) : m (Except Failure Finish) := do
  let settings ← loadSettings files a
  match ← look files a with
  | none => return .error (.fault (.noTranscript a.log))
  | some bytes =>
    match ← files.directory with
    | none => return .error .noDirectory
    | some root =>
      match Linker.named settings.linkScheme.toList with
      | .error fault => return .error (.fault fault)
      | .ok linker =>
        let (r, updates) ← parse files a settings bytes
        return .ok ⟨settings.format.output (linker.withRoot root) (messages r), updates, r.outcome⟩

end Arguments

end TexTranscript
