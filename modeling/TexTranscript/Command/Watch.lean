import TexTranscript.Command.Files
import TexTranscript.Gutter
import TexTranscript.Report
import TexTranscript.Stream.Feed

/-!
# Watching

While latexmk keeps watching, the ledger of marks is saved after every round. It may be
saved into the very file that the transcript is read from; so the parse is carried out
round by round, and the transcript is looked at again after each. What comes after the
last round is parsed as well, but nothing is saved any more.

## Main definitions

* `Watch` – a watched parse between two rounds; `Watch.resume`, the parse of one more.
* `Watch.run` – the rounds of a transcript, with the mark updates.
-/

namespace TexTranscript

/-- **A watched parse** between two rounds. -/
structure Watch where
  position : Grammar.Position (List Line) Build.Memory
  feed : Feed := {}

namespace Watch

/-- A watched parse that has read nothing. -/
def start (master : Text) : Watch := ⟨(Build.grammar master true).begin [], {}⟩

/-- How many rounds there were. -/
def rounds (w : Watch) : Nat := w.position.memory.reports.length

/-- Resumes a parse until one more round is over or nothing is left of the transcript,
which now has a certain content. -/
def resume (master : Text) (verbose : Bool) (content : List UInt8) (w : Watch) : Watch :=
  let lines := Line.ofBytes (w.feed.unread content)
  let p := (Build.grammar master true).consumeUntil verbose
    (fun q => decide (w.rounds < q.memory.reports.length)) (w.position.withUnread lines)
  ⟨p, w.feed.advanceLines content (lines.length - p.scope.unread.length)⟩

/-- The report of a parse that is over. -/
def report (w : Watch) : Report :=
  { Report.ofScope w.position.scope w.position.memory.runs with
    rounds := w.position.memory.reports }

/-- The marks of the last round. -/
def marks (w : Watch) : List Mark := (w.position.memory.reports.getLast?.map (·.marks)).getD []

variable {m : Type → Type} [Monad m]

/-- **The rounds of a transcript**, which is looked at by an action and has at most a
number of rounds. After each, the ledger is updated and saved. -/
def run (files : Files m) (look : m (List UInt8)) (ledgerPath : Text) (master : Text)
    (verbose : Bool) : Nat → MarkLedger → Watch → m (Watch × List MarkUpdate)
  | 0, _, w => return (w, [])
  | n + 1, ledger, w => do
    let next := w.resume master verbose (← look)
    if next.rounds = w.rounds then return (next, [])
    else
      let (ledger, update) := ledger.update next.marks
      files.save ledgerPath (Utf8.encode ledger.stored)
      let (last, updates) ← run files look ledgerPath master verbose n ledger next
      return (last, update :: updates)

end Watch

end TexTranscript
