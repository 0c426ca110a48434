import TexTranscript.Command.Help
import TexTranscript.Command.Run

/-!
# How the program ends

Whoever starts the program sees what it prints and its exit code. A command line that
makes no sense ends it with a hint and a 2, a wish for help with the help and a 0. A
run that fails ends with a 1 and a line that says why; any other prints the updates of
the ledger and its output, and ends with its own exit code.

## Main definitions

* `Ending` – what is seen of the program.
* `Request.carryOut` – carries out a request.
-/

namespace TexTranscript

/-- **What is seen of the program** when it is over. -/
structure Ending where
  exitCode : UInt32
  /-- What is printed on the standard output. -/
  output : Text := []
  /-- The updates on the standard error, one line each. -/
  updates : List MarkUpdate := []
  /-- The line on the standard error that says what is wrong. -/
  complaint? : Option Text := none
deriving DecidableEq

namespace Ending

/-- How a run ends. -/
def ofRun : Except Failure Finish → Ending
  | .error failure => { exitCode := 1, complaint? := some ("Error: ".toList ++ failure.message) }
  | .ok finish =>
    { exitCode := finish.exitCode, output := finish.output, updates := finish.updates }

end Ending

/-- **Carries out a request.** -/
def Request.carryOut {m : Type → Type} [Monad m] (files : Files m) : Request → m Ending
  | .misuse => return {
      exitCode := 2
      complaint? := some "error: the command line makes no sense; try --help".toList }
  | .help topic => return { exitCode := 0, output := topic.text }
  | .parse a => return .ofRun (← a.run files)

end TexTranscript
