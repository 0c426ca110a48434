import TexTranscript.Link.Linker
import TexTranscript.Tool

/-!
# Faults

Parsing never fails. What can fail is what comes before it: a tool must be one of
the seven, the links must begin with a scheme, and the transcript must be there. A run
can also fail without any fault in what it was given, if the path of the directory that
it is in cannot be told.

## Main definitions

* `Fault`, `Fault.message` – what can be wrong, and its wording.
* `Failure`, `Failure.message` – why a run fails, and its wording.
* `Tool.named`, `Linker.named` – tools and linkers, or the fault.
-/

namespace TexTranscript

/-- **Why nothing was parsed.** -/
inductive Fault where
  | unknownTool (name : Text)
  | linkScheme (scheme : Text) (reason : Refusal)
  | noTranscript (path : Text)
deriving Repr, DecidableEq, Inhabited

/-- The wording of a fault. -/
def Fault.message : Fault → Text
  | unknownTool name => "unknown tool `".toList ++ name ++ "`".toList
  | linkScheme scheme reason =>
    "invalid link scheme `".toList ++ scheme ++ "`: ".toList ++ reason.message.toList
  | noTranscript path => "Failed to open ".toList ++ path

/-- **Why a run fails**: there is a fault in what it was given, or the path of the
directory that it is in cannot be told. -/
inductive Failure where
  | fault (f : Fault)
  | noDirectory
deriving Repr, DecidableEq, Inhabited

/-- The wording of a failure. -/
def Failure.message : Failure → Text
  | fault f => f.message
  | noDirectory => "Failed to resolve working directory".toList

/-- The tool that goes by a name. -/
def Tool.named (name : Text) : Except Fault Tool :=
  match Tool.ofName? (String.ofList name) with
  | some tool => .ok tool
  | none => .error (.unknownTool name)

/-- The linker of a scheme. -/
def Linker.named (scheme : Text) : Except Fault Linker :=
  match Linker.ofScheme scheme with
  | .ok linker => .ok linker
  | .error reason => .error (.linkScheme scheme reason)

end TexTranscript
