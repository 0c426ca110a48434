import TexTranscript.FileStore

/-!
# What a run needs of the world

A run reads files and the standard input, and it writes a ledger. What else there is in
the world is out of its reach. The world can be the real one, or a `FileStore`, on which
a run is a computation like any other.

## Main definitions

* `Files` – what a run needs of the world, in some monad.
* `FileStore.files` – a store as a world.
-/

namespace TexTranscript

/-- **What a run needs of the world.** -/
structure Files (m : Type → Type) where
  /-- The content of a file, if it can be read. -/
  content : Text → m (Option (List UInt8))
  /-- The bytes of a transcript, as far as they can be read, if it can be opened. -/
  transcript : Text → m (Option (List UInt8))
  standardInput : m (List UInt8)
  /-- The path of the directory that the program is in, if it can be told. Relative paths
  in messages are seen from there. -/
  directory : m (Option Text)
  /-- Writes a file and the directories above it, as well as it can. -/
  save : Text → List UInt8 → m Unit

/-- A store as the world of a run, with some bytes on the standard input. -/
def FileStore.files (standardInput : List UInt8) : Files (StateM FileStore) where
  content path := return (← get).content? path
  transcript path := return (← get).opened? path
  standardInput := return standardInput
  directory := return (← get).directoryPath?
  save path bytes := modify fun s => (s.save path bytes).1

end TexTranscript
