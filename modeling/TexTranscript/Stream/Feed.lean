import TexTranscript.Stream.Statement

/-!
# Files that change while they are read

A file is fetched block by block, the next block only when nothing of the last one is
left. If the file is written in the meantime, what was fetched before is still read, and
the next block is fetched from where the last one ended, whatever is there now. A reader
that has once met the end reads nothing any more.

As long as the file stays as it is, none of this can be seen (`Feed.unread_advance`).

## Main definitions

* `Feed` – how far a file has been read.
* `Feed.unread` – what is left of a file.
* `Feed.advance` – reading on.
-/

namespace TexTranscript

/-- **How far a file has been read.** -/
structure Feed where
  /-- What was fetched and not read yet. -/
  held : List UInt8 := []
  /-- Where in the file the next block begins. -/
  fetched : Nat := 0
  /-- The end was met. -/
  ended : Bool := false
deriving Repr, DecidableEq

namespace Feed

/-- How many bytes are fetched at a time. -/
def blockSize : Nat := 8192

/-- **What is left of a file** with a certain content. -/
def unread (f : Feed) (content : List UInt8) : List UInt8 :=
  if f.ended then [] else f.held ++ content.drop f.fetched

/-- Where the last block ends that is needed for some more bytes. -/
def blockEnd (f : Feed) (content : List UInt8) (more : Nat) : Nat :=
  min content.length (f.fetched + (more + blockSize - 1) / blockSize * blockSize)

/-- **Reads on**, by a number of bytes. -/
def advance (f : Feed) (content : List UInt8) (n : Nat) : Feed :=
  if n ≤ f.held.length then { f with held := f.held.drop n }
  else
    let fetched := f.blockEnd content (n - f.held.length)
    { f with held := (content.take fetched).drop (f.fetched + (n - f.held.length)), fetched }

/-- The blocks that are fetched hold what is read. -/
theorem le_blockEnd (f : Feed) (content : List UInt8) (more : Nat)
    (h : f.fetched + more ≤ content.length) : f.fetched + more ≤ f.blockEnd content more := by
  have : more ≤ (more + blockSize - 1) / blockSize * blockSize := by
    unfold blockSize
    omega
  unfold blockEnd
  omega

/-- **Reading on drops what was read**, while the file stays as it is. -/
theorem unread_advance {f : Feed} {content : List UInt8} {n : Nat}
    (h : n ≤ (f.unread content).length) :
    (f.advance content n).unread content = (f.unread content).drop n := by
  unfold unread at h ⊢
  unfold advance
  by_cases he : f.ended = true
  · split <;> simp_all
  · simp only [he, Bool.false_eq_true, if_false, List.length_append, List.length_drop] at h ⊢
    split
    · next hn => simp [List.drop_append_of_le_length hn]
    · next hn =>
      have hle := le_blockEnd f content (n - f.held.length) (by omega)
      have hmin : f.blockEnd content (n - f.held.length) ≤ content.length := Nat.min_le_left ..
      simp only [Bool.false_eq_true, if_false]
      rw [List.drop_append, List.drop_eq_nil_of_le (by omega : f.held.length ≤ n),
        List.nil_append, List.drop_drop]
      conv => rhs; rw [← List.take_append_drop (f.blockEnd content (n - f.held.length)) content]
      rw [List.drop_append_of_le_length (by simp; omega)]

/-- Reads the first lines of what is left of a file. The last one may be among those
that are continued: then the end was met. -/
def advanceLines (f : Feed) (content : List UInt8) (count : Nat) : Feed :=
  let lines := (Line.cut (f.unread content)).take count
  let g := f.advance content (lines.flatMap Line.source).length
  let isContinued := lines.getLast?.any (·.dropReturn.continues)
  { g with ended := f.ended || (g.unread content = [] && isContinued) }

end Feed

end TexTranscript
