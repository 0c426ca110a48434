import TexTranscript.Stream.Reader

/-!
# Interrupted transcripts

A transcript may be cut short while it is read: a read fails, or it reports the
end although more was to come. This module says how the bytes of such a
transcript come, and which lines a reader sees of it.

* After a **failure** the line that was being read is lost and nothing more is
  read, so the lines are those that were complete before.
* After a **premature end** between two lines nothing more is read. Within a
  line, the part that was read counts as an unterminated line, and reading
  goes on behind it – nothing tells a reader that it had met an end.

## Main definitions

* `Interruption` – how a transcript is interrupted.
* `Interruption.Delivers` – some fills are an interrupted transcript.
* `Interruption.reader` – a reader of an interrupted transcript.
* `Interruption.lines` – the lines that a reader sees.
-/

namespace TexTranscript

/-- The fill brings bytes, or at least neither fails nor reports the end. -/
def Fill.IsPlain : Fill → Prop
  | bytes chunk => chunk ≠ []
  | interrupted => True
  | failed => False

instance (f : Fill) : Decidable f.IsPlain :=
  match f with
  | .bytes chunk => inferInstanceAs (Decidable (chunk ≠ []))
  | .interrupted => inferInstanceAs (Decidable True)
  | .failed => inferInstanceAs (Decidable False)

/-- **The fills bring the bytes**, in whatever pieces. -/
def Fill.Bring (fills : List Fill) (bytes : List UInt8) : Prop :=
  (∀ f ∈ fills, f.IsPlain) ∧ fills.flatMap content = bytes

instance (fills : List Fill) (bytes : List UInt8) : Decidable (Fill.Bring fills bytes) :=
  inferInstanceAs (Decidable (_ ∧ _))

/-- The bytes, so many of them at a time. -/
def Fill.pieces (capacity : Nat) (bytes : List UInt8) : List Fill :=
  if _h : bytes = [] then []
  else .bytes (bytes.take (capacity + 1)) :: pieces capacity (bytes.drop (capacity + 1))
termination_by bytes.length
decreasing_by
  have := List.length_pos_iff.2 _h
  rw [List.length_drop]
  omega

theorem Fill.bring_pieces (capacity : Nat) (bytes : List UInt8) :
    Bring (pieces capacity bytes) bytes := by
  fun_induction pieces capacity bytes with
  | case1 => exact ⟨by simp, rfl⟩
  | case2 bytes h ih =>
    refine ⟨fun f hf => ?_, ?_⟩
    · rcases List.mem_cons.1 hf with rfl | hf
      · show bytes.take (capacity + 1) ≠ []
        simpa using h
      · exact ih.1 f hf
    · rw [List.flatMap_cons, ih.2]
      exact List.take_append_drop ..

/-- How the reading of a transcript is interrupted, and after how many bytes. -/
inductive Interruption where
  | never
  /-- The read at this offset fails. -/
  | failure (offset : Nat)
  /-- The read at this offset reports the end of the transcript, once. -/
  | prematureEnd (offset : Nat)
deriving Repr, DecidableEq

namespace Interruption

/-- **The fills are the transcript**, interrupted in this way. -/
def Delivers : Interruption → List UInt8 → List Fill → Prop
  | never, bytes, fills => Fill.Bring fills bytes
  | failure n, bytes, fills =>
    ∃ before after, fills = before ++ .failed :: after ∧
      Fill.Bring before (bytes.take n) ∧ Fill.Bring after (bytes.drop n)
  | prematureEnd n, bytes, fills =>
    ∃ before after, fills = before ++ .bytes [] :: after ∧
      Fill.Bring before (bytes.take n) ∧ Fill.Bring after (bytes.drop n)

/-- The transcript as it comes, so many bytes at a time. -/
def fills (capacity : Nat) : Interruption → List UInt8 → List Fill
  | never, bytes => Fill.pieces capacity bytes
  | failure n, bytes =>
    Fill.pieces capacity (bytes.take n) ++ .failed :: Fill.pieces capacity (bytes.drop n)
  | prematureEnd n, bytes =>
    Fill.pieces capacity (bytes.take n) ++ .bytes [] :: Fill.pieces capacity (bytes.drop n)

theorem delivers_fills (how : Interruption) (capacity : Nat) (bytes : List UInt8) :
    how.Delivers bytes (how.fills capacity bytes) := by
  cases how with
  | never => exact Fill.bring_pieces ..
  | failure n => exact ⟨_, _, rfl, Fill.bring_pieces .., Fill.bring_pieces ..⟩
  | prematureEnd n => exact ⟨_, _, rfl, Fill.bring_pieces .., Fill.bring_pieces ..⟩

/-- A reader of the transcript, which is given so many bytes at a time. -/
def reader (how : Interruption) (capacity : Nat) (bytes : List UInt8) : LineReader :=
  .ofFills (how.fills capacity bytes)

/-- The bytes stop in the middle of a line. -/
def midLine (bytes : List UInt8) : Bool := bytes.getLast?.any (· != lineFeed)

/-- The lines that a reader sees of an interrupted transcript. -/
def lines : Interruption → List UInt8 → List Line
  | never, bytes => Line.ofBytes bytes
  | failure n, bytes => (Line.ofBytes (bytes.take n)).filter (·.terminated)
  | prematureEnd n, bytes =>
    Line.ofBytes (bytes.take n) ++
      if midLine (bytes.take n) then Line.ofBytes (bytes.drop n) else []

end Interruption

end TexTranscript
