import Mathlib.Order.Bounds.Defs
import TexTranscript.Proofs.Reading

/-!
# Statements regroup lines

A reader can be asked for a physical line or for a statement, in any order. Both
consume the same lines, in order and each exactly once; a statement only takes
several of them at a time. How many is said without the reader: it takes the
fewest that end with a line that is not broken off, or that are all there are
(`Statement.CanEnd`).

`LineReader.Regroups` is this description of a whole run of calls. It does not
know of bytes that come in pieces, of buffers and of the flag for the end; that
every run of the reader is described by it is `LineReader.answers_regroup`.

## Main definitions

* `LineReader.Call`, `LineReader.answers` – runs of calls of a reader.
* `LineReader.Regroups` – what a run of calls answers, said of the lines.

## Main statements

* `LineReader.regrouping` – the calls of a reader regroup the lines between the
  line feeds.
-/

namespace TexTranscript

/-! ## How far a statement goes -/

/-- **A line is broken off** when a line feed ended it after seventy-nine bytes, the last
of which does not end a sentence. -/
def Line.BrokenOff (l : Line) : Prop :=
  l.terminated = true ∧ l.bytes.length = 79 ∧
    ∀ last, l.bytes.getLast? = some last → last ≠ '.'.toUInt8 ∧ last ≠ '!'.toUInt8

/-- A line is continued by the next one just if it is broken off. -/
theorem Line.continues_iff (l : Line) : l.continues = true ↔ l.BrokenOff := by
  unfold continues BrokenOff
  rw [Bool.and_eq_true, Bool.and_eq_true, beq_iff_eq, and_assoc]
  refine and_congr_right fun _ => and_congr_right fun _ => ?_
  show _ ↔ ∀ last, l.bytes.getLast? = some last → last ≠ 0x2E ∧ last ≠ 0x21
  cases l.bytes.getLast? with
  | none => simp
  | some last => simp [sentenceEnds]

namespace Statement

/-- **A statement can end** with the `k`-th of some lines: it is not broken off, or it is
the last. -/
def CanEnd (ls : List Line) (k : Nat) : Prop :=
  1 ≤ k ∧ ∃ l, ls[k - 1]? = some l ∧ (¬ l.BrokenOff ∨ k = ls.length)

/-- One line in front that is broken off puts the end one line further. -/
theorem canEnd_cons_iff {l m : Line} {ls : List Line} (h : l.BrokenOff) {k : Nat} :
    CanEnd (l :: m :: ls) k ↔ 2 ≤ k ∧ CanEnd (m :: ls) (k - 1) := by
  match k with
  | 0 => simp [CanEnd]
  | 1 => simp [CanEnd, h]
  | k + 2 => simp [CanEnd]

/-- **A statement takes the fewest lines** with which it can end, since it goes on only where it
cannot. -/
theorem gather_eq (l : Line) (ls : List Line) :
    ∃ k, IsLeast {k | CanEnd (l :: ls) k} k ∧
      gather l ls = (((l :: ls).take k).flatMap Line.bytes, (l :: ls).drop k) := by
  induction ls generalizing l with
  | nil =>
    refine ⟨1, ⟨⟨Nat.le_refl 1, l, rfl, Or.inr rfl⟩, fun k hk => hk.1⟩, ?_⟩
    simp [gather]
  | cons m ls ih =>
    rw [gather]
    by_cases h : l.BrokenOff
    · obtain ⟨k, ⟨hk, hleast⟩, hg⟩ := ih m
      have hk₁ : 1 ≤ k := hk.1
      refine ⟨k + 1, ⟨?_, fun j hj => ?_⟩, ?_⟩
      · exact (canEnd_cons_iff h).2 ⟨by omega, hk⟩
      · obtain ⟨hj₂, hj⟩ := (canEnd_cons_iff h).1 hj
        have := hleast hj
        omega
      · rw [if_pos (l.continues_iff.2 h), hg]
        rfl
    · refine ⟨1, ⟨⟨Nat.le_refl 1, l, rfl, Or.inl h⟩, fun k hk => hk.1⟩, ?_⟩
      rw [if_neg (mt l.continues_iff.1 h)]
      simp

end Statement

namespace LineReader

/-! ## Runs of calls -/

/-- What can be asked of a reader. -/
inductive Call where
  | statement
  | line
deriving Repr, DecidableEq

/-- The answer to a call, and the reader after it. -/
def answer (r : LineReader) : Call → Option Text × LineReader
  | .statement => r.nextStatement
  | .line => r.nextLine

/-- The answers to calls, one after the other, and the reader after them. -/
def answers : List Call → LineReader → List (Option Text) × LineReader
  | [], r => ([], r)
  | call :: calls, r =>
    ((r.answer call).1 :: (answers calls (r.answer call).2).1, (answers calls (r.answer call).2).2)

/-- **What calls answer**, said of the lines: those there are, the calls, their answers, and
the lines that are left. -/
inductive Regroups : List Line → List Call → List (Option Text) → List Line → Prop
  | nothing (ls : List Line) : Regroups ls [] [] ls
  /-- A line is answered as it stands. -/
  | line {l : Line} {ls left : List Line} {calls : List Call} {texts : List (Option Text)}
      (rest : Regroups ls calls texts left) :
      Regroups (l :: ls) (.line :: calls) (some l.text :: texts) left
  /-- A statement is decoded from the bytes of the fewest lines with which it can end. -/
  | statement {k : Nat} {ls left : List Line} {calls : List Call} {texts : List (Option Text)}
      (least : IsLeast {k | Statement.CanEnd ls k} k)
      (rest : Regroups (ls.drop k) calls texts left) :
      Regroups ls (.statement :: calls)
        (some (Utf8.decodeLossy ((ls.take k).flatMap Line.bytes)) :: texts) left
  /-- Where no line is left there is no answer. -/
  | spent {call : Call} {left : List Line} {calls : List Call} {texts : List (Option Text)}
      (rest : Regroups [] calls texts left) : Regroups [] (call :: calls) (none :: texts) left

/-- **Every run of a reader regroups its lines**, since each call takes those that it answers off
the front. -/
theorem answers_regroup (calls : List Call) (r : LineReader) :
    Regroups r.lines calls (r.answers calls).1 (r.answers calls).2.lines := by
  induction calls generalizing r with
  | nil => exact .nothing r.lines
  | cons call calls ih =>
    have rest := ih (r.answer call).2
    have hl := lines_nextLine r
    have hs := lines_nextStatement r
    show Regroups _ _ ((r.answer call).1 :: _) _
    generalize hls : r.lines = ls at hl hs
    cases ls with
    | nil =>
      have hnone : (r.answer call).1 = none ∧ (r.answer call).2.lines = [] := by
        cases call with
        | statement => exact Prod.ext_iff.1 hs
        | line => exact Prod.ext_iff.1 hl
      rw [hnone.2] at rest
      rw [hnone.1]
      exact .spent rest
    | cons l ls =>
      cases call with
      | line =>
        obtain ⟨ha, hr⟩ := Prod.ext_iff.1 hl
        have hr' : (r.answer .line).2.lines = ls := hr
        have ha' : (r.answer .line).1 = some l.text := ha
        rw [hr'] at rest
        rw [ha']
        exact .line rest
      | statement =>
        -- the lines of a statement are the fewest with which it can end
        obtain ⟨k, hk, hg⟩ := Statement.gather_eq l ls
        obtain ⟨ha, hr⟩ := Prod.ext_iff.1 hs
        have hr' : (r.answer .statement).2.lines = (l :: ls).drop k :=
          hr.trans (congrArg Prod.snd hg)
        have ha' : (r.answer .statement).1
            = some (Utf8.decodeLossy (((l :: ls).take k).flatMap Line.bytes)) :=
          ha.trans (congrArg (fun g : List UInt8 × List Line => some (Utf8.decodeLossy g.1)) hg)
        rw [hr'] at rest
        rw [ha']
        exact .statement hk rest

namespace Regroups

variable {ls left : List Line} {calls : List Call} {texts : List (Option Text)}

/-- Where no line is left, nothing is answered. -/
theorem of_nil (h : Regroups [] calls texts left) :
    texts = List.replicate calls.length none := by
  generalize hls : ([] : List Line) = ls at h
  induction h with
  | nothing => rfl
  | line rest ih => simp at hls
  | @statement k ls left calls texts least rest ih =>
    subst hls
    obtain ⟨-, l, hl, -⟩ := least.1
    simp at hl
  | spent rest ih => rw [ih rfl, List.length_cons, List.replicate_succ]

/-- **A missing answer is the last.** After it there is no other. The induction is on the calls:
where one has no answer, no line is left for the next. -/
theorem some_then_none (h : Regroups ls calls texts left) :
    ∃ (found : List Text) (k : Nat), texts = found.map some ++ List.replicate k none := by
  induction h with
  | nothing => exact ⟨[], 0, rfl⟩
  | @line l ls left calls texts rest ih =>
    obtain ⟨found, k, rfl⟩ := ih
    exact ⟨l.text :: found, k, rfl⟩
  | @statement k ls left calls texts least rest ih =>
    obtain ⟨found, j, rfl⟩ := ih
    exact ⟨_ :: found, j, rfl⟩
  | @spent call left calls texts rest ih =>
    exact ⟨[], calls.length + 1, by rw [rest.of_nil, List.replicate_succ]; rfl⟩

/-- **Where no line is broken off**, the `i`-th call answers the `i`-th line, whichever call it is.
A statement is one line, too, if that is not broken off. -/
theorem of_not_brokenOff (h : Regroups ls calls texts left)
    (hc : ∀ l ∈ ls, ¬ l.BrokenOff) :
    texts = (List.range calls.length).map fun i => ls[i]?.map Line.text := by
  induction h with
  | nothing => rfl
  | @line l ls left calls texts rest ih =>
    have hls := ih fun m hm => hc m (List.mem_cons_of_mem l hm)
    rw [List.length_cons, List.range_succ_eq_map, List.map_cons, List.map_map, hls]
    rfl
  | @statement k ls left calls texts least rest ih =>
    obtain ⟨hk, l, hl, -⟩ := least.1
    -- it can end with the first line already
    cases ls with
    | nil => simp at hl
    | cons m ls =>
      have hone : Statement.CanEnd (m :: ls) 1 :=
        ⟨Nat.le_refl 1, m, rfl, Or.inl (hc m List.mem_cons_self)⟩
      obtain rfl : k = 1 := Nat.le_antisymm (least.2 hone) hk
      have hls := ih fun n hn => hc n (List.mem_cons_of_mem m hn)
      rw [List.length_cons, List.range_succ_eq_map, List.map_cons, List.map_map, hls]
      simp [Line.text, Function.comp_def]
  | @spent call left calls texts rest ih =>
    rw [rest.of_nil, ← List.replicate_succ]
    simp

end Regroups

variable {fills : List Fill} {bytes : List UInt8}

/-- **Calls of a reader regroup the lines between the line feeds.** However the bytes
come, each call takes lines from the front of those that are left, and a statement the
fewest with which it can end; after a missing answer there is no other; and where no line
is broken off, it makes no difference what is asked for. -/
theorem regrouping (h : Fill.Bring fills bytes) (calls : List Call) :
    Line.ofBytes bytes = (bytes.splitOn lineFeed).dropLast.map Line.closed
        ++ Line.opened ((bytes.splitOn lineFeed).getLastD []) ∧
      Regroups (Line.ofBytes bytes) calls ((ofFills fills).answers calls).1
        ((ofFills fills).answers calls).2.lines ∧
      (∃ (found : List Text) (k : Nat),
        ((ofFills fills).answers calls).1 = found.map some ++ List.replicate k none) ∧
      ((∀ l ∈ Line.ofBytes bytes, ¬ l.BrokenOff) →
        ((ofFills fills).answers calls).1
          = (List.range calls.length).map fun i => (Line.ofBytes bytes)[i]?.map Line.text) := by
  have hlines : (ofFills fills).lines = Line.ofBytes bytes := Interruption.lines_of_bring h
  have hr : Regroups (Line.ofBytes bytes) calls ((ofFills fills).answers calls).1
      ((ofFills fills).answers calls).2.lines := by
    rw [← hlines]
    exact answers_regroup calls (ofFills fills)
  exact ⟨Line.ofBytes_eq_splitOn bytes, hr, hr.some_then_none, hr.of_not_brokenOff⟩

/-- A statement goes over a line that is as long as the width, whose bytes come in two
pieces with an interruption between them. -/
theorem regrouping_brokenOff :
    Fill.Bring [.bytes (List.replicate 40 0x61), .interrupted,
        .bytes (List.replicate 39 0x61 ++ [0x0D, 0x0A, 0x62])]
      (List.replicate 79 0x61 ++ [0x0D, 0x0A, 0x62]) ∧
    Regroups (Line.ofBytes (List.replicate 79 0x61 ++ [0x0D, 0x0A, 0x62])) [.statement, .line]
      ((ofFills [.bytes (List.replicate 40 0x61), .interrupted,
        .bytes (List.replicate 39 0x61 ++ [0x0D, 0x0A, 0x62])]).answers [.statement, .line]).1
      ((ofFills [.bytes (List.replicate 40 0x61), .interrupted,
        .bytes (List.replicate 39 0x61 ++ [0x0D, 0x0A, 0x62])]).answers
          [.statement, .line]).2.lines :=
  ⟨by decide, (regrouping (by decide) [.statement, .line]).2.1⟩

end LineReader

end TexTranscript
