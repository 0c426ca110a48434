import Mathlib.Data.List.DropRight
import TexTranscript.Proofs.Reading
import TexTranscript.Report

/-!
# Faulty transcripts

A transcript whose reading is interrupted comes to what some transcript comes to
that is read without a fault.

* After a failure it is the one that ends with the last line feed before the
  fault.
* After a premature end between two lines it is the one that ends there, and
  what is behind the end is not even asked for.
* After a premature end within a line it is the one in which this line is two:
  what was read of it, which no line feed ended, and what is left of it.

A parse depends on nothing but the lines that are left in its source
(`parseTranscript_eq_lines`), whether it reads them itself, in a lookahead or in
a nested parser. So all that has to be compared is the lines a reader reads.

## Main statements

* `Line.ofBytes_completePart` – a failure leaves the lines that were complete.
* `Interruption.lines_prematureEnd` – a premature end makes two lines of one.
* `LineReader.fills_suffix` – what stands behind a premature end stays there.
* `parseTranscript_interrupted` – what an interrupted transcript comes to.
-/

namespace TexTranscript

/-! ## A failure -/

/-- The bytes up to and including the last line feed. -/
def Line.completePart (bytes : List UInt8) : List UInt8 :=
  bytes.rdropWhile (· != lineFeed)

namespace Line

/-- Without a line feed there is no complete line. -/
theorem completePart_of_notMem {xs : List UInt8} (h : lineFeed ∉ xs) : completePart xs = [] := by
  rw [completePart, List.rdropWhile_eq_nil_iff]
  exact ByteSource.bne_of_notMem h

/-- A line that is ended is complete, and what is complete behind it stays so. -/
theorem completePart_append_lineFeed (xs bytes : List UInt8) :
    completePart (xs ++ lineFeed :: bytes) = xs ++ lineFeed :: completePart bytes := by
  unfold completePart List.rdropWhile
  rw [List.reverse_append, List.reverse_cons, List.append_assoc, List.dropWhile_append]
  split
  · next h =>
    rw [List.isEmpty_iff] at h
    rw [h]
    simp
  · simp

/-- **The lines of the complete part** are those that a line feed ended. The bytes are taken line by
line; only the last line can lack its line feed. -/
theorem ofBytes_completePart (bytes : List UInt8) :
    ofBytes (completePart bytes) = (ofBytes bytes).filter (·.terminated) := by
  induction bytes using inductionOnCut with
  | rest xs h =>
    rw [completePart_of_notMem h, ofBytes_of_notMem h, opened]
    split
    · rfl
    · rfl
  | line xs bytes h ih =>
    rw [completePart_append_lineFeed, ofBytes_append_lineFeed h, ofBytes_append_lineFeed h, ih,
      List.filter_cons_of_pos]
    rfl

end Line

/-! ## A premature end -/

/-- **The lines, one of them broken**: the one that holds the offset is two, namely what
stands before it, which no line feed ended, and what is left of the line, if a byte is. -/
def Line.breakAt : Nat → List Line → List Line
  | _, [] => []
  | n, l :: ls =>
    if n ≤ l.bytes.length then
      ⟨l.bytes.take n, false⟩ ::
        ((if (Line.mk (l.bytes.drop n) l.terminated).source = [] then []
          else [(Line.mk (l.bytes.drop n) l.terminated).dropReturn]) ++ ls.map dropReturn)
    else l.dropReturn :: breakAt (n - l.source.length) ls

namespace Interruption

/-- The offset stands at the start or directly behind a line feed. -/
def BetweenLines (n : Nat) (bytes : List UInt8) : Prop :=
  n = 0 ∨ bytes[n - 1]? = some lineFeed

instance (n : Nat) (bytes : List UInt8) : Decidable (BetweenLines n bytes) :=
  inferInstanceAs (Decidable (_ ∨ _))

/-- The bytes stop in the middle of a line if they do not stop between two. -/
theorem midLine_take_iff {n : Nat} {bytes : List UInt8} (hn : n ≤ bytes.length) :
    midLine (bytes.take n) = true ↔ ¬ BetweenLines n bytes := by
  unfold midLine BetweenLines
  cases n with
  | zero => simp
  | succ n =>
    have hb : bytes[n]? = some bytes[n] := List.getElem?_eq_getElem hn
    have hl : (bytes.take (n + 1)).getLast? = some bytes[n] := by
      rw [List.getLast?_take, if_neg (Nat.succ_ne_zero n), Nat.add_sub_cancel, hb]
      rfl
    rw [hl, Nat.add_sub_cancel, hb]
    simp

/-- A line whose bytes stop somewhere in the middle. -/
theorem of_midLine_take {n : Nat} {xs : List UInt8} (hx : lineFeed ∉ xs)
    (h : midLine (xs.take n) = true) :
    lineFeed ∉ xs.take n ∧ lineFeed ∉ xs.drop n ∧ xs.take n ≠ [] := by
  have hfront : lineFeed ∉ xs.take n := fun hm => hx (List.mem_of_mem_take hm)
  refine ⟨hfront, fun hm => hx (List.mem_of_mem_drop hm), ?_⟩
  rw [midLine_of_notMem hfront] at h
  exact of_decide_eq_true h

/-- **A premature end makes two lines of one**, unless nothing is left of the line. The bytes that
were read of it are kept as they are. The lines in front of the one that is broken are the same in
both, and the bytes of that one are cut at the offset that is left. -/
theorem lines_prematureEnd {n : Nat} {bytes : List UInt8} (hn : n ≤ bytes.length)
    (h : midLine (bytes.take n) = true) :
    (prematureEnd n).lines bytes = Line.breakAt n (Line.cut bytes) := by
  induction bytes using Line.inductionOnCut generalizing n with
  | rest xs hx =>
    obtain ⟨hfront, hback, hne⟩ := of_midLine_take hx h
    have hxs : xs ≠ [] := fun hnil => hne (by rw [hnil, List.take_nil])
    rw [lines, if_pos h, Line.ofBytes_of_notMem hfront, Line.ofBytes_of_notMem hback,
      Line.cut_of_notMem hx, Line.opened, Line.opened, Line.opened, if_neg hne, if_neg hxs,
      Line.breakAt, if_pos hn]
    simp [Line.dropReturn, Line.source]
  | line xs bytes hx ih =>
    rw [Line.cut_append_lineFeed hx, Line.breakAt]
    by_cases hle : n ≤ xs.length
    · -- the end is reported within the first line
      have ht : (xs ++ lineFeed :: bytes).take n = xs.take n := List.take_append_of_le_length hle
      have hd : (xs ++ lineFeed :: bytes).drop n = xs.drop n ++ lineFeed :: bytes :=
        List.drop_append_of_le_length hle
      rw [ht] at h
      obtain ⟨hfront, hback, hne⟩ := of_midLine_take hx h
      rw [if_pos hle, lines, ht, hd, if_pos h, Line.ofBytes_of_notMem hfront,
        Line.ofBytes_append_lineFeed hback, Line.opened, if_neg hne,
        if_neg (by simp [Line.source]), Line.dropReturn_terminated]
      rfl
    · -- the end is reported behind the first line
      obtain ⟨m, rfl⟩ : ∃ m, n = xs.length + (m + 1) := ⟨n - xs.length - 1, by omega⟩
      have ht : (xs ++ lineFeed :: bytes).take (xs.length + (m + 1))
          = xs ++ lineFeed :: bytes.take m := by
        rw [List.take_length_add_append, List.take_succ_cons]
      have hd : (xs ++ lineFeed :: bytes).drop (xs.length + (m + 1)) = bytes.drop m := by
        rw [List.drop_length_add_append, List.drop_succ_cons]
      have hs : xs.length + (m + 1) - (Line.source ⟨xs, true⟩).length = m := by
        simp [Line.source]
        omega
      rw [ht, midLine_append_lineFeed] at h
      have hm : m ≤ bytes.length := by
        rw [List.length_append, List.length_cons] at hn
        omega
      have hlines := ih hm h
      rw [lines, if_pos h] at hlines
      rw [if_neg hle, hs, lines, ht, hd, midLine_append_lineFeed, if_pos h,
        Line.ofBytes_append_lineFeed hx, List.cons_append, hlines, Line.dropReturn_terminated]

end Interruption

/-! ## What stands behind an end -/

theorem ByteSource.Alike.suffix {s t : ByteSource} (h : Alike s t) : t.fills <:+ s.fills := by
  cases h with
  | @intro pieces held fills plain => exact List.suffix_append pieces fills

namespace LineReader

open ByteSource

/-- **Whatever reading a line keeps**, and does not depend on the buffer, taking a statement keeps
as well. A statement is taken by reading lines, one after the other, so the induction is on how they
are joined. -/
theorem nextStatement_keeps {P : LineReader → Prop} (hline : ∀ r, P r → P r.readLine.2)
    (hbuf : ∀ (r : LineReader) (buf : List UInt8), P r → P { r with buf }) {r : LineReader}
    (h : P r) : P r.nextStatement.2 := by
  have hjoin : ∀ (statement : List UInt8) (terminated wrapped : Bool) (r : LineReader), P r →
      P (join statement terminated wrapped r).2 := by
    intro statement terminated wrapped r h
    fun_induction join statement terminated wrapped r with
    | case1 statement terminated wrapped r hw terminated' r' hr ih =>
      have hr' := hline r h
      rw [hr] at hr'
      exact ih hr'
    | case2 statement terminated wrapped r hw r' hr =>
      have hr' := hline r h
      rwa [hr] at hr'
    | case3 statement terminated wrapped r hw => exact h
  have hr := hline r h
  unfold nextStatement
  split
  · next terminated r' hr' =>
    rw [hr'] at hr
    exact hbuf _ _ (hjoin _ _ _ _ (hbuf r' [] hr))
  · next r' hr' => rwa [hr'] at hr

/-- **A reader in front of an end** that is reported between two lines, and of what would
come behind it. -/
def InFrontOf (after : List Fill) (r : LineReader) : Prop :=
  (r.exhausted = true ∧ after <:+ r.inner.fills) ∨
    ∃ rest, Interruption.midLine rest = false ∧ Alike r.inner ⟨rest, .bytes [] :: after⟩

variable {after : List Fill} {r : LineReader}

/-- Of a reader in front of an end, what comes behind that is still to come. -/
theorem InFrontOf.suffix (h : r.InFrontOf after) : after <:+ r.inner.fills := by
  rcases h with ⟨-, h⟩ | ⟨rest, -, h⟩
  · exact h
  · exact (List.suffix_cons _ after).trans h.suffix

/-- Reading a line does not get past the end. If the buffer and the fills up to the end hold a line
feed, the line ends there; otherwise the reader comes to the end and stops for good. -/
theorem InFrontOf.readLine (h : r.InFrontOf after) : r.readLine.2.InFrontOf after := by
  by_cases he : r.exhausted = true
  · rw [readLine_of_exhausted he]
    exact h
  · obtain ⟨rest, hm, ha⟩ := h.resolve_left fun hx => he hx.1
    obtain ⟨hok, hbuf, halike⟩ := readUntil_of_alike lineFeed [] ha
    dsimp only at hok hbuf halike
    by_cases hl : lineFeed ∈ rest
    · -- the line ends in front of the end
      obtain ⟨front, back, rfl, hf⟩ := List.eq_append_cons_of_mem hl
      rw [readUntil_append_stop hf] at hok hbuf halike
      rw [Interruption.midLine_append_lineFeed] at hm
      refine Or.inr ⟨back, hm, ?_⟩
      unfold LineReader.readLine
      rw [if_neg he]
      split
      · next b read inner hr =>
        rw [hr] at halike
        exact halike
      · next ok buf inner hnot hr =>
        rw [hr] at halike
        exact halike
    · -- there is nothing in front of the end, and the reader is exhausted
      rw [Interruption.midLine_of_notMem hl, decide_eq_false_iff_not, Decidable.not_not] at hm
      subst hm
      have hu : readUntil lineFeed [] [] (.bytes [] :: after) = (true, [], ⟨[], after⟩) := by
        rw [readUntil.eq_def]
        rfl
      rw [hu] at hok hbuf halike
      have hr : readUntil lineFeed [] r.inner.held r.inner.fills
          = (true, [], (readUntil lineFeed [] r.inner.held r.inner.fills).2.2) :=
        Prod.ext hok (Prod.ext hbuf rfl)
      have hs : r.readLine = (none,
          { inner := (readUntil lineFeed [] r.inner.held r.inner.fills).2.2,
            exhausted := true }) := by
        rw [LineReader.readLine, if_neg he, hr]
      rw [hs]
      exact Or.inl ⟨rfl, halike.suffix⟩

/-- **What stands behind a premature end stays there**, whatever is asked of the reader. Every
question to the reader reads lines only, and none of them gets past the end that was reported. -/
theorem fills_suffix {before : List Fill} {bytes : List UInt8} (h : Fill.Bring before bytes)
    (hm : Interruption.midLine bytes = false)
    (hr : LineSource.Reads (ofFills (before ++ .bytes [] :: after)) r) :
    after <:+ r.inner.fills := by
  have hbuf : ∀ (r : LineReader) (buf : List UInt8), r.InFrontOf after →
      ({ r with buf } : LineReader).InFrontOf after := fun _ _ h => h
  -- along whatever has been asked of the reader
  have hkeep : r.InFrontOf after := by
    induction hr with
    | nothing =>
      have ha := Alike.intro [] (.bytes [] :: after) h.1
      rw [List.nil_append, h.2] at ha
      exact Or.inr ⟨bytes, hm, ha⟩
    | @statement r' hr ih => exact nextStatement_keeps (fun _ => InFrontOf.readLine) hbuf ih
    | @line r' hr ih =>
      have hl := ih.readLine
      show r'.nextLine.2.InFrontOf after
      unfold nextLine
      split
      · next r'' hr'' => rwa [hr''] at hl
      · next r'' hr'' => rwa [hr''] at hl
  exact hkeep.suffix

end LineReader

/-! ## What faulty transcripts come to -/

open LineReader Interruption

section

variable {bytes : List UInt8} {n : Nat} {before after : List Fill}

/-- **What an interrupted transcript comes to.** After a failure it is what the transcript comes
to that ends with the last line feed before it; after a premature end between two lines, what the
transcript comes to that ends there, and nothing behind the end is ever asked for; after a
premature end within a line, what the lines come to of which this one is two. A parse sees
nothing of a transcript but its lines. So each part comes down to the lines that a reader finds
of the interrupted fills: the complete ones, those before the end, or all of them with one broken
in two. -/
theorem parseTranscript_interrupted (tool : Tool) (master : Text) (verbose : Bool)
    (hn : n ≤ bytes.length) (hb : Fill.Bring before (bytes.take n))
    (ha : Fill.Bring after (bytes.drop n)) :
    (∀ plain, Fill.Bring plain (Line.completePart (bytes.take n)) →
      parseTranscript tool master verbose (ofFills (before ++ .failed :: after))
        = parseTranscript tool master verbose (ofFills plain)) ∧
    (BetweenLines n bytes →
      (∀ plain, Fill.Bring plain (bytes.take n) →
        parseTranscript tool master verbose (ofFills (before ++ .bytes [] :: after))
          = parseTranscript tool master verbose (ofFills plain)) ∧
      ∀ (σ ι ν : Type) (g : Grammar σ ι ν) (r : LineReader),
        LineSource.Reads
          (g.parse verbose (g.begin (ofFills (before ++ .bytes [] :: after)))).scope.unread r →
        after <:+ r.inner.fills) ∧
    (¬ BetweenLines n bytes →
      parseTranscript tool master verbose (ofFills (before ++ .bytes [] :: after))
        = parseTranscript tool master verbose (Line.breakAt n (Line.cut bytes))) := by
  have hmid := midLine_take_iff hn
  have hfailed : LineSource.lines (ofFills (before ++ .failed :: after))
      = (Line.ofBytes (bytes.take n)).filter (·.terminated) := lines_of_bring_failed hb
  have hended : LineSource.lines (ofFills (before ++ .bytes [] :: after))
      = (prematureEnd n).lines bytes := lines_ofFills ⟨before, after, rfl, hb, ha⟩
  have hplain : ∀ {plain : List Fill} {bytes : List UInt8}, Fill.Bring plain bytes →
      LineSource.lines (ofFills plain) = Line.ofBytes bytes := lines_of_bring
  -- a parse depends on the lines that are read, so that it is these that are compared
  refine ⟨fun plain hp => ?_, fun hbetween => ⟨fun plain hp => ?_, ?_⟩, fun hwithin => ?_⟩
  · rw [parseTranscript_eq_lines, hfailed, ← Line.ofBytes_completePart, ← hplain hp,
      ← parseTranscript_eq_lines]
  · have hlines : (prematureEnd n).lines bytes = Line.ofBytes (bytes.take n) := by
      rw [Interruption.lines, if_neg fun hm => hmid.1 hm hbetween, List.append_nil]
    rw [parseTranscript_eq_lines, hended, hlines, ← hplain hp, ← parseTranscript_eq_lines]
  · intro σ ι ν g r hr
    have hparse := g.parse_reads verbose (g.begin (ofFills (before ++ .bytes [] :: after)))
    have hout : midLine (bytes.take n) = false := by
      rw [← Bool.not_eq_true]
      exact fun hm => hmid.1 hm hbetween
    exact fills_suffix hb hout (hparse.trans hr)
  · rw [parseTranscript_eq_lines, hended, lines_prematureEnd hn (hmid.2 hwithin)]

/-- The transcript of BibTeX has two lines, `ab` and `cd`, and is interrupted in the middle
of the second, or between them. -/
theorem parseTranscript_interrupted_twoLines :
    parseTranscript .bibtex [] true
        (ofFills [.bytes [0x61, 0x62], .bytes [0x0A, 0x63], .failed, .bytes [0x64]])
      = parseTranscript .bibtex [] true (ofFills [.bytes [0x61, 0x62, 0x0A]]) ∧
    parseTranscript .bibtex [] true
        (ofFills [.bytes [0x61, 0x62, 0x0A], .bytes [], .bytes [0x63, 0x64]])
      = parseTranscript .bibtex [] true (ofFills [.bytes [0x61], .bytes [0x62, 0x0A]]) ∧
    parseTranscript .bibtex [] true
        (ofFills [.bytes [0x61, 0x62, 0x0A, 0x63], .bytes [], .interrupted, .bytes [0x64]])
      = parseTranscript .bibtex [] true
          (Line.breakAt 4 (Line.cut [0x61, 0x62, 0x0A, 0x63, 0x64])) := by
  refine ⟨?_, ?_, ?_⟩
  · have hb : Fill.Bring [.bytes [0x61, 0x62], .bytes [0x0A, 0x63]]
        (List.take 4 [0x61, 0x62, 0x0A, 0x63, 0x64]) := by decide
    have ha : Fill.Bring [.bytes [0x64]] (List.drop 4 [0x61, 0x62, 0x0A, 0x63, 0x64]) := by decide
    exact (parseTranscript_interrupted .bibtex [] true (by decide) hb ha).1 _ (by decide)
  · have hb : Fill.Bring [.bytes [0x61, 0x62, 0x0A]]
        (List.take 3 [0x61, 0x62, 0x0A, 0x63, 0x64]) := by decide
    have ha : Fill.Bring [.bytes [0x63, 0x64]]
        (List.drop 3 [0x61, 0x62, 0x0A, 0x63, 0x64]) := by decide
    exact ((parseTranscript_interrupted .bibtex [] true (by decide) hb ha).2.1 (by decide)).1 _
      (by decide)
  · have hb : Fill.Bring [.bytes [0x61, 0x62, 0x0A, 0x63]]
        (List.take 4 [0x61, 0x62, 0x0A, 0x63, 0x64]) := by decide
    have ha : Fill.Bring [.interrupted, .bytes [0x64]]
        (List.drop 4 [0x61, 0x62, 0x0A, 0x63, 0x64]) := by decide
    exact (parseTranscript_interrupted .bibtex [] true (by decide) hb ha).2.2 (by decide)

end

end TexTranscript
