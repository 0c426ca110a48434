import Mathlib.Data.List.Basic
import TexTranscript.Stream.Interruption

/-!
# What a line reader reads

The lines that a reader reads of a transcript depend on its bytes and on how it
is interrupted, and not on the pieces in which the bytes come. This module says
so for a transcript that comes whole, for one whose reading fails, and for one
that ends before its time.

The proof goes in two steps. Putting the pieces together in front of a source
does not change what is read (`LineReader.lines_of_alike`), because a piece that
holds no line feed is only passed on into the buffer. And of bytes in one piece
the lines are cut off one after the other, which is an induction along the line
feeds (`Line.inductionOnCut`).

## Main statements

* `Line.ofBytes_eq_splitOn` – the lines are what stands between the line feeds.
* `Interruption.lines_ofFills` – what a reader reads of an interrupted
  transcript, however its bytes come.
-/

namespace TexTranscript

namespace Line

/-! ## Cutting bytes into lines -/

/-- The line that some bytes make in front of a line feed: a carriage return at their end
belongs to what ended the line. -/
def closed (bytes : List UInt8) : Line :=
  ⟨if bytes.getLast? = some carriageReturn then bytes.dropLast else bytes, true⟩

/-- The line, if it is one, that some bytes make behind the last line feed. -/
def opened (bytes : List UInt8) : List Line := if bytes = [] then [] else [⟨bytes, false⟩]

/-- A terminated line without its return is a closed one. -/
theorem dropReturn_terminated (bytes : List UInt8) :
    (Line.mk bytes true).dropReturn = closed bytes := by
  unfold dropReturn closed
  by_cases h : bytes.getLast? = some carriageReturn
  · simp [h]
  · simp [h]

/-- A byte in front of the bytes is in front of the first line. -/
theorem push_of_ne {b : UInt8} (h : lineFeed ≠ b) :
    push b [] = [⟨[b], false⟩] ∧
      ∀ l ls, push b (l :: ls) = { l with bytes := b :: l.bytes } :: ls :=
  ⟨if_neg (Ne.symm h), fun _ _ => if_neg (Ne.symm h)⟩

/-- The first line feed ends the first line. -/
theorem cut_append_lineFeed {xs : List UInt8} (h : lineFeed ∉ xs) (bytes : List UInt8) :
    cut (xs ++ lineFeed :: bytes) = ⟨xs, true⟩ :: cut bytes := by
  induction xs with
  | nil => rfl
  | cons b xs ih =>
    rw [List.mem_cons, not_or] at h
    rw [List.cons_append, cut_cons, ih h.2, (push_of_ne h.1).2]

/-- Without a line feed there is no more than one line. -/
theorem cut_of_notMem {xs : List UInt8} (h : lineFeed ∉ xs) : cut xs = opened xs := by
  induction xs with
  | nil => rfl
  | cons b xs ih =>
    rw [List.mem_cons, not_or] at h
    rw [cut_cons, ih h.2]
    cases xs with
    | nil => exact (push_of_ne h.1).1
    | cons c xs => exact (push_of_ne h.1).2 _ _

/-- Bytes up to a line feed are the first line. -/
theorem ofBytes_append_lineFeed {xs : List UInt8} (h : lineFeed ∉ xs) (bytes : List UInt8) :
    ofBytes (xs ++ lineFeed :: bytes) = closed xs :: ofBytes bytes := by
  rw [ofBytes, cut_append_lineFeed h, List.map_cons, dropReturn_terminated]
  rfl

/-- Bytes without a line feed are one line, or none if there are no bytes. -/
theorem ofBytes_of_notMem {xs : List UInt8} (h : lineFeed ∉ xs) : ofBytes xs = opened xs := by
  rw [ofBytes, cut_of_notMem h, opened]
  split
  · rfl
  · rfl

/-- **Bytes are lines and a rest.** What holds of bytes without a line feed, and of bytes with one
more line in front, holds of all. The recursion is on what follows the first line feed. -/
@[elab_as_elim]
theorem inductionOnCut {P : List UInt8 → Prop} (bytes : List UInt8)
    (rest : ∀ xs, lineFeed ∉ xs → P xs)
    (line : ∀ xs bytes, lineFeed ∉ xs → P bytes → P (xs ++ lineFeed :: bytes)) : P bytes := by
  by_cases h : lineFeed ∈ bytes
  · obtain ⟨xs, behind, hb, hx⟩ := List.eq_append_cons_of_mem h
    rw [hb]
    exact line xs behind hx (inductionOnCut behind rest line)
  · exact rest bytes h
termination_by bytes.length
decreasing_by
  rw [hb, List.length_append, List.length_cons]
  omega

/-- **The lines are what stands between the line feeds.** All but the last are terminated, and the
last is only a line if there is anything on it. -/
theorem ofBytes_eq_splitOn (bytes : List UInt8) :
    ofBytes bytes = (bytes.splitOn lineFeed).dropLast.map closed
      ++ opened ((bytes.splitOn lineFeed).getLastD []) := by
  induction bytes using inductionOnCut with
  | rest xs h =>
    rw [ofBytes_of_notMem h, List.splitOn_eq_singleton h]
    rfl
  | line xs bytes h ih =>
    rw [ofBytes_append_lineFeed h, ih, List.splitOn_append_cons_self_of_not_mem h]
    obtain ⟨y, ys, hy⟩ := List.exists_cons_of_ne_nil (List.splitOn_ne_nil lineFeed bytes)
    rw [hy]
    rfl

end Line

/-! ## Pieces do not matter -/

namespace ByteSource

theorem bne_of_notMem {stop : UInt8} {xs : List UInt8} (h : stop ∉ xs) :
    ∀ b ∈ xs, (b != stop) = true := by
  intro b hb
  rw [bne_iff_ne]
  exact fun hbs => h (hbs ▸ hb)

/-- **Two sources alike**: the second has in one piece what the first is yet to be given
in several. -/
inductive Alike : ByteSource → ByteSource → Prop
  | intro {pieces : List Fill} (held : List UInt8) (fills : List Fill)
      (plain : ∀ f ∈ pieces, f.IsPlain) :
      Alike ⟨held, pieces ++ fills⟩ ⟨held ++ pieces.flatMap Fill.content, fills⟩

theorem Alike.refl (s : ByteSource) : Alike s s := by
  have h : Alike ⟨s.held, [] ++ s.fills⟩ ⟨s.held ++ [].flatMap Fill.content, s.fills⟩ :=
    .intro s.held s.fills (by simp)
  rwa [List.flatMap_nil, List.append_nil] at h

/-- Where the byte is found, it is read up to there, and no fill is asked for. -/
theorem readUntil_append_stop {stop : UInt8} {front : List UInt8} (h : stop ∉ front)
    (buf back : List UInt8) (fills : List Fill) :
    readUntil stop buf (front ++ stop :: back) fills
      = (true, buf ++ (front ++ [stop]), ⟨back, fills⟩) := by
  have hp := bne_of_notMem h
  have hd : (front ++ stop :: back).dropWhile (· != stop) = stop :: back := by
    rw [List.dropWhile_append_of_pos hp, List.dropWhile_cons_of_neg (by simp)]
  have ht : (front ++ stop :: back).takeWhile (· != stop) = front := by
    rw [List.takeWhile_append_of_pos hp, List.takeWhile_cons_of_neg (by simp), List.append_nil]
  rw [readUntil.eq_def, hd, ht]

/-- Where the byte is not found, what is held goes into the buffer. -/
theorem readUntil_of_notMem {stop : UInt8} {held : List UInt8} (h : stop ∉ held)
    (buf more : List UInt8) (fills : List Fill) :
    readUntil stop buf (held ++ more) fills = readUntil stop (buf ++ held) more fills := by
  have hp := bne_of_notMem h
  rw [readUntil.eq_def, readUntil.eq_def stop (buf ++ held), List.dropWhile_append_of_pos hp,
    List.takeWhile_append_of_pos hp]
  simp only [List.append_assoc]

/-- Bytes that come are held. -/
theorem readUntil_bytes (stop : UInt8) (buf chunk : List UInt8) (fills : List Fill)
    (h : chunk ≠ []) :
    readUntil stop buf [] (.bytes chunk :: fills) = readUntil stop buf chunk fills := by
  obtain ⟨b, chunk, rfl⟩ := List.exists_cons_of_ne_nil h
  rw [readUntil.eq_def stop buf []]
  dsimp only [List.dropWhile_nil]
  rw [List.append_nil]

/-- An interruption is passed over. -/
theorem readUntil_interrupted (stop : UInt8) (buf : List UInt8) (fills : List Fill) :
    readUntil stop buf [] (.interrupted :: fills) = readUntil stop buf [] fills := by
  rw [readUntil.eq_def stop buf []]
  dsimp only [List.dropWhile_nil]
  rw [List.append_nil]

/-- **Reading does not tell sources apart that are alike.** Once the byte is in what is held, no
piece is asked for any more. -/
theorem readUntil_of_alike (stop : UInt8) (buf : List UInt8) {s t : ByteSource}
    (h : Alike s t) :
    (readUntil stop buf s.held s.fills).1 = (readUntil stop buf t.held t.fills).1 ∧
      (readUntil stop buf s.held s.fills).2.1 = (readUntil stop buf t.held t.fills).2.1 ∧
      Alike (readUntil stop buf s.held s.fills).2.2 (readUntil stop buf t.held t.fills).2.2 := by
  cases h with
  | @intro pieces held fills plain =>
    dsimp only
    induction pieces generalizing buf held with
    | nil =>
      rw [List.nil_append, List.flatMap_nil, List.append_nil]
      exact ⟨rfl, rfl, .refl _⟩
    | cons f pieces ih =>
      have hf : f.IsPlain := plain f List.mem_cons_self
      have hp : ∀ g ∈ pieces, g.IsPlain := fun g hg => plain g (List.mem_cons_of_mem f hg)
      by_cases hs : stop ∈ held
      · -- the line ends in what is held, and no piece is asked for
        obtain ⟨front, back, rfl, hf⟩ := List.eq_append_cons_of_mem hs
        rw [readUntil_append_stop hf, List.append_assoc, List.cons_append (a := stop),
          readUntil_append_stop hf]
        exact ⟨rfl, rfl, .intro back fills plain⟩
      · -- the held bytes go into the buffer, and the first piece is held instead
        rw [readUntil_of_notMem hs, List.flatMap_cons]
        have h₁ := readUntil_of_notMem hs buf [] (f :: pieces ++ fills)
        rw [List.append_nil] at h₁
        rw [h₁]
        cases f with
        | bytes chunk =>
          rw [List.cons_append, readUntil_bytes _ _ _ _ hf]
          exact ih (buf ++ held) chunk hp
        | interrupted =>
          rw [List.cons_append, readUntil_interrupted]
          exact ih (buf ++ held) [] hp
        | failed => exact hf.elim

end ByteSource

namespace LineReader

open ByteSource

/-- Readers of sources that are alike read the same line. They read up to the same line feed, and go
on alike. -/
theorem readLine_of_alike {r t : LineReader} (h : Alike r.inner t.inner)
    (he : r.exhausted = t.exhausted) :
    r.readLine.1 = t.readLine.1 ∧
      (r.readLine.1.isSome = true → r.readLine.2.buf = t.readLine.2.buf ∧
        Alike r.readLine.2.inner t.readLine.2.inner ∧
        r.readLine.2.exhausted = t.readLine.2.exhausted) := by
  obtain ⟨hok, hbuf, halike⟩ := readUntil_of_alike lineFeed [] h
  unfold readLine
  rw [← he]
  generalize readUntil lineFeed [] r.inner.held r.inner.fills = x at hok hbuf halike
  generalize readUntil lineFeed [] t.inner.held t.inner.fills = y at hok hbuf halike
  obtain ⟨ok, buf, s⟩ := x
  obtain ⟨ok', buf', s'⟩ := y
  dsimp only at hok hbuf halike
  subst hok hbuf
  split
  · exact ⟨rfl, by simp⟩
  · cases ok with
    | false => exact ⟨rfl, by simp⟩
    | true =>
      cases buf with
      | nil => exact ⟨rfl, by simp⟩
      | cons b read => exact ⟨rfl, fun _ => ⟨rfl, halike, rfl⟩⟩

/-- **The pieces do not matter.** Readers of sources that are alike read the same lines, since each
line leaves sources that are alike. -/
theorem lines_of_alike {r t : LineReader} (h : Alike r.inner t.inner)
    (he : r.exhausted = t.exhausted) : r.lines = t.lines := by
  fun_induction lines r generalizing t with
  | case1 r terminated r' hr ih =>
    obtain ⟨ha, hs⟩ := readLine_of_alike h he
    rw [hr] at ha hs
    obtain ⟨hbuf, halike, hex⟩ := hs rfl
    have ht : t.readLine = (some terminated, t.readLine.2) := Prod.ext ha.symm rfl
    rw [lines_of_readLine_some ht, ih halike hex, hbuf]
  | case2 r r' hr =>
    obtain ⟨ha, -⟩ := readLine_of_alike h he
    rw [hr] at ha
    have ht : t.readLine = (none, t.readLine.2) := Prod.ext ha.symm rfl
    rw [lines_of_readLine_none ht]

/-- Pieces in front of other fills may be put together. -/
theorem lines_pieces {pieces : List Fill} {bytes : List UInt8} (h : Fill.Bring pieces bytes)
    (fills : List Fill) :
    (ofFills (pieces ++ fills)).lines = lines { inner := ⟨bytes, fills⟩ } := by
  have ha := Alike.intro [] fills h.1
  rw [h.2, List.nil_append] at ha
  exact lines_of_alike (r := ofFills (pieces ++ fills)) (t := { inner := ⟨bytes, fills⟩ }) ha rfl

/-! ## Lines of bytes in one piece -/

variable {xs : List UInt8}

/-- What was read up to a line feed is a line that it ended. -/
theorem ofRead_closed (xs : List UInt8) : Line.ofRead (xs ++ [lineFeed]) = Line.closed xs := by
  rw [Line.ofRead, if_pos (by simp), List.dropLast_concat, Line.dropReturn_terminated]

/-- What was read without a line feed is a line that is not terminated. -/
theorem ofRead_opened (h : lineFeed ∉ xs) : Line.ofRead xs = ⟨xs, false⟩ := by
  rw [Line.ofRead, if_neg]
  exact fun hl => h (List.mem_of_getLast? hl)

/-- A line feed ends the line that is read. -/
theorem lines_append_lineFeed (h : lineFeed ∉ xs) (bytes : List UInt8) (fills : List Fill) :
    lines { inner := ⟨xs ++ lineFeed :: bytes, fills⟩ }
      = Line.closed xs :: lines { inner := ⟨bytes, fills⟩ } := by
  obtain ⟨b, read, hb⟩ : ∃ b read, xs ++ [lineFeed] = b :: read :=
    List.exists_cons_of_ne_nil (by simp)
  have hr : readLine { inner := ⟨xs ++ lineFeed :: bytes, fills⟩ }
      = (some true, { inner := ⟨bytes, fills⟩, buf := (Line.closed xs).bytes }) := by
    rw [readLine, if_neg (by simp)]
    dsimp only
    rw [readUntil_append_stop h, List.nil_append, hb]
    dsimp only
    rw [← hb, ofRead_closed]
    rfl
  rw [lines_of_readLine_some hr, lines_withBuf { inner := ⟨bytes, fills⟩ }]
  rfl

/-- Bytes without a line feed are read into the buffer, and then comes what comes. -/
theorem readUntil_rest (h : lineFeed ∉ xs) (fills : List Fill) :
    readUntil lineFeed [] xs fills = readUntil lineFeed xs [] fills := by
  have hr := readUntil_of_notMem h [] [] fills
  rwa [List.append_nil, List.nil_append] at hr

/-- A failure loses the line that was being read, and ends everything. -/
theorem lines_failed (h : lineFeed ∉ xs) (fills : List Fill) :
    lines { inner := ⟨xs, .failed :: fills⟩ } = [] := by
  have hr : readLine { inner := ⟨xs, .failed :: fills⟩ }
      = (none, { inner := ⟨[], fills⟩, buf := xs, exhausted := true }) := by
    rw [readLine, if_neg (by simp)]
    dsimp only
    rw [readUntil_rest h, readUntil.eq_def]
    simp
  exact lines_of_readLine_none hr

/-- Where the end is reported, what was read of a line is a line that is not terminated,
and reading goes on; if nothing was read of it, everything ends. -/
theorem lines_of_end {fills after : List Fill} (h : lineFeed ∉ xs)
    (hu : readUntil lineFeed xs [] fills = (true, xs, ⟨[], after⟩)) :
    lines { inner := ⟨xs, fills⟩ }
      = Line.opened xs ++ if xs = [] then [] else (ofFills after).lines := by
  rw [← readUntil_rest h] at hu
  cases xs with
  | nil =>
    have hr : readLine { inner := ⟨[], fills⟩ }
        = (none, { inner := ⟨[], after⟩, exhausted := true }) := by
      rw [readLine, if_neg (by simp)]
      dsimp only
      rw [hu]
    rw [lines_of_readLine_none hr]
    rfl
  | cons b xs =>
    have hr : readLine { inner := ⟨b :: xs, fills⟩ }
        = (some false, { inner := ⟨[], after⟩, buf := b :: xs }) := by
      rw [readLine, if_neg (by simp)]
      dsimp only
      rw [hu]
      dsimp only
      rw [ofRead_opened h]
    rw [lines_of_readLine_some hr, lines_withBuf { inner := ⟨[], after⟩ }]
    rfl

/-- Where an end is reported in the middle of a line, what was read of it is a line, and what comes
behind it is read as well; otherwise everything ends. -/
theorem lines_ended (h : lineFeed ∉ xs) (after : List Fill) :
    lines { inner := ⟨xs, .bytes [] :: after⟩ }
      = Line.opened xs ++ if xs = [] then [] else (ofFills after).lines :=
  lines_of_end h (by rw [readUntil.eq_def]; simp)

/-- Where nothing more comes, everything ends behind the rest. -/
theorem lines_rest (h : lineFeed ∉ xs) : lines { inner := ⟨xs, []⟩ } = Line.opened xs := by
  have hempty : readUntil lineFeed [] [] [] = (true, [], ⟨[], []⟩) := rfl
  have hu : readUntil lineFeed xs [] [] = (true, xs, ⟨[], []⟩) := by
    rw [readUntil.eq_def]
    simp
  have hn : (ofFills []).lines = [] := lines_of_end (by simp) hempty
  rw [lines_of_end h hu, hn, ite_self, List.append_nil]

end LineReader

/-! ## Lines of interrupted transcripts -/

namespace Interruption

open LineReader

/-- Whether bytes end in the middle of a line depends on what follows the last line feed. -/
theorem midLine_append_lineFeed (xs bytes : List UInt8) :
    midLine (xs ++ lineFeed :: bytes) = midLine bytes := by
  unfold midLine
  cases bytes with
  | nil => simp
  | cons b bytes =>
    rw [List.getLast?_append, List.getLast?_cons_cons]
    rfl

/-- Bytes without a line feed end in the middle of a line unless there are none. -/
theorem midLine_of_notMem {xs : List UInt8} (h : lineFeed ∉ xs) :
    midLine xs = decide (xs ≠ []) := by
  unfold midLine
  cases hl : xs.getLast? with
  | none =>
    rw [List.getLast?_eq_none_iff] at hl
    simp [hl]
  | some b =>
    have hb : b ∈ xs := List.mem_of_getLast? hl
    have hne : b ≠ lineFeed := fun hbl => h (hbl ▸ hb)
    have hxs : xs ≠ [] := List.ne_nil_of_mem hb
    simp [hne, hxs]

/-- **A transcript that comes as a whole** is read as its lines. -/
theorem lines_of_bring {fills : List Fill} {bytes : List UInt8} (h : Fill.Bring fills bytes) :
    (ofFills fills).lines = Line.ofBytes bytes := by
  have hp := lines_pieces h []
  rw [List.append_nil] at hp
  rw [hp]
  clear h hp
  induction bytes using Line.inductionOnCut with
  | rest xs h => rw [lines_rest h, Line.ofBytes_of_notMem h]
  | line xs bytes h ih => rw [lines_append_lineFeed h, ih, Line.ofBytes_append_lineFeed h]

/-- **A transcript whose source fails** is read without the line that was not complete. -/
theorem lines_of_bring_failed {before after : List Fill} {bytes : List UInt8}
    (h : Fill.Bring before bytes) :
    (ofFills (before ++ .failed :: after)).lines
      = (Line.ofBytes bytes).filter (·.terminated) := by
  rw [lines_pieces h]
  clear h
  induction bytes using Line.inductionOnCut with
  | rest xs h =>
    rw [lines_failed h, Line.ofBytes_of_notMem h, Line.opened]
    split
    · rfl
    · rfl
  | line xs bytes h ih =>
    rw [lines_append_lineFeed h, ih, Line.ofBytes_append_lineFeed h, List.filter_cons_of_pos]
    rfl

/-- **A transcript whose source reports an end early** is read with the line that was not complete;
if there is one, reading goes on behind it. -/
theorem lines_of_bring_ended {before after : List Fill} {bytes : List UInt8}
    (h : Fill.Bring before bytes) :
    (ofFills (before ++ .bytes [] :: after)).lines
      = Line.ofBytes bytes ++ if midLine bytes then (ofFills after).lines else [] := by
  rw [lines_pieces h]
  clear h
  induction bytes using Line.inductionOnCut with
  | rest xs h =>
    rw [lines_ended h, Line.ofBytes_of_notMem h, midLine_of_notMem h]
    by_cases hx : xs = []
    · simp [hx]
    · simp [hx]
  | line xs bytes h ih =>
    rw [lines_append_lineFeed h, ih, Line.ofBytes_append_lineFeed h, midLine_append_lineFeed]
    rfl

/-- **What a reader reads of an interrupted transcript**, however its bytes come. -/
theorem lines_ofFills {how : Interruption} {bytes : List UInt8} {fills : List Fill}
    (h : how.Delivers bytes fills) : (ofFills fills).lines = how.lines bytes := by
  cases how with
  | never => exact lines_of_bring h
  | failure n =>
    obtain ⟨before, after, rfl, hb, -⟩ := h
    exact lines_of_bring_failed hb
  | prematureEnd n =>
    obtain ⟨before, after, rfl, hb, ha⟩ := h
    rw [lines_of_bring_ended hb, lines_of_bring ha]
    rfl

end Interruption

end TexTranscript
