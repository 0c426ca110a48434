import TexTranscript.Proofs.Encoding
import TexTranscript.Proofs.Regrouping

/-!
# Rejoining undoes wrapping

A tool that prints a statement breaks it after every seventy-nine bytes, without
regard for words or for characters, and ends each piece with a line feed or with
a carriage return and a line feed. Statements then put the pieces together
again. They do so wherever a break can be told from an end: no break stands
behind a sentence, and a statement that ends exactly at the width ends with one.
The last statement is free to end as it likes, since no line follows that could
be taken for its continuation.

The lines that a reader sees of such a transcript are the pieces
(`Line.ofBytes_wrapped`), and the lines of one statement gather to the statement
that was broken (`Statement.gather_wrap`). What is left is an induction on the
statements.

## Main definitions

* `Statement.wrap` – the pieces that a statement is broken into.
* `Statement.wrapped` – what is printed of some statements.
* `Statement.Rejoinable` – each break can be told from an end.

## Main statements

* `LineReader.answers_wrapped` – the statements that are read are those that were
  broken.
-/

namespace TexTranscript

namespace Statement

/-! ## Breaking -/

/-- **The pieces that a statement is broken into**: seventy-nine bytes each, and as many as
are left in the last one. A statement without bytes has one piece without bytes. -/
def wrap (bytes : List UInt8) : List (List UInt8) :=
  if _h : bytes.length ≤ 79 then [bytes]
  else bytes.take 79 :: wrap (bytes.drop 79)
termination_by bytes.length
decreasing_by
  rw [List.length_drop]
  omega

/-- What a tool ends its lines with. -/
def lineEnd (withReturn : Bool) : List UInt8 :=
  if withReturn then [carriageReturn, lineFeed] else [lineFeed]

/-- **What is printed of some statements**: their pieces in order, each with a line end. -/
def wrapped (withReturn : Bool) (statements : List (List UInt8)) : List UInt8 :=
  statements.flatMap fun bytes => (wrap bytes).flatMap (· ++ lineEnd withReturn)

/-- The piece ends with a full stop or an exclamation mark. -/
def EndsSentence (piece : List UInt8) : Prop :=
  piece.getLast? = some '.'.toUInt8 ∨ piece.getLast? = some '!'.toUInt8

/-- **Each break can be told from an end.** -/
structure Rejoinable (statements : List (List UInt8)) : Prop where
  noLineFeed : ∀ bytes ∈ statements, lineFeed ∉ bytes
  noReturn : ∀ bytes ∈ statements, ∀ piece ∈ wrap bytes, piece.getLast? ≠ some carriageReturn
  /-- No break stands behind a sentence. -/
  breaks : ∀ bytes ∈ statements, ∀ piece ∈ (wrap bytes).dropLast, ¬ EndsSentence piece
  /-- A statement ends short of the width or with a sentence, unless nothing follows it. -/
  ends : ∀ bytes ∈ statements.dropLast, ∀ piece, (wrap bytes).getLast? = some piece →
    piece.length ≠ 79 ∨ EndsSentence piece

theorem wrap_of_le {bytes : List UInt8} (h : bytes.length ≤ 79) : wrap bytes = [bytes] := by
  rw [wrap, dif_pos h]

theorem wrap_of_lt {bytes : List UInt8} (h : 79 < bytes.length) :
    wrap bytes = bytes.take 79 :: wrap (bytes.drop 79) := by
  rw [wrap, dif_neg (Nat.not_le.2 h)]

theorem wrap_ne_nil (bytes : List UInt8) : wrap bytes ≠ [] := by
  rw [wrap]
  split <;> exact List.cons_ne_nil _ _

/-- **Breaking loses nothing**: the pieces are the bytes again. -/
theorem flatten_wrap (bytes : List UInt8) : (wrap bytes).flatten = bytes := by
  fun_induction wrap bytes with
  | case1 bytes h => simp
  | case2 bytes h ih => rw [List.flatten_cons, ih, List.take_append_drop]

/-! ## Lines of pieces -/

/-- A piece is a line that a line feed ended. -/
def lineOf (piece : List UInt8) : Line := ⟨piece, true⟩

/-- A piece is broken off where it is as long as the width and ends no sentence. -/
theorem brokenOff_lineOf {piece : List UInt8} :
    (lineOf piece).BrokenOff ↔ piece.length = 79 ∧ ¬ EndsSentence piece := by
  unfold Line.BrokenOff lineOf EndsSentence
  rw [not_or]
  constructor
  · rintro ⟨-, hlength, hlast⟩
    exact ⟨hlength, fun h => (hlast _ h).1 rfl, fun h => (hlast _ h).2 rfl⟩
  · rintro ⟨hlength, hstop, hmark⟩
    refine ⟨rfl, hlength, fun last hlast => ⟨?_, ?_⟩⟩
    · rintro rfl
      exact hstop hlast
    · rintro rfl
      exact hmark hlast

/-- What ends a line is no part of the piece in front of it. -/
theorem closed_lineEnd {piece : List UInt8} (h : piece.getLast? ≠ some carriageReturn)
    (withReturn : Bool) :
    ∃ xs, piece ++ lineEnd withReturn = xs ++ [lineFeed] ∧ Line.closed xs = lineOf piece ∧
      (lineFeed ∉ piece → lineFeed ∉ xs) := by
  cases withReturn with
  | false => exact ⟨piece, rfl, by simp [Line.closed, lineOf, h], id⟩
  | true =>
    refine ⟨piece ++ [carriageReturn], by simp [lineEnd], by simp [Line.closed, lineOf], ?_⟩
    intro hpiece hmem
    rcases List.mem_append.1 hmem with hmem | hmem
    · exact hpiece hmem
    · exact absurd hmem (by decide)

/-- **The lines of printed pieces are the pieces**, whatever is printed behind them. The induction
is on the pieces, each of which ends at its line feed. -/
theorem ofBytes_pieces {pieces : List (List UInt8)} (withReturn : Bool)
    (hfeed : ∀ piece ∈ pieces, lineFeed ∉ piece)
    (hreturn : ∀ piece ∈ pieces, piece.getLast? ≠ some carriageReturn) (behind : List UInt8) :
    Line.ofBytes (pieces.flatMap (· ++ lineEnd withReturn) ++ behind)
      = pieces.map lineOf ++ Line.ofBytes behind := by
  induction pieces with
  | nil => rfl
  | cons piece pieces ih =>
    obtain ⟨xs, hxs, hclosed, hmem⟩ :=
      closed_lineEnd (hreturn piece List.mem_cons_self) withReturn
    have hrest := ih (fun p hp => hfeed p (List.mem_cons_of_mem _ hp))
      fun p hp => hreturn p (List.mem_cons_of_mem _ hp)
    rw [List.flatMap_cons, hxs, List.append_assoc, List.append_assoc, List.singleton_append,
      Line.ofBytes_append_lineFeed (hmem (hfeed piece List.mem_cons_self)), hclosed, hrest]
    rfl

/-- Pieces of bytes without a line feed have none. -/
theorem lineFeed_notMem_of_mem_wrap {bytes piece : List UInt8} (h : lineFeed ∉ bytes)
    (hp : piece ∈ wrap bytes) : lineFeed ∉ piece := fun hmem => by
  rw [← flatten_wrap bytes] at h
  exact h (List.mem_flatten.2 ⟨piece, hp, hmem⟩)

namespace Rejoinable

variable {bytes : List UInt8} {statements : List (List UInt8)}

/-- The statements behind the first one can be put together, too. -/
theorem of_cons (h : Rejoinable (bytes :: statements)) : Rejoinable statements where
  noLineFeed b hb := h.noLineFeed b (List.mem_cons_of_mem _ hb)
  noReturn b hb := h.noReturn b (List.mem_cons_of_mem _ hb)
  breaks b hb := h.breaks b (List.mem_cons_of_mem _ hb)
  ends b hb := by
    have hne : statements ≠ [] := fun he => by simp [he] at hb
    refine h.ends b ?_
    rw [List.dropLast_cons_of_ne_nil hne]
    exact List.mem_cons_of_mem _ hb

/-- The last piece of the first statement is not broken off, unless nothing follows it. -/
theorem head_ends (h : Rejoinable (bytes :: statements)) {piece : List UInt8}
    (hlast : (wrap bytes).getLast? = some piece) :
    statements = [] ∨ ¬ (lineOf piece).BrokenOff := by
  rcases eq_or_ne statements [] with rfl | hne
  · exact .inl rfl
  · refine .inr fun hbroken => ?_
    obtain ⟨hlength, hsentence⟩ := brokenOff_lineOf.1 hbroken
    have hmem : bytes ∈ (bytes :: statements).dropLast := by
      rw [List.dropLast_cons_of_ne_nil hne]
      exact List.mem_cons_self
    rcases h.ends bytes hmem piece hlast with hshort | hend
    · exact hshort hlength
    · exact hsentence hend

/-- **The lines of what is printed are the pieces**, statement by statement. -/
theorem ofBytes_wrapped (h : Rejoinable statements) (withReturn : Bool) :
    Line.ofBytes (wrapped withReturn statements)
      = statements.flatMap fun bytes => (wrap bytes).map lineOf := by
  induction statements with
  | nil => rfl
  | cons bytes statements ih =>
    have hrest := ih h.of_cons
    unfold wrapped at hrest ⊢
    rw [List.flatMap_cons, List.flatMap_cons, ← hrest]
    exact ofBytes_pieces withReturn
      (fun _ hp => lineFeed_notMem_of_mem_wrap (h.noLineFeed bytes List.mem_cons_self) hp)
      (h.noReturn bytes List.mem_cons_self) _

end Rejoinable

/-! ## Gathering -/

/-- **The lines of a statement gather to the statement**, if its breaks do not stand behind a
sentence and its last piece is not broken off or has nothing behind it. -/
theorem gather_wrap {bytes : List UInt8} {behind : List Line}
    (hbreaks : ∀ piece ∈ (wrap bytes).dropLast, ¬ EndsSentence piece)
    (hend : ∀ piece, (wrap bytes).getLast? = some piece →
      behind = [] ∨ ¬ (lineOf piece).BrokenOff) {l : Line} {ls : List Line}
    (hls : (wrap bytes).map lineOf ++ behind = l :: ls) : gather l ls = (bytes, behind) := by
  -- along the pieces: each but the last is continued by the next one
  fun_induction wrap bytes generalizing l ls with
  | case1 bytes hle =>
    obtain ⟨rfl, rfl⟩ := List.cons.inj hls
    cases behind with
    | nil => rfl
    | cons m ms =>
      have hopen : ¬ (lineOf bytes).BrokenOff :=
        (hend bytes rfl).resolve_left (List.cons_ne_nil _ _)
      show gather (lineOf bytes) (m :: ms) = _
      rw [gather, if_neg (mt (Line.continues_iff _).1 hopen)]
      rfl
  | case2 bytes hlt ih =>
    obtain ⟨rfl, rfl⟩ := List.cons.inj hls
    have hne := wrap_ne_nil (bytes.drop 79)
    rw [List.dropLast_cons_of_ne_nil hne] at hbreaks
    obtain ⟨piece, pieces, hpieces⟩ := List.exists_cons_of_ne_nil hne
    have hgather :
        gather (lineOf piece) (pieces.map lineOf ++ behind) = (bytes.drop 79, behind) := by
      refine ih (fun p hp => hbreaks p (List.mem_cons_of_mem _ hp)) (fun p hp => ?_) ?_
      · refine hend p ?_
        rwa [List.getLast?_cons_of_ne_nil hne]
      · rw [hpieces]
        rfl
    have hbroken : (lineOf (bytes.take 79)).BrokenOff := by
      refine brokenOff_lineOf.2 ⟨?_, hbreaks _ List.mem_cons_self⟩
      rw [List.length_take]
      omega
    show gather (lineOf (bytes.take 79)) ((wrap (bytes.drop 79)).map lineOf ++ behind) = _
    rw [hpieces, List.map_cons, List.cons_append, gather,
      if_pos ((Line.continues_iff _).2 hbroken), hgather]
    show (bytes.take 79 ++ bytes.drop 79, behind) = _
    rw [List.take_append_drop]

end Statement

namespace LineReader

open Statement

/-- Where no line is left, no statement is answered. -/
theorem answers_statement_of_lines_nil {r : LineReader} (h : r.lines = []) (k : Nat) :
    (r.answers (List.replicate k .statement)).1 = List.replicate k none := by
  have hregroup := answers_regroup (List.replicate k .statement) r
  rw [h] at hregroup
  rw [hregroup.of_nil, List.length_replicate]

/-- **Statement after statement is put together**, and then there is none. The induction is on the
statements: each call gathers the pieces of one. -/
theorem answers_of_lines_wrap {statements : List (List UInt8)} (h : Rejoinable statements)
    {r : LineReader}
    (hlines : r.lines = statements.flatMap fun bytes => (wrap bytes).map lineOf) (k : Nat) :
    (r.answers (List.replicate (statements.length + k) .statement)).1
      = statements.map (fun bytes => some (Utf8.decodeLossy bytes)) ++ List.replicate k none := by
  induction statements generalizing r with
  | nil =>
    rw [List.length_nil, Nat.zero_add]
    exact answers_statement_of_lines_nil hlines k
  | cons bytes statements ih =>
    rw [List.flatMap_cons] at hlines
    obtain ⟨l, ls, hls⟩ : ∃ l ls, r.lines = l :: ls := by
      refine List.exists_cons_of_ne_nil fun hnil => wrap_ne_nil bytes ?_
      rw [hnil] at hlines
      exact List.map_eq_nil_iff.1 (List.append_eq_nil_iff.1 hlines.symm).1
    have hgather := gather_wrap (h.breaks bytes List.mem_cons_self)
      (fun piece hlast => (h.head_ends hlast).imp_left fun he => by rw [he]; rfl)
      (hlines.symm.trans hls)
    have hnext := lines_nextStatement r
    rw [hls, Statement.take, Statement.next?, hgather] at hnext
    obtain ⟨htext, hbehind⟩ := Prod.ext_iff.1 hnext
    have htext' : r.nextStatement.1 = some (Utf8.decodeLossy bytes) := htext
    have hrest := ih h.of_cons (r := r.nextStatement.2) hbehind
    rw [List.length_cons, Nat.add_right_comm, List.replicate_succ, List.map_cons,
      List.cons_append, ← hrest, ← htext']
    rfl

variable {fills : List Fill} {withReturn : Bool} {statements : List (List UInt8)}

/-- **The statements that are read are those that were broken.** However the printed bytes
come, a reader that is asked for statements answers each of them, leniently decoded, and
then nothing, however often it is asked; and a statement that is the encoding of a text is
answered as that text, wherever a break went through one of its characters. -/
theorem answers_wrapped (h : Rejoinable statements)
    (hfills : Fill.Bring fills (wrapped withReturn statements)) (k : Nat) :
    ((ofFills fills).answers (List.replicate (statements.length + k) .statement)).1
        = statements.map (fun bytes => some (Utf8.decodeLossy bytes)) ++ List.replicate k none ∧
      ∀ (i : Nat) (text : Text), statements[i]? = some (Utf8.encode text) →
        ((ofFills fills).answers (List.replicate (statements.length + k) .statement)).1[i]?
          = some (some text) := by
  have hlines : (ofFills fills).lines
      = statements.flatMap fun bytes => (wrap bytes).map lineOf := by
    rw [Interruption.lines_of_bring hfills]
    exact h.ofBytes_wrapped withReturn
  have hanswers := answers_of_lines_wrap h hlines k
  refine ⟨hanswers, fun i text hi => ?_⟩
  obtain ⟨hlt, -⟩ := List.getElem?_eq_some_iff.1 hi
  rw [hanswers, List.getElem?_append_left (by rwa [List.length_map]), List.getElem?_map, hi]
  show some (some (Utf8.decodeLossy (Utf8.encode text))) = _
  rw [Utf8.decodeLossy_encode]

/-- The width goes through a character of two bytes, and the printed bytes come ten at a
time. -/
theorem answers_wrapped_within_character :
    let statements := [Utf8.encode (List.replicate 78 'a' ++ ['é', 'b']), Utf8.encode ['c']]
    Rejoinable statements ∧
      Fill.Bring (Fill.pieces 9 (wrapped true statements)) (wrapped true statements) ∧
      ((ofFills (Fill.pieces 9 (wrapped true statements))).answers
          [.statement, .statement, .statement]).1[0]?
        = some (some (List.replicate 78 'a' ++ ['é', 'b'])) := by
  intro statements
  have hlong : wrap (Utf8.encode (List.replicate 78 'a' ++ ['é', 'b']))
      = [List.replicate 78 0x61 ++ [0xC3], [0xA9, 0x62]] := by
    rw [wrap_of_lt (by decide +kernel), wrap_of_le (by decide +kernel)]
    decide +kernel
  have hshort : wrap (Utf8.encode ['c']) = [[0x63]] := by
    rw [wrap_of_le (by decide +kernel)]
    decide +kernel
  have hrejoinable : Rejoinable statements := by
    refine ⟨by decide +kernel, ?_, ?_, ?_⟩
    · simp only [statements, List.forall_mem_cons, hlong, hshort]
      decide
    · simp only [statements, List.forall_mem_cons, hlong, hshort, EndsSentence]
      decide
    · simp only [statements, List.dropLast, List.forall_mem_cons, hlong]
      exact ⟨fun piece h => .inl (by cases h; decide), by simp⟩
  have hfills := Fill.bring_pieces 9 (wrapped true statements)
  exact ⟨hrejoinable, hfills, (answers_wrapped hrejoinable hfills 1).2 0 _ rfl⟩

end LineReader

end TexTranscript
