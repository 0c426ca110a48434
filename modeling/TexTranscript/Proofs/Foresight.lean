import TexTranscript.Proofs.Dialects
import TexTranscript.Proofs.Encoding
import TexTranscript.Proofs.Reading

/-!
# A finished parse ignores what follows

A parser takes lines in different units: statements, which may be several lines put
together; single lines, which a reaction asks for; and whatever a nested parser takes. In
none of them does it look at a line that it leaves unread. Whether a line is continued can
be seen from the line itself, so that a statement ends without a look at the next one.

So if lines are left unread in the end, they might have been any others, or none: what has
happened would have been the same, and these lines would be left. This is an induction
along the way in which a parse unfolds, from its end to its beginning. It needs a line that
is left, for a parser that met with the end of the transcript has been told so.

## Main statements

* `Statement.gather_exchange` – a statement ends without a look at the next one.
* `Grammar.Unfolds.exchange` – what happens does not depend on what is left.
* `finished_parse_indifferent` – the reports of two transcripts that differ in what is left.
-/

namespace TexTranscript

/-! ## What is taken off the front -/

/-- **A statement ends without a look at what follows**: the lines that it leaves can be exchanged
for any others. Whether a statement goes on is decided by the length of the line before, and so no
line that was not taken was looked at. -/
theorem Statement.gather_exchange {l : Line} {ls behind : List Line} (hne : behind ≠ [])
    (h : (gather l ls).2 = behind) :
    ∃ front, ls = front ++ behind ∧
      ∀ behind', gather l (front ++ behind') = ((gather l ls).1, behind') := by
  induction ls generalizing l with
  | nil => exact absurd h.symm hne
  | cons m ls ih =>
    by_cases hc : l.continues
    · have hg : gather l (m :: ls) = (l.bytes ++ (gather m ls).1, (gather m ls).2) := by
        rw [gather, if_pos hc]
      rw [hg] at h ⊢
      obtain ⟨front, hls, hexchange⟩ := ih h
      refine ⟨m :: front, congrArg (m :: ·) hls, fun behind' => ?_⟩
      rw [List.cons_append, gather, if_pos hc, hexchange]
    · have hg : gather l (m :: ls) = (l.bytes, m :: ls) := by rw [gather, if_neg hc]
      rw [hg] at h ⊢
      refine ⟨[], h, fun behind' => ?_⟩
      cases behind' with
      | nil => rfl
      | cons m' ls' => rw [List.nil_append, gather, if_neg hc]

/-- The lines behind a statement can be exchanged. -/
theorem Statement.take_exchange {ls front behind : List Line} {statement : Text}
    (hne : behind ≠ []) (h : take ls = (some statement, front ++ behind)) :
    ∃ front', ls = front' ++ behind ∧
      ∀ behind', take (front' ++ behind') = (some statement, front ++ behind') := by
  cases ls with
  | nil => exact absurd (congrArg Prod.fst h) (Option.some_ne_none _).symm
  | cons l ls =>
    have hstatement : Utf8.decodeLossy (gather l ls).1 = statement :=
      Option.some.inj (congrArg Prod.fst h)
    have hrest : (gather l ls).2 = front ++ behind := congrArg Prod.snd h
    obtain ⟨taken, hls, hexchange⟩ :=
      gather_exchange (List.append_ne_nil_of_right_ne_nil front hne) hrest
    refine ⟨l :: (taken ++ front), ?_, fun behind' => ?_⟩
    · rw [hls, List.cons_append, List.append_assoc]
    · rw [List.cons_append, List.append_assoc]
      show (some (Utf8.decodeLossy (gather l (taken ++ (front ++ behind'))).1),
        (gather l (taken ++ (front ++ behind'))).2) = _
      rw [hexchange, hstatement]

/-- The lines behind a line can be exchanged. -/
theorem Line.take_exchange {ls front behind : List Line} {line : Option Text}
    (hne : behind ≠ []) (h : take ls = (line, front ++ behind)) :
    ∃ front', ls = front' ++ behind ∧
      ∀ behind', take (front' ++ behind') = (line, front ++ behind') := by
  cases ls with
  | nil => exact absurd (List.append_eq_nil_iff.1 (congrArg Prod.snd h).symm).2 hne
  | cons l ls =>
    obtain ⟨rfl, rfl⟩ := Prod.mk.inj h
    exact ⟨l :: front, rfl, fun behind' => rfl⟩

/-! ## What is left in the end -/

namespace Grammar

variable {σ ι ν : Type} {g : Grammar σ ι ν} {M : Message → Prop}

/-- **What happens does not depend on what is left.** If there are lines behind those that an
activity comes to, they can be exchanged for any others, and the same happens. The induction is on
the unfolding, from its end: the lines that are left at the end are left at every step before, so
all questions are answered in the same way in front of others. -/
theorem Unfolds.exchange {activity : Activity σ ν} {state : ParseState}
    {source unread left behind : List Line} {hs : List Happening} {memory : σ}
    (h : g.Unfolds activity state source hs memory unread) (hne : behind ≠ [])
    (hunread : unread = left ++ behind) :
    ∃ front, source = front ++ behind ∧
      ∀ behind', g.Unfolds activity state (front ++ behind') hs memory (left ++ behind') := by
  induction h generalizing left with
  | finished hd => exact ⟨left, hunread, fun _ => .finished hd⟩
  | ranOut hd hn _ ih =>
    -- no line is left where the transcript has come to its end
    obtain ⟨front, hfront, -⟩ := ih hunread
    have hnil := (LineSource.lines_of_takeStatement_none hn).2
    rw [LineSource.lines_list, hfront] at hnil
    exact absurd (List.append_eq_nil_iff.1 hnil).2 hne
  | overlooked hd hn hm _ ih =>
    obtain ⟨front, rfl, hrest⟩ := ih hunread
    obtain ⟨front', hsource, htake⟩ := Statement.take_exchange hne hn
    exact ⟨front', hsource, fun behind' => .overlooked hd (htake behind') hm (hrest behind')⟩
  | recognized hd hn hc _ ih =>
    obtain ⟨front, rfl, hrest⟩ := ih hunread
    obtain ⟨front', hsource, htake⟩ := Statement.take_exchange hne hn
    exact ⟨front', hsource, fun behind' => .recognized hd (htake behind') hc (hrest behind')⟩
  | reacted _ ih =>
    obtain ⟨front, hsource, hrest⟩ := ih hunread
    exact ⟨front, hsource, fun behind' => (hrest behind').reacted⟩
  | ended => exact ⟨left, hunread, fun _ => .ended⟩
  | emit _ ih =>
    obtain ⟨front, hsource, hrest⟩ := ih hunread
    exact ⟨front, hsource, fun behind' => (hrest behind').emit⟩
  | record _ ih =>
    obtain ⟨front, hsource, hrest⟩ := ih hunread
    exact ⟨front, hsource, fun behind' => (hrest behind').record⟩
  | inspect _ ih =>
    obtain ⟨front, hsource, hrest⟩ := ih hunread
    exact ⟨front, hsource, fun behind' => (hrest behind').inspect⟩
  | lookAhead hn _ ih =>
    obtain ⟨front, rfl, hrest⟩ := ih hunread
    obtain ⟨front', hsource, htake⟩ := Line.take_exchange hne hn
    exact ⟨front', hsource, fun behind' => .lookAhead (htake behind') (hrest behind')⟩
  | delegate _ _ ihInner ih =>
    -- what the nested parser leaves is what goes on, with the same lines behind it
    obtain ⟨front, rfl, hrest⟩ := ih hunread
    obtain ⟨front', hsource, hinner⟩ := ihInner rfl
    exact ⟨front', hsource, fun behind' => .delegate (hinner behind') (hrest behind')⟩

/-- **A parse does not depend on the lines that it leaves**, if it leaves any. The parse is
unfolded, the lines behind it are exchanged in the tree, and the tree is put together again. -/
theorem Unfoldable.parse_exchange (hg : g.Unfoldable M) (verbose : Bool)
    {ls behind : List Line} (hne : behind ≠ [])
    (h : (g.parse verbose (g.begin (ls ++ behind))).scope.unread = behind)
    (behind' : List Line) :
    g.parse verbose (g.begin (ls ++ behind'))
      = (g.parse verbose (g.begin (ls ++ behind))).withUnread behind' := by
  obtain ⟨hs, memory, unread, hu, -⟩ := hg (ls ++ behind)
  have hparse := hu.parse_eq verbose
  rw [hparse] at h ⊢
  obtain ⟨front, hfront, hexchange⟩ := hu.exchange hne (h.trans (List.nil_append _).symm)
  obtain rfl := List.append_cancel_right hfront
  exact (hexchange behind').parse_eq verbose

/-- The report of a parse that unfolds does not depend on what it has left unread, either. -/
theorem Unfoldable.report_exchange (hg : g.Unfoldable M) (verbose : Bool)
    {ls behind : List Line} (hne : behind ≠ [])
    (h : (g.report verbose (ls ++ behind)).unread = behind) (behind' : List Line) :
    g.report verbose (ls ++ behind')
      = { g.report verbose (ls ++ behind) with unread := behind' } :=
  congrArg (fun p : Position (List Line) σ => Report.ofScope p.scope 1)
    (Unfoldable.parse_exchange hg verbose hne h behind')

end Grammar

/-- **A report does not depend on the lines that are left**, if there are any. This is so of the
grammars of all seven tools, since their parses unfold. -/
theorem parseTranscript_exchange (tool : Tool) (master : Text) (verbose : Bool)
    {ls behind : List Line} (hne : behind ≠ [])
    (h : (parseTranscript tool master verbose (ls ++ behind)).unread = behind)
    (behind' : List Line) :
    parseTranscript tool master verbose (ls ++ behind')
      = { parseTranscript tool master verbose (ls ++ behind) with unread := behind' } := by
  by_cases ht : tool = .latexmk
  · subst ht
    have hparse := Grammar.Unfoldable.parse_exchange (Build.unfoldable master false) verbose hne h
      behind'
    exact congrArg (fun p : Grammar.Position (List Line) Build.Memory =>
      { Report.ofScope p.scope p.memory.runs with rounds := p.memory.reports }) hparse
  · obtain ⟨_, _, g, hg, hreport⟩ := exists_unfoldable ht master
    rw [hreport] at h ⊢
    rw [hreport]
    exact Grammar.Unfoldable.report_exchange hg verbose hne h behind'

/-! ## Bytes -/

/-- Behind a line feed the lines begin anew. -/
theorem Line.ofBytes_append {bytes : List UInt8} (h : bytes.getLast? = some lineFeed)
    (behind : List UInt8) : ofBytes (bytes ++ behind) = ofBytes bytes ++ ofBytes behind := by
  induction bytes using inductionOnCut with
  | rest xs hxs => exact absurd (List.mem_of_getLast? h) hxs
  | line xs bytes hxs ih =>
    rw [List.append_assoc, List.cons_append, ofBytes_append_lineFeed hxs,
      ofBytes_append_lineFeed hxs, List.cons_append]
    cases bytes with
    | nil => rfl
    | cons b bytes =>
      rw [List.getLast?_append_of_ne_nil _ (List.cons_ne_nil _ _), List.getLast?_cons_cons] at h
      rw [ih h]

/-- There are lines where there are bytes. -/
theorem Line.ofBytes_ne_nil {bytes : List UInt8} (h : bytes ≠ []) : ofBytes bytes ≠ [] := by
  intro hnil
  have hsource := flatMap_source_cut bytes
  rw [List.map_eq_nil_iff.1 hnil] at hsource
  exact h hsource.symm

/-- What bytes come to in whatever pieces is what their lines come to. -/
theorem parseTranscript_of_bring (tool : Tool) (master : Text) (verbose : Bool)
    {fills : List Fill} {bytes : List UInt8} (h : Fill.Bring fills bytes) :
    parseTranscript tool master verbose (LineReader.ofFills fills)
      = parseTranscript tool master verbose (Line.ofBytes bytes) := by
  rw [parseTranscript_eq_lines]
  exact congrArg (parseTranscript tool master verbose) (Interruption.lines_of_bring h)

/-- **A finished parse does not depend on what follows.** Two transcripts begin with the same bytes,
up to a line feed, and go on with others, those of the first one being some; and they may come in
whatever pieces. If a parse of the first leaves just the lines unread that these others make, then a
parse of the second yields the same messages, outcome, marks and runs, and leaves just the lines
unread that are different. By its lines, a transcript is in two parts at the line feed, and a report
depends on nothing but lines. -/
theorem finished_parse_indifferent (tool : Tool) (master : Text) (verbose : Bool)
    {bytes behind behind' : List UInt8} {fills fills' : List Fill}
    (hbytes : bytes.getLast? = some lineFeed) (hbehind : behind ≠ [])
    (hfills : Fill.Bring fills (bytes ++ behind)) (hfills' : Fill.Bring fills' (bytes ++ behind'))
    (hunread : (parseTranscript tool master verbose (LineReader.ofFills fills)).unread
      = Line.ofBytes behind) :
    parseTranscript tool master verbose (LineReader.ofFills fills')
      = { parseTranscript tool master verbose (LineReader.ofFills fills) with
          unread := Line.ofBytes behind' } := by
  rw [parseTranscript_of_bring tool master verbose hfills, Line.ofBytes_append hbytes]
    at hunread ⊢
  rw [parseTranscript_of_bring tool master verbose hfills', Line.ofBytes_append hbytes]
  exact parseTranscript_exchange tool master verbose (Line.ofBytes_ne_nil hbehind) hunread _

/-- A line by which BibTeX says that it is done. It is as long as a line can be without being
broken off, and the sentence ends with it. -/
def dashes : Text := List.replicate 3 '-' ++ List.replicate 75 'x' ++ ['.']

/-- BibTeX is done at the line of dashes, whatever follows. -/
theorem unread_dashes (behind : List UInt8) :
    (parseTranscript .bibtex [] false
      (Line.ofBytes (Utf8.encode dashes ++ lineFeed :: behind))).unread = Line.ofBytes behind := by
  let g : Grammar Unit Bibliography.BibtexFinding Unit := Bibliography.bibtex
  let p := g.begin (Line.ofBytes (Utf8.encode dashes ++ lineFeed :: behind))
  have hlines : Line.ofBytes (Utf8.encode dashes ++ lineFeed :: behind)
      = ⟨Utf8.encode dashes, true⟩ :: Line.ofBytes behind :=
    Line.ofBytes_append_lineFeed (by decide) behind
  have hgather : Statement.gather ⟨Utf8.encode dashes, true⟩ (Line.ofBytes behind)
      = (Utf8.encode dashes, Line.ofBytes behind) := by
    cases Line.ofBytes behind with
    | nil => rfl
    | cons l ls => exact if_neg (by decide)
  have htake : LineSource.takeStatement p.scope.unread = (some dashes, Line.ofBytes behind) := by
    show Statement.take (Line.ofBytes _) = _
    rw [hlines]
    show (some (Utf8.decodeLossy (Statement.gather _ _).1), (Statement.gather _ _).2) = _
    rw [hgather, Utf8.decodeLossy_encode]
  have hdispatch : g.dispatch false dashes (p.withUnread (Line.ofBytes behind))
      = ⟨(), { state := { done := true }, unread := Line.ofBytes behind }⟩ := by
    unfold Grammar.dispatch
    have hc : g.classify dashes = some .finished := by decide
    rw [hc]
    rfl
  show (g.parse false p).scope.unread = _
  rw [Grammar.parse_of_some false rfl htake, hdispatch, Grammar.parse_of_done false rfl]

/-- BibTeX is done at a line of seventy-nine bytes, and leaves unread whatever follows. -/
theorem finished_parse_indifferent_dashes :
    parseTranscript .bibtex [] false
        (LineReader.ofFills [.bytes (Utf8.encode dashes), .bytes [lineFeed, 0x62]])
      = { parseTranscript .bibtex [] false
            (LineReader.ofFills [.bytes (Utf8.encode dashes ++ [lineFeed]), .bytes [0x61]]) with
          unread := Line.ofBytes [0x62] } := by
  have hfills : Fill.Bring [.bytes (Utf8.encode dashes ++ [lineFeed]), .bytes [0x61]]
      (Utf8.encode dashes ++ [lineFeed] ++ [0x61]) := by decide
  have hfills' : Fill.Bring [.bytes (Utf8.encode dashes), .bytes [lineFeed, 0x62]]
      (Utf8.encode dashes ++ [lineFeed] ++ [0x62]) := by decide
  refine finished_parse_indifferent .bibtex [] false (by decide) (by decide) hfills hfills' ?_
  rw [parseTranscript_of_bring .bibtex [] false hfills]
  exact unread_dashes [0x61]

end TexTranscript
