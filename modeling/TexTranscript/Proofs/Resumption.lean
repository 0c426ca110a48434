import TexTranscript.Command.Watch
import TexTranscript.Proofs.Reading
import TexTranscript.Proofs.Saving
import TexTranscript.Proofs.Watching

/-!
# A parse that is resumed

While latexmk keeps watching, its transcript is parsed round by round, and it is looked at
again after each: the lines that are left are made anew of the bytes that have not been
read. As long as the transcript stays as it is, these are the lines that the parse has left
(`Feed.ofBytes_unread_advanceLines`). So nothing is lost or read twice where it is resumed,
and in the end the parse has come to where it comes to in one go (`Watch.run_eq`).

The ledger is updated with the marks of one round after the other, and saved every time.
What is in its file in the end is what was saved last.

There is an end because a round takes more than one byte of the transcript, so that there
are fewer rounds than bytes (`Build.two_mul_reports_le`).

## Main definitions

* `MarkLedger.updates`, `MarkLedger.afterAll` – a ledger and the marks of several rounds.
* `Watch.ahead` – a watched parse with what is ahead of it.
* `Watch.Steady` – looking at the transcript shows the same, whatever is saved.

## Main statements

* `Build.consumeUntil_reports` – up to one more report, or to the end.
* `Build.two_mul_reports_le` – how many rounds there can be.
* `Watch.run_eq` – a parse that is resumed after every round.
* `Watch.keeps_run` – what it keeps, whatever becomes of the transcript.
-/

namespace TexTranscript

/-- A text has no more characters than it had bytes. -/
theorem Utf8.length_decodeLossy_le (bytes : List UInt8) :
    (decodeLossy bytes).length ≤ bytes.length := by
  unfold decodeLossy
  rw [List.length_map]
  fun_induction readings bytes with
  | case1 => exact Nat.le_refl 0
  | case2 b bytes _ ih => exact Nat.succ_le_succ ih
  | case3 b bytes l _ ih => exact Nat.succ_le_succ (ih.trans (complete_length_le ..))

/-! ## Lines that are made anew -/

/-- Of the bytes of some last lines these lines are made. -/
theorem Line.cut_flatMap_drop (bytes : List UInt8) (k : Nat) :
    cut (((cut bytes).drop k).flatMap source) = (cut bytes).drop k := by
  induction bytes using inductionOnCut generalizing k with
  | rest xs h =>
    cases k with
    | zero => rw [List.drop_zero, flatMap_source_cut]
    | succ k =>
      have hnil : (cut xs).drop (k + 1) = [] := by
        rw [cut_of_notMem h, opened]
        split
        · exact List.drop_nil
        · exact List.drop_nil
      rw [hnil]
      rfl
  | line xs bytes h ih =>
    cases k with
    | zero => rw [List.drop_zero, flatMap_source_cut]
    | succ k =>
      rw [cut_append_lineFeed h, List.drop_succ_cons]
      exact ih k

namespace Feed

/-- To note that the end was met where nothing is left changes nothing. -/
theorem unread_ended (f : Feed) (content : List UInt8) (b : Bool) :
    { f with ended := f.ended || (f.unread content = [] && b) }.unread content
      = f.unread content := by
  by_cases hnil : f.unread content = []
  · rw [hnil]
    unfold unread at hnil ⊢
    dsimp only
    split
    · rfl
    · next hended =>
      rw [Bool.not_eq_true, Bool.or_eq_false_iff] at hended
      rwa [if_neg (by simp [hended.1])] at hnil
  · have hf : (f.ended || (decide (f.unread content = []) && b)) = f.ended := by
      rw [decide_eq_false hnil, Bool.false_and, Bool.or_false]
    rw [hf]

/-- **Where lines were read, the lines behind them are left**, while the file stays as it is. What
was read is as long as the lines that were taken. -/
theorem ofBytes_unread_advanceLines (f : Feed) (content : List UInt8) (k : Nat) :
    Line.ofBytes ((f.advanceLines content k).unread content)
      = (Line.ofBytes (f.unread content)).drop k := by
  let lines := Line.cut (f.unread content)
  have hsource : f.unread content
      = (lines.take k).flatMap Line.source ++ (lines.drop k).flatMap Line.source := by
    rw [← List.flatMap_append, List.take_append_drop]
    exact (Line.flatMap_source_cut _).symm
  have hread : (f.advanceLines content k).unread content
      = (lines.drop k).flatMap Line.source := by
    have hle : ((lines.take k).flatMap Line.source).length ≤ (f.unread content).length := by
      rw [hsource, List.length_append]
      exact Nat.le_add_right ..
    have hadvance := unread_advance hle
    rw [hsource, List.drop_left] at hadvance
    rw [← hadvance]
    have hended :
        (f.advance content ((lines.take k).flatMap Line.source).length).ended = f.ended := by
      unfold advance
      split
      · rfl
      · rfl
    unfold advanceLines
    dsimp only
    rw [← hended]
    exact unread_ended ..
  rw [hread, Line.ofBytes, Line.cut_flatMap_drop, Line.ofBytes, List.map_drop]

end Feed

/-! ## How much is read -/

/-- How many bytes there are on some lines, without what ended them. -/
def Line.size (ls : List Line) : Nat := (ls.map (·.bytes.length)).sum

/-- There are no more bytes on some last lines than on all. -/
theorem Line.size_le_of_suffix {ls ls' : List Line} (h : ls' <:+ ls) : size ls' ≤ size ls := by
  obtain ⟨front, rfl⟩ := h
  unfold size
  rw [List.map_append, List.sum_append]
  exact Nat.le_add_left ..

/-- There are no more bytes on the lines than they were made of. -/
theorem Line.size_ofBytes_le (bytes : List UInt8) : size (ofBytes bytes) ≤ bytes.length := by
  induction bytes using inductionOnCut with
  | rest xs h =>
    rw [ofBytes_of_notMem h, opened]
    split
    · exact Nat.zero_le _
    · exact Nat.le_refl _
  | line xs bytes h ih =>
    have hclosed : (closed xs).bytes.length ≤ xs.length := by
      unfold closed
      dsimp only
      split
      · rw [List.length_dropLast]
        exact Nat.sub_le _ _
      · exact Nat.le_refl _
    rw [ofBytes_append_lineFeed h, List.length_append, List.length_cons]
    show (closed xs).bytes.length + size (ofBytes bytes) ≤ _
    omega

namespace Statement

/-- A statement has the bytes of the lines that it takes. -/
theorem size_gather (l : Line) (ls : List Line) :
    (gather l ls).1.length + Line.size (gather l ls).2 = l.bytes.length + Line.size ls := by
  induction ls generalizing l with
  | nil => rfl
  | cons m ls ih =>
    unfold gather
    split
    · rw [List.length_append, Nat.add_assoc, ih m]
      rfl
    · rfl

/-- The bytes of a statement are those that its lines lose. -/
theorem size_of_next? {ls rest : List Line} {statement : Text}
    (h : next? ls = some (statement, rest)) :
    ∃ bytes, statement = Utf8.decodeLossy bytes ∧ bytes.length + Line.size rest = Line.size ls := by
  cases ls with
  | nil => exact absurd h (Option.some_ne_none _).symm
  | cons l ls =>
    obtain ⟨rfl, rfl⟩ := Prod.mk.inj (Option.some.inj h)
    exact ⟨_, rfl, size_gather l ls⟩

end Statement

/-! ## One round more -/

/-- A parse that is stopped has asked its source in between. -/
theorem Grammar.consumeUntil_reads {σ ι ν R : Type} [LineSource R] (g : Grammar σ ι ν)
    (verbose : Bool) (stop : Position R σ → Bool) (p : Position R σ) :
    LineSource.Reads p.scope.unread (g.consumeUntil verbose stop p).scope.unread := by
  fun_induction consumeUntil g verbose stop p with
  | case1 p h => exact .nothing
  | case2 p h source hn => exact .of_takeStatement hn
  | case3 p h statement source hn q hs =>
    exact (LineSource.Reads.of_takeStatement hn).trans
      (dispatch_reads g verbose statement (p.withUnread source))
  | case4 p h statement source hn q hs ih =>
    have hd := dispatch_reads g verbose statement (p.withUnread source)
    exact ((LineSource.Reads.of_takeStatement hn).trans hd).trans ih

/-- An invariant holds wherever a parse stops. -/
theorem Grammar.Keeps.consumeUntil {σ ι ν R : Type} [LineSource R] {g : Grammar σ ι ν}
    {I : σ → Log → Prop} (h : g.Keeps I) (verbose : Bool) (stop : Position R σ → Bool)
    {p : Position R σ} (hp : I p.memory p.scope.log) :
    I (g.consumeUntil verbose stop p).memory (g.consumeUntil verbose stop p).scope.log := by
  fun_induction Grammar.consumeUntil g verbose stop p with
  | case1 p hd => exact hp
  | case2 p hd source hn => exact hp
  | case3 p hd statement source hn q hs =>
    rw [Bool.not_eq_true] at hd
    exact h.dispatch verbose statement (p := p.withUnread source) hd hp
  | case4 p hd statement source hn q hs ih =>
    rw [Bool.not_eq_true] at hd
    exact ih (h.dispatch verbose statement (p := p.withUnread source) hd hp)

namespace Build

open Grammar (Position)

variable {R : Type} [LineSource R] {master : Text} {verbose : Bool}

/-- A statement leads to at most one report more, and only if it ends a round. -/
theorem length_dispatch_reports (master : Text) (verbose : Bool) (statement : Text)
    (p : Position R Memory) :
    ((grammar master true).dispatch verbose statement p).memory.reports.length
        = p.memory.reports.length ∨
      (EndsRound statement ∧
        ((grammar master true).dispatch verbose statement p).memory.reports.length
          = p.memory.reports.length + 1) := by
  by_cases h : EndsRound statement
  · refine .inr ⟨h, ?_⟩
    rw [dispatch_roundEnd_watching h]
    exact List.length_append
  · exact .inl (congrArg List.length (dispatch_reports h p))

/-- More than so many rounds were reported. -/
def reportsMore (k : Nat) (p : Position R Memory) : Bool := decide (k < p.memory.reports.length)

/-- **A parse that stops at a report** comes to one report more, or to the end. -/
theorem consumeUntil_reports (master : Text) (verbose : Bool) {k : Nat} {p : Position R Memory}
    (hp : p.memory.reports.length = k) :
    (((grammar master true).consumeUntil verbose (reportsMore k) p).memory.reports.length = k ∧
      (grammar master true).consumeUntil verbose (reportsMore k) p
        = (grammar master true).consume verbose p) ∨
    ((grammar master true).consumeUntil verbose (reportsMore k) p).memory.reports.length
      = k + 1 := by
  fun_induction Grammar.consumeUntil (grammar master true) verbose (reportsMore k) p with
  | case1 p h => exact .inl ⟨hp, (Grammar.consume_of_done _ verbose h).symm⟩
  | case2 p h source hn => exact .inl ⟨hp, (Grammar.consume_of_none _ verbose h hn).symm⟩
  | case3 p h statement source hn q hs =>
    have hmore : k < q.memory.reports.length := of_decide_eq_true hs
    rcases length_dispatch_reports master verbose statement (p.withUnread source)
      with hlen | ⟨-, hlen⟩
    · exact absurd (hlen.trans hp) hmore.ne'
    · exact .inr (hlen.trans (congrArg (· + 1) hp))
  | case4 p h statement source hn q hs ih =>
    have hnot : ¬k < q.memory.reports.length := of_decide_eq_false (Bool.eq_false_iff.2 hs)
    rw [Grammar.consume_of_some _ verbose h hn]
    rcases length_dispatch_reports master verbose statement (p.withUnread source)
      with hlen | ⟨-, hlen⟩
    · exact ih (hlen.trans hp)
    · exact absurd (Nat.lt_of_lt_of_eq (Nat.lt_succ_self k)
        (hlen.trans (congrArg (· + 1) hp)).symm) hnot

/-- What ends a round takes more than one byte. -/
theorem two_le_of_endsRound {bytes : List UInt8} (h : EndsRound (Utf8.decodeLossy bytes)) :
    2 ≤ bytes.length := by
  have hc : (grammar [] true).classify (Utf8.decodeLossy bytes) = some .roundEnd := h
  obtain ⟨rest, hrest⟩ := Text.startsWith_iff.1 (startsWith_of_roundEnd hc)
  calc
    2 ≤ roundEnd.length := by decide
    _ ≤ (Utf8.decodeLossy bytes).length := by
      rw [hrest, List.length_append]
      exact Nat.le_add_right ..
    _ ≤ bytes.length := Utf8.length_decodeLossy_le bytes

/-- **How many rounds there can be**: each takes two bytes of what is left, at least, since no
statement ends a round that has fewer. -/
theorem two_mul_reports_le (master : Text) (verbose : Bool) (p : Position R Memory) :
    2 * ((grammar master true).consume verbose p).memory.reports.length
      ≤ 2 * p.memory.reports.length + Line.size (LineSource.lines p.scope.unread) := by
  fun_induction Grammar.consume (grammar master true) verbose p with
  | case1 p hd => exact Nat.le_add_right ..
  | case2 p hd source hn => exact Nat.le_add_right ..
  | case3 p hd statement source hn ih =>
    obtain ⟨bytes, rfl, hsize⟩ :=
      Statement.size_of_next? (LineSource.next?_of_takeStatement_some hn)
    have hleft := Line.size_le_of_suffix (Grammar.dispatch_reads (grammar master true) verbose
      (Utf8.decodeLossy bytes) (p.withUnread source)).lines_suffix
    have hunread : (p.withUnread source).scope.unread = source := rfl
    have hreports : (p.withUnread source).memory.reports = p.memory.reports := rfl
    rw [hunread] at hleft
    rcases length_dispatch_reports master verbose (Utf8.decodeLossy bytes) (p.withUnread source)
      with hlen | ⟨hends, hlen⟩
    · rw [hreports] at hlen
      omega
    · have htwo := two_le_of_endsRound hends
      rw [hreports] at hlen
      omega

end Build

/-! ## The marks of several rounds -/

namespace MarkLedger

/-- The updates of a ledger with the marks of several rounds, one after the other. -/
def updates (ledger : MarkLedger) : List (List Mark) → List MarkUpdate
  | [] => []
  | marks :: rest => (ledger.update marks).2 :: (ledger.update marks).1.updates rest

/-- The ledger after the marks of several rounds. -/
def afterAll (ledger : MarkLedger) (sets : List (List Mark)) : MarkLedger :=
  sets.foldl (fun ledger marks => (ledger.update marks).1) ledger

/-- The files after the ledger has been saved with the marks of several rounds, of which only
the last save counts. Without a round nothing is saved. -/
def savedAll (ledger : MarkLedger) (s : FileStore) (path : Text) (sets : List (List Mark)) :
    FileStore :=
  if sets = [] then s else (s.save path (Utf8.encode (ledger.afterAll sets).stored)).1

/-- To save the ledger after several rounds is to save it after the first, and then after the
others. -/
theorem savedAll_cons (ledger : MarkLedger) (s : FileStore) (path : Text) (marks : List Mark)
    (rest : List (List Mark)) :
    (ledger.update marks).1.savedAll
        (s.save path (Utf8.encode (ledger.update marks).1.stored)).1 path rest
      = ledger.savedAll s path (marks :: rest) := by
  unfold savedAll
  rw [if_neg (List.cons_ne_nil marks rest)]
  by_cases hrest : rest = []
  · rw [if_pos hrest, hrest]
    rfl
  · rw [if_neg hrest, FileStore.save_save]
    rfl

end MarkLedger

/-! ## Round by round -/

namespace Watch

open Grammar (Position)

variable {master : Text} {verbose : Bool} {content : List UInt8} {path : Text}

/-- **A watched parse with what is ahead of it** in a transcript of a certain content. -/
def ahead (content : List UInt8) (w : Watch) : Position (List Line) Build.Memory :=
  w.position.withUnread (Line.ofBytes (w.feed.unread content))

/-- Where a parse that goes on from there comes to. -/
def last (master : Text) (verbose : Bool) (content : List UInt8) (w : Watch) :
    Position (List Line) Build.Memory :=
  (Build.grammar master true).consume verbose (w.ahead content)

/-- The marks of the rounds that it still has to report. -/
def sets (master : Text) (verbose : Bool) (content : List UInt8) (w : Watch) : List (List Mark) :=
  ((w.last master verbose content).memory.reports.drop w.rounds).map (·.marks)

/-- **What is ahead of a parse that was resumed** are the lines that it has left. -/
theorem ahead_resume (w : Watch) :
    (w.resume master verbose content).ahead content
      = (w.resume master verbose content).position := by
  let lines := Line.ofBytes (w.feed.unread content)
  let p := (w.resume master verbose content).position
  have hsuffix : p.scope.unread <:+ lines :=
    (Grammar.consumeUntil_reads (Build.grammar master true) verbose _
      (w.ahead content)).lines_suffix
  have hfeed : (w.resume master verbose content).feed
      = w.feed.advanceLines content (lines.length - p.scope.unread.length) := rfl
  show p.withUnread _ = p
  rw [hfeed, Feed.ofBytes_unread_advanceLines, ← List.suffix_iff_eq_drop.1 hsuffix]
  rfl

/-- **A parse that is resumed** comes to its end, or to one round more, from which the rest of
the way is the same. -/
theorem resume_cases (w : Watch) :
    ((w.resume master verbose content).rounds = w.rounds ∧
      (w.resume master verbose content).position = w.last master verbose content) ∨
    ((w.resume master verbose content).rounds = w.rounds + 1 ∧
      (w.resume master verbose content).last master verbose content
        = w.last master verbose content) := by
  rcases Build.consumeUntil_reports master verbose (p := w.ahead content) rfl with
    ⟨hk, hend⟩ | hk
  · exact .inl ⟨hk, hend⟩
  · refine .inr ⟨hk, ?_⟩
    unfold last
    rw [ahead_resume]
    exact Grammar.consume_consumeUntil _ verbose _ (w.ahead content)

/-- The round that was reported last is the first of those that were to come. -/
theorem sets_of_resume {w : Watch}
    (hrounds : (w.resume master verbose content).rounds = w.rounds + 1)
    (hlast : (w.resume master verbose content).last master verbose content
      = w.last master verbose content) :
    w.sets master verbose content = (w.resume master verbose content).marks ::
      (w.resume master verbose content).sets master verbose content := by
  obtain ⟨-, rest, hrest⟩ := Build.consume_extends master true verbose
    ((w.resume master verbose content).ahead content)
  have hreports : (w.last master verbose content).memory.reports
      = (w.resume master verbose content).position.memory.reports ++ rest := by
    rw [← hlast, last, hrest, ahead_resume]
  have hlen : (w.resume master verbose content).position.memory.reports.length = w.rounds + 1 :=
    hrounds
  have hne : (w.resume master verbose content).position.memory.reports ≠ [] :=
    List.ne_nil_of_length_eq_add_one hlen
  obtain ⟨before, report, hbefore⟩ := List.eq_nil_or_concat' _ |>.resolve_left hne
  have hcount : before.length = w.rounds := by
    rw [hbefore, List.length_append] at hlen
    exact Nat.succ.inj hlen
  have hfrom : (before ++ [report] ++ rest).drop before.length = report :: rest := by
    rw [List.append_assoc, List.drop_left]
    rfl
  have hafter : (before ++ [report] ++ rest).drop (before.length + 1) = rest :=
    List.drop_left' List.length_append
  unfold sets marks
  rw [hlast, hrounds, hreports, hbefore, ← hcount, hfrom, hafter, List.getLast?_concat]
  rfl

/-- **Looking at the transcript shows the same**, also after something was saved. -/
structure Steady (look : StateM FileStore (List UInt8)) (path : Text) (content : List UInt8)
    (s : FileStore) : Prop where
  now : look s = (content, s)
  saved : ∀ bytes, look (s.save path bytes).1 = (content, (s.save path bytes).1)

/-- What is looked at stays steady when another file is saved. -/
theorem Steady.save {look : StateM FileStore (List UInt8)} {s : FileStore}
    (h : Steady look path content s) (bytes : List UInt8) :
    Steady look path content (s.save path bytes).1 := by
  refine ⟨h.saved bytes, fun bytes' => ?_⟩
  rw [FileStore.save_save]
  exact h.saved bytes'

/-- If no round is over, nothing is saved. -/
theorem run_of_end {files : Files (StateM FileStore)} {look : StateM FileStore (List UInt8)}
    {w : Watch} {s t : FileStore} (n : Nat) (ledger : MarkLedger) (hlook : look s = (content, t))
    (hk : (w.resume master verbose content).rounds = w.rounds) :
    run files look path master verbose (n + 1) ledger w s
      = ((w.resume master verbose content, []), t) := by
  unfold run
  dsimp only [bind, StateT.bind]
  rw [hlook]
  dsimp only
  rw [if_pos hk]
  rfl

/-- If a round is over, the ledger is saved, and then come the others. -/
theorem run_of_round (standardInput : List UInt8) {look : StateM FileStore (List UInt8)}
    {w : Watch} {s t : FileStore} (n : Nat) (ledger : MarkLedger) (hlook : look s = (content, t))
    (hk : (w.resume master verbose content).rounds ≠ w.rounds) :
    run (FileStore.files standardInput) look path master verbose (n + 1) ledger w s
      = let (ledger, update) := ledger.update (w.resume master verbose content).marks
        let ((last, updates), s') := run (FileStore.files standardInput) look path master verbose n
          ledger (w.resume master verbose content) (t.save path (Utf8.encode ledger.stored)).1
        ((last, update :: updates), s') := by
  rw [run]
  dsimp only [bind, StateT.bind]
  rw [hlook]
  dsimp only
  rw [if_neg hk]
  rfl

/-- **A parse that is resumed after every round** comes to where it comes to in one go. What is
parsed between two looks is what would have come next anyhow, as the transcript stays the same. -/
theorem run_eq (standardInput : List UInt8) {look : StateM FileStore (List UInt8)} {n : Nat}
    (ledger : MarkLedger) {w : Watch} {s : FileStore} (hlook : Steady look path content s)
    (hn : (w.sets master verbose content).length < n) :
    ∃ w' : Watch, w'.position = w.last master verbose content ∧
      run (FileStore.files standardInput) look path master verbose n ledger w s
        = ((w', ledger.updates (w.sets master verbose content)),
            ledger.savedAll s path (w.sets master verbose content)) := by
  induction n generalizing ledger w s with
  | zero => exact absurd hn (Nat.not_lt_zero _)
  | succ n ih =>
    rcases resume_cases (w := w) with ⟨hk, hend⟩ | ⟨hk, hlast⟩
    · have hsets : w.sets master verbose content = [] := by
        unfold sets
        rw [← hend, List.drop_eq_nil_of_le (Nat.le_of_eq hk)]
        rfl
      rw [hsets]
      exact ⟨_, hend, run_of_end n ledger hlook.now hk⟩
    · have hsets := sets_of_resume hk hlast
      rw [hsets, List.length_cons, Nat.succ_lt_succ_iff] at hn
      let marks := (w.resume master verbose content).marks
      obtain ⟨w', hw', hrest⟩ := ih (ledger.update marks).1
        (hlook.save (Utf8.encode (ledger.update marks).1.stored)) hn
      refine ⟨w', hw'.trans hlast, ?_⟩
      rw [run_of_round standardInput n ledger hlook.now (by rw [hk]; exact Nat.succ_ne_self _)]
      dsimp only
      rw [hrest, hsets, ← MarkLedger.savedAll_cons]
      rfl

/-- From the start, the whole transcript is ahead, and all its rounds are to come. -/
theorem last_start (master : Text) (verbose : Bool) (content : List UInt8) :
    (start master).last master verbose content
      = Build.parse master true verbose (Line.ofBytes content) :=
  (Build.parse_eq_consume master true verbose (Line.ofBytes content)).symm

/-- A transcript has fewer rounds than bytes, if it has any. -/
theorem length_sets_start_lt (master : Text) (verbose : Bool) {n : Nat} (hn : content.length ≤ n)
    (hpos : 0 < n) : ((start master).sets master verbose content).length < n := by
  have hreports := Build.two_mul_reports_le master verbose ((start master).ahead content)
  have hsize := Line.size_ofBytes_le content
  have hlen : ((start master).sets master verbose content).length
      = ((start master).last master verbose content).memory.reports.length :=
    List.length_map _
  have hahead : 2 * ((start master).last master verbose content).memory.reports.length
      ≤ Line.size (Line.ofBytes content) := hreports.trans (Nat.le_of_eq (Nat.zero_add _))
  omega

/-- **An invariant of latexmk holds after a watched parse**, whatever is shown when the transcript
is looked at. -/
theorem keeps_run {I : Build.Memory → Log → Prop} (h : (Build.grammar master true).Keeps I)
    (standardInput : List UInt8) (look : StateM FileStore (List UInt8)) (n : Nat)
    (ledger : MarkLedger) {w : Watch} (hw : I w.position.memory w.position.scope.log)
    (s : FileStore) :
    ∃ w' updates s',
      run (FileStore.files standardInput) look path master verbose n ledger w s
        = ((w', updates), s') ∧ I w'.position.memory w'.position.scope.log := by
  induction n generalizing ledger w s with
  | zero => exact ⟨w, [], s, rfl, hw⟩
  | succ n ih =>
    rcases hlook : look s with ⟨shown, t⟩
    have hnext : I (w.resume master verbose shown).position.memory
        (w.resume master verbose shown).position.scope.log :=
      h.consumeUntil verbose _ (p := w.position.withUnread _) hw
    by_cases hk : (w.resume master verbose shown).rounds = w.rounds
    · exact ⟨_, [], t, run_of_end n ledger hlook hk, hnext⟩
    · let updated := ledger.update (w.resume master verbose shown).marks
      obtain ⟨w', updates, s', hrest, hI⟩ := ih updated.1 hnext
        (t.save path (Utf8.encode updated.1.stored)).1
      refine ⟨w', updated.2 :: updates, s', ?_, hI⟩
      rw [run_of_round standardInput n ledger hlook hk]
      dsimp only
      rw [hrest]

end Watch

end TexTranscript
