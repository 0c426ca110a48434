import TexTranscript.Proofs.Watching

/-!
# Turns and runs

What a parser does can be told as a list of *turns*: the statements that it takes up
itself, each with what is then said of it – by the parser of another tool as well, if the
transcript is handed to one.

In the turns of latexmk those stand out that announce a run. Whether a statement does
can be told by looking at it. If it also holds the banner of Biber it does not, for
Biber's banner may stand anywhere in a line, and its rule comes first.

## Main definitions

* `Turn`, `Grammar.turns` – the turns of a parse.
* `Build.announcesRun` – the statement announces a run.

## Main statements

* `Grammar.keeps_turns` – an invariant of the turns so far and of the state.
* `Build.finding?_newRun_iff` – how latexmk recognizes that a run is announced.
* `splitOnP_concat_pos`, `splitOnP_concat_neg` – a list that is cut, and grows at its end.
-/

namespace TexTranscript

/-- **A turn of a parser**: a statement that it takes up, and what is said of it. -/
structure Turn where
  statement : Text
  said : List Message

namespace Grammar

variable {R σ ι ν : Type} [LineSource R]

/-- The turn in which a parser takes up a statement. -/
def turn (g : Grammar σ ι ν) (verbose : Bool) (statement : Text) (p : Position R σ) : Turn :=
  ⟨statement,
    (g.dispatch verbose statement p).scope.log.messages.drop p.scope.log.messages.length⟩

/-- **The turns of a parse** from a position on. -/
def turns (g : Grammar σ ι ν) (verbose : Bool) (p : Position R σ) : List Turn :=
  if p.scope.state.done then []
  else
    match _h : LineSource.takeStatement p.scope.unread with
    | (none, _) => []
    | (some statement, source) =>
      g.turn verbose statement (p.withUnread source) ::
        turns g verbose (g.dispatch verbose statement (p.withUnread source))
termination_by (LineSource.lines p.scope.unread).length
decreasing_by exact dispatch_length_lt g verbose _h

variable {g : Grammar σ ι ν} {verbose : Bool} {p : Position R σ}

/-- A parser that is done takes no more turns. -/
theorem turns_of_done (h : p.scope.state.done = true) : g.turns verbose p = [] := by
  rw [turns, if_pos h]

/-- Where no statement is left, no turn is taken. -/
theorem turns_of_none {source : R} (h : LineSource.takeStatement p.scope.unread = (none, source)) :
    g.turns verbose p = [] := by
  rw [turns]
  split
  · rfl
  · split
    · rfl
    · next h' => simp [h] at h'

/-- A turn is taken with the next statement, and the others after it. -/
theorem turns_of_some {source : R} {statement : Text} (hd : ¬p.scope.state.done = true)
    (h : LineSource.takeStatement p.scope.unread = (some statement, source)) :
    g.turns verbose p = g.turn verbose statement (p.withUnread source) ::
      g.turns verbose (g.dispatch verbose statement (p.withUnread source)) := by
  rw [turns, if_neg hd]
  split
  · next h' => simp [h] at h'
  · next h' =>
    rw [h, Prod.mk.injEq, Option.some.injEq] at h'
    rw [h'.1, h'.2]

/-- What is said in a turn is what it adds to the messages. -/
theorem said_eq {statement : Text} {ms : List Message}
    (h : (g.dispatch verbose statement p).scope.log.messages = p.scope.log.messages ++ ms) :
    (g.turn verbose statement p).said = ms := by
  show (g.dispatch verbose statement p).scope.log.messages.drop _ = ms
  rw [h]
  exact List.drop_left

/-- **An invariant of turns** holds at the end of a parse, if each turn keeps it. -/
theorem keeps_turns {J : List Turn → σ → Log → Prop}
    (step : ∀ {before : List Turn} {p : Position R σ} (statement : Text),
      J before p.memory p.scope.log → J (before ++ [g.turn verbose statement p])
        (g.dispatch verbose statement p).memory (g.dispatch verbose statement p).scope.log)
    {before : List Turn} (h : J before p.memory p.scope.log) :
    J (before ++ g.turns verbose p) (g.consume verbose p).memory
      (g.consume verbose p).scope.log := by
  fun_induction consume g verbose p generalizing before with
  | case1 p hd =>
    rw [turns_of_done hd, List.append_nil]
    exact h
  | case2 p hd source hn =>
    rw [turns_of_none hn, List.append_nil]
    exact h
  | case3 p hd statement source hn ih =>
    rw [turns_of_some hd hn, List.append_cons]
    exact ih (step (p := p.withUnread source) statement h)

end Grammar

/-! ## How a run is announced -/

/-- A text is of all characters but one just if that one does not occur. -/
theorem CharClass.forall_except_iff {c : Char} {t : Text} :
    (∀ x ∈ t, (except c).contains x = true) ↔ c ∉ t :=
  ⟨fun h hc => Bool.false_ne_true ((bne_self_eq_false c).symm.trans (h c hc)),
    fun h _ hx => bne_iff_ne.2 fun hc => h (hc ▸ hx)⟩

/-- What can be left of a text after a run of a class is what stands behind characters of the
class. -/
theorem Pattern.mem_stops_iff {c : CharClass} {t rest : Text} :
    rest ∈ stops c t ↔ ∃ run, t = run ++ rest ∧ ∀ x ∈ run, c.contains x = true := by
  induction t with
  | nil =>
    constructor
    · intro h
      exact ⟨[], (List.mem_singleton.1 h).symm, List.forall_mem_nil _⟩
    · rintro ⟨run, h, -⟩
      exact List.mem_singleton.2 (List.append_eq_nil_iff.1 h.symm).2
  | cons x t ih =>
    unfold stops
    rw [List.mem_cons]
    constructor
    · rintro (rfl | h)
      · exact ⟨[], rfl, List.forall_mem_nil _⟩
      · split at h
        · next hx =>
          obtain ⟨run, rfl, hrun⟩ := ih.1 h
          exact ⟨x :: run, rfl, List.forall_mem_cons.2 ⟨hx, hrun⟩⟩
        · exact absurd h List.not_mem_nil
    · rintro ⟨run, h, hrun⟩
      cases run with
      | nil => exact .inl h.symm
      | cons y run =>
        obtain ⟨rfl, rfl⟩ := List.cons.inj h
        obtain ⟨hx, hrun⟩ := List.forall_mem_cons.1 hrun
        rw [if_pos hx]
        exact .inr (ih.2 ⟨run, rfl, hrun⟩)

/-- **A literal behind anything** matches the texts that have it in their first line. -/
theorem Pattern.matchesStart_any_lit {s : String} (hs : '\n' ∉ s.toList) (t : Text) :
    (many .any ++ lit s).matchesStart t = Text.hasPart s.toList (t.takeWhile (· != '\n')) := by
  have hfound (rest : Text) (spans : List Span) :
      ((lit s).search (fun spans _ => some (spans.reverse.map Span.text)) spans rest).isSome = true
        ↔ ∃ behind, rest = s.toList ++ behind := by
    rw [← Text.startsWith_iff]
    show ((Text.after? s.toList rest).bind _).isSome = true
      ↔ (Text.after? s.toList rest).isSome = true
    cases Text.after? s.toList rest with
    | none => exact Iff.rfl
    | some behind => exact iff_of_true rfl rfl
  rw [Bool.eq_iff_iff, Text.hasPart_iff]
  unfold matchesStart
  rw [captures?_eq_search]
  show ((backoffs .any t []).findSome? _).isSome = true ↔ _
  rw [List.findSome?_isSome_iff, backoffs_eq, List.append_nil]
  -- a run of any characters stops at the first line feed, and the literal has none
  constructor
  · rintro ⟨rest, hrest, h⟩
    obtain ⟨run, rfl, hrun⟩ := mem_stops_iff.1 (List.mem_reverse.1 hrest)
    obtain ⟨behind, rfl⟩ := (hfound rest []).1 h
    have hall : ∀ x ∈ run ++ s.toList, (x != '\n') = true :=
      List.forall_mem_append.2 ⟨hrun, CharClass.forall_except_iff.2 hs⟩
    refine ⟨run, behind.takeWhile (· != '\n'), ?_⟩
    rw [← List.append_assoc, List.takeWhile_append_of_pos hall]
  · rintro ⟨run, behind, h⟩
    refine ⟨s.toList ++ (behind ++ t.dropWhile (· != '\n')), ?_, (hfound _ []).2 ⟨_, rfl⟩⟩
    rw [List.mem_reverse, mem_stops_iff]
    refine ⟨run, ?_, fun x hx => ?_⟩
    · rw [← List.append_assoc, ← List.append_assoc, ← h, List.takeWhile_append_dropWhile]
    · have hmem : x ∈ t.takeWhile (· != '\n') := by
        rw [h]
        exact List.mem_append_left _ (List.mem_append_left _ hx)
      exact List.mem_takeWhile_imp (p := (· != '\n')) hmem

namespace Build

/-- **The statement announces a run**: it begins like that, and its first line has no banner of
Biber. -/
def announcesRun (statement : Text) : Bool :=
  Text.startsWith "Run number".toList statement &&
    !Text.hasPart "This is Biber".toList (statement.takeWhile (· != '\n'))

/-- **Latexmk recognizes that a run is announced** by the start of the statement, if it does not
have the banner of Biber in it. -/
theorem finding?_newRun_iff {statement : Text} :
    finding? statement = some .newRun ↔ announcesRun statement = true := by
  have hrun := Pattern.matchesStart_lit "Run number" statement
  -- the rules in front want another first letter, except the one for Biber
  have hothers : (Pattern.lit "Run number").matchesStart statement = true →
      (Pattern.lit "This is " ++ .group (.firstOf engineNames)).matchesStart statement = false ∧
      (Pattern.lit "This is BibTeX").matchesStart statement = false ∧
      (Pattern.lit "Latexmk: Log file says output to").matchesStart statement = false ∧
      (Pattern.lit "This is makeindex").matchesStart statement = false ∧
      (Pattern.lit "Latexmk").matchesStart statement = false := by
    intro hm
    obtain ⟨rest, rfl⟩ := Text.startsWith_iff.1 (hrun.symm.trans hm)
    simp only [Pattern.matchesStart_lit]
    refine ⟨?_, rfl, rfl, rfl, rfl⟩
    unfold Pattern.matchesStart
    rw [Pattern.captures?_eq_search]
    rfl
  unfold announcesRun finding?
  rw [← Pattern.matchesStart_any_lit (by decide), ← hrun]
  simp only [rules, List.findSome?_cons, List.findSome?_nil, Rule.reading?_sign]
  revert hothers
  generalize (Pattern.lit "This is " ++ _).matchesStart statement = isTypesetting
  generalize (Pattern.lit "This is BibTeX").matchesStart statement = isBibtex
  generalize (Pattern.many CharClass.any ++ _).matchesStart statement = isBiber
  generalize (Pattern.lit "Latexmk: Log file says output to").matchesStart statement = isRoundEnd
  generalize (Pattern.lit "This is makeindex").matchesStart statement = isIndex
  generalize (Pattern.lit "Latexmk").matchesStart statement = isChatter
  generalize (Pattern.lit "Run number").matchesStart statement = isRun
  revert isTypesetting isBibtex isBiber isRoundEnd isIndex isChatter isRun
  decide

end Build

/-! ## Cutting a list -/

section

variable {α : Type} {p : α → Bool} {a : α}

/-- There is one piece more than there are separators. -/
theorem length_splitOnP (l : List α) : (l.splitOnP p).length = l.countP p + 1 := by
  induction l with
  | nil => rfl
  | cons b l ih =>
    rw [List.splitOnP_cons_eq_if_modifyHead, List.countP_cons]
    split
    · rw [List.length_cons, ih]
    · rw [List.length_modifyHead, ih]

/-- A separator at the end begins a new piece. -/
theorem splitOnP_concat_pos (h : p a = true) (l : List α) :
    (l ++ [a]).splitOnP p = l.splitOnP p ++ [[]] :=
  List.splitOnP_append_cons l [] h

/-- What is no separator goes to the last piece. -/
theorem splitOnP_concat_neg (h : p a = false) (l : List α) :
    (l ++ [a]).splitOnP p
      = (l.splitOnP p).dropLast ++ [(l.splitOnP p).getLastD [] ++ [a]] := by
  induction l with
  | nil => exact List.splitOnP_eq_singleton (List.forall_mem_singleton.2 h)
  | cons b l ih =>
    obtain ⟨piece, pieces, hl⟩ := List.exists_cons_of_ne_nil (List.splitOnP_ne_nil p l)
    simp only [List.cons_append, List.splitOnP_cons_eq_if_modifyHead, ih, hl]
    cases hb : p b with
    | true => rfl
    | false =>
      cases pieces with
      | nil => rfl
      | cons piece' pieces => rfl

end

end TexTranscript
