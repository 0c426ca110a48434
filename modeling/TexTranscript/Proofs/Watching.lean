import TexTranscript.Proofs.Discipline

/-!
# Watching

Whether latexmk keeps watching matters only where a round ends. Until then a parse
that watches and one that does not go the same way, statement by statement. At the
end of the first round the one reports it and goes on, and the other is done; what
the report says is what the other one ends with.

So the two are compared by an induction along the parse that watches, up to the
first end of a round. What comes behind it is only added to the messages and to the
reports.

## Main definitions

* `Build.CutShort` – a parse that ends with a round which the other one reports first.

## Main statements

* `Build.dispatch_watching` – a statement that ends no round does the same to both.
* `Build.extends_of_passes` – what was emitted and reported stays in front.
* `watching_extends_plain` – what watching adds to a parse.
-/

namespace TexTranscript

namespace Build

open Grammar (Position)

variable {R : Type} [LineSource R] {master : Text} {watching verbose : Bool}

/-- The statement ends a round. -/
def EndsRound (statement : Text) : Prop := finding? statement = some .roundEnd

/-! ## One statement -/

/-- **A statement that ends no round does the same**, whether latexmk watches or not. -/
theorem dispatch_watching {statement : Text} (h : ¬EndsRound statement) (p : Position R Memory) :
    (grammar master false).dispatch verbose statement p
      = (grammar master true).dispatch verbose statement p := by
  -- the rules are the same
  unfold Grammar.dispatch
  rw [show (grammar master true).classify = (grammar master false).classify from rfl]
  rcases hc : (grammar master false).classify statement with _ | found
  · rfl
  · cases found with
    | roundEnd => exact absurd hc h
    | _ => rfl

/-- Only the end of a round is reported. -/
theorem dispatch_reports {statement : Text} (h : ¬EndsRound statement) (p : Position R Memory) :
    ((grammar master watching).dispatch verbose statement p).memory.reports
      = p.memory.reports := by
  unfold Grammar.dispatch
  rcases hc : (grammar master watching).classify statement with _ | found
  · cases verbose with
    | true => rfl
    | false => rfl
  · cases found with
    | roundEnd => exact absurd hc h
    | newRun =>
      show ((beginRun p.memory).run verbose p.scope).1.reports = _
      unfold beginRun
      by_cases hr : p.memory.runs > 0
      · rw [if_pos hr]
        rfl
      · rw [if_neg hr]
        rfl
    | _ => rfl

/-- At the end of a round, latexmk reports it if it keeps watching. -/
theorem dispatch_roundEnd_watching {statement : Text} (h : EndsRound statement)
    (p : Position R Memory) :
    (grammar master true).dispatch verbose statement p
      = ⟨{ p.memory with
            rounds := p.memory.rounds + 1
            reports := p.memory.reports ++ [p.memory.report p.scope.state]
            phase := .idle },
          p.scope.emit (.latexmk (String.ofList statement))⟩ := by
  have hc : (grammar master true).classify statement = some .roundEnd := h
  unfold Grammar.dispatch
  rw [hc]
  rfl

/-- At the end of a round, latexmk is done if it does not keep watching. -/
theorem dispatch_roundEnd_plain {statement : Text} (h : EndsRound statement)
    (p : Position R Memory) :
    (grammar master false).dispatch verbose statement p
      = ⟨{ p.memory with rounds := p.memory.rounds + 1, phase := .roundFinished },
          (p.scope.emit (.latexmk (String.ofList statement))).record .finish⟩ := by
  have hc : (grammar master false).classify statement = some .roundEnd := h
  unfold Grammar.dispatch
  rw [hc]
  rfl

/-- A statement keeps what latexmk keeps that watches. -/
theorem dispatch_watchful {statement : Text} {p : Position R Memory}
    (h : Watchful p.memory p.scope.log) :
    Watchful ((grammar master true).dispatch verbose statement p).memory
      ((grammar master true).dispatch verbose statement p).scope.log := by
  rcases dispatch_step master true verbose statement p with heq | hstep
  · rw [heq]
    exact h
  · exact hstep.watchful h

/-! ## What comes behind -/

/-- A step only adds to the messages and to the reports. -/
theorem Step.extends {memory memory' : Memory} {log log' : Log}
    (h : Step master watching memory log memory' log') :
    log.messages <+: log'.messages ∧ memory.reports <+: memory'.reports := by
  rcases h.within_or_ends with hwithin | ⟨m, -, hends⟩
  · obtain ⟨ms, hmessages, -⟩ := hwithin.messages
    rw [hmessages, hwithin.reports]
    exact ⟨List.prefix_append _ _, List.prefix_rfl⟩
  · cases watching with
    | true =>
      obtain ⟨rfl, rfl⟩ := hends
      exact ⟨List.prefix_append _ _, List.prefix_append _ _⟩
    | false =>
      obtain ⟨rfl, rfl⟩ := hends
      exact ⟨List.prefix_append _ _, List.prefix_rfl⟩

/-- **What was emitted and reported stays in front.** Every step on the way only adds to them. -/
theorem extends_of_passes {p q : Position R Memory}
    (h : (grammar master watching).Passes verbose p q) :
    p.scope.log.messages <+: q.scope.log.messages ∧ p.memory.reports <+: q.memory.reports :=
  keeps_of_passes
    (I := fun memory log =>
      p.scope.log.messages <+: log.messages ∧ p.memory.reports <+: memory.reports)
    h ⟨List.prefix_rfl, List.prefix_rfl⟩ fun _ hstep hI =>
      ⟨hI.1.trans hstep.extends.1, hI.2.trans hstep.extends.2⟩

/-- A parse from any position on only adds to the messages and the reports. -/
theorem consume_extends (master : Text) (watching verbose : Bool) (p : Position R Memory) :
    (∃ after, ((grammar master watching).consume verbose p).scope.log.messages
        = p.scope.log.messages ++ after) ∧
      ∃ rest, ((grammar master watching).consume verbose p).memory.reports
        = p.memory.reports ++ rest := by
  obtain ⟨q, hq, hmemory, hlog, -⟩ :=
    Grammar.exists_passes_consume (grammar master watching) verbose p
  obtain ⟨⟨after, hafter⟩, rest, hrest⟩ := extends_of_passes hq
  rw [hmemory, hlog]
  exact ⟨⟨after, hafter.symm⟩, rest, hrest.symm⟩

/-! ## Up to the first end of a round -/

/-- **A parse is cut short**: it ends with the first round that another one tells of, in the
state in which that one reported it. -/
structure CutShort (plain watching : Position R Memory) (first : RoundReport) : Prop where
  messages : ∃ before m after,
    watching.scope.log.messages = before ++ m :: after ∧ m.endsRound = true ∧
      (∀ m' ∈ before, m'.endsRound = false) ∧ plain.scope.log.messages = before ++ [m]
  done : plain.scope.state.done = true
  rounds : plain.memory.rounds = 1
  runs : plain.memory.runs = first.runs
  outcome : plain.scope.state.tally.run = first.outcome
  total : plain.scope.state.tally.total = first.total
  marks : plain.scope.state.marks = first.marks

/-- Where nothing was reported, no message ends a round. -/
theorem Watchful.endsRound_eq_false {memory : Memory} {log : Log} (h : Watchful memory log)
    (hr : memory.reports = []) : ∀ m ∈ log.messages, m.endsRound = false := by
  have hcount := h.reports
  rw [hr, List.length_nil, eq_comm, List.countP_eq_zero] at hcount
  exact fun m hm => Bool.eq_false_of_not_eq_true (hcount m hm)

/-- At the first end of a round one parse is done and the other goes on. The statement is the same
for both parses, and whatever the other one adds comes behind it. -/
theorem cutShort_of_endsRound {statement : Text} (h : EndsRound statement) {p : Position R Memory}
    (hw : Watchful p.memory p.scope.log) (hr : p.memory.reports = []) :
    ∃ first rest,
      ((grammar master true).consume verbose
        ((grammar master true).dispatch verbose statement p)).memory.reports = first :: rest ∧
      CutShort
        ((grammar master false).consume verbose
          ((grammar master false).dispatch verbose statement p))
        ((grammar master true).consume verbose
          ((grammar master true).dispatch verbose statement p)) first := by
  have hrounds : p.memory.rounds = 0 := by
    rw [hw.rounds, hr]
    rfl
  have hc : (grammar master true).classify statement = some .roundEnd := h
  have hends : Message.endsRound (.latexmk (String.ofList statement)) = true :=
    (Message.endsRound_latexmk statement).trans (startsWith_of_roundEnd hc)
  have hsaid : (p.scope.emit (.latexmk (String.ofList statement))).log.messages
      = p.scope.log.messages ++ [.latexmk (String.ofList statement)] :=
    congrArg Log.messages (Scope.log_emit p.scope _)
  obtain ⟨⟨after, hafter⟩, rest, hrest⟩ := consume_extends master true verbose
    ((grammar master true).dispatch verbose statement p)
  rw [dispatch_roundEnd_watching h] at hafter hrest ⊢
  rw [dispatch_roundEnd_plain h, Grammar.consume_of_done (grammar master false) verbose rfl]
  refine ⟨p.memory.report p.scope.state, rest, ?_, ?_⟩
  · rw [hrest, hr]
    rfl
  refine ⟨⟨p.scope.log.messages, _, after, ?_, hends, hw.endsRound_eq_false hr, hsaid⟩, rfl, ?_,
    rfl, rfl, rfl, rfl⟩
  · rw [hafter, hsaid, List.append_assoc]
    rfl
  · exact congrArg (· + 1) hrounds

/-- **Two parses from one position**, before a round has ended: they end alike, or the one that does
not watch is cut short. -/
theorem consume_watching (master : Text) (verbose : Bool) (p : Position R Memory)
    (hw : Watchful p.memory p.scope.log) (hr : p.memory.reports = []) :
    (((grammar master true).consume verbose p).memory.reports = [] ∧
      (grammar master false).consume verbose p = (grammar master true).consume verbose p) ∨
    ∃ first rest,
      ((grammar master true).consume verbose p).memory.reports = first :: rest ∧
      CutShort ((grammar master false).consume verbose p)
        ((grammar master true).consume verbose p) first := by
  fun_induction Grammar.consume (grammar master true) verbose p with
  | case1 p hd => exact absurd hd (Bool.eq_false_iff.1 hw.going)
  | case2 p hd source hn =>
    rw [Grammar.consume_of_none (grammar master false) verbose hd hn]
    exact Or.inl ⟨hr, rfl⟩
  | case3 p hd statement source hn ih =>
    rw [Grammar.consume_of_some (grammar master false) verbose hd hn]
    by_cases hs : EndsRound statement
    · exact Or.inr (cutShort_of_endsRound hs (p := p.withUnread source) hw hr)
    · rw [dispatch_watching hs]
      exact ih (dispatch_watchful (p := p.withUnread source) hw)
        ((dispatch_reports hs (p.withUnread source)).trans hr)

end Build

variable {R : Type} [LineSource R]

/-- **Watching extends the plain parse.** If no round is reported both parses end alike. If one
is, the messages of the plain parse are those of the watching one up to the first that ends a
round, which is the last; and the plain parse is done, after one round, with the runs, the
counts and the marks that were reported of it. -/
theorem watching_extends_plain (master : Text) (verbose : Bool) (source : R) :
    ((Build.parse master true verbose source).memory.reports = [] →
      Build.parse master false verbose source = Build.parse master true verbose source) ∧
    ∀ first rest, (Build.parse master true verbose source).memory.reports = first :: rest →
      (∃ before m after,
        (Build.parse master true verbose source).scope.messages.toList = before ++ m :: after ∧
        m.endsRound = true ∧ (∀ m' ∈ before, m'.endsRound = false) ∧
        (Build.parse master false verbose source).scope.messages.toList = before ++ [m]) ∧
      (Build.parse master false verbose source).scope.state.done = true ∧
      (Build.parse master false verbose source).memory.rounds = 1 ∧
      (Build.parse master false verbose source).memory.runs = first.runs ∧
      (Build.parse master false verbose source).scope.state.tally.run = first.outcome ∧
      (Build.parse master false verbose source).scope.state.tally.total = first.total ∧
      (Build.parse master false verbose source).scope.state.marks = first.marks := by
  have hconsume := Build.consume_watching master verbose
    ((Build.grammar master true).begin source) ⟨rfl, rfl, rfl, rfl⟩ rfl
  rw [Build.parse_eq_consume, Build.parse_eq_consume]
  rcases hconsume with ⟨hnone, hsame⟩ | ⟨first, rest, hreports, hcut⟩
  · refine ⟨fun _ => hsame, fun first rest hreports => ?_⟩
    rw [hnone] at hreports
    exact absurd hreports (List.cons_ne_nil first rest).symm
  · constructor
    · intro hnone
      rw [hreports] at hnone
      exact absurd hnone (List.cons_ne_nil first rest)
    · intro first' rest' hreports'
      rw [hreports] at hreports'
      obtain ⟨rfl, -⟩ := List.cons.inj hreports'
      exact ⟨hcut.messages, hcut.done, hcut.rounds, hcut.runs, hcut.outcome, hcut.total, hcut.marks⟩

end TexTranscript
