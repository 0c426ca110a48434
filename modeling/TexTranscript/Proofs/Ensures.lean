import TexTranscript.Grammar.Basic

/-!
# What reactions ensure

The *log* of a parse is what it has done: the state it is in, and the messages
it has emitted. It says nothing of what is left to be read. So whatever holds of
a log after a reaction must hold for any line that a lookahead may bring, and
for anything that a nested parser may return; `Reaction.Ensures` collects these
obligations along a reaction, and `Reaction.run_ensures` is what they are good
for.

An invariant of a grammar relates what the grammar remembers to the log. To be
kept it has to hold at the start, to be ensured by each reaction to a statement
and to an early end, and to survive an echo (`Grammar.Keeps`). It then holds
after every parse, verbose or not, of every source.

## Main definitions

* `Log`, `Scope.log` – what a parse has done.
* `Reaction.Ensures` – what holds after a reaction, whatever is answered.
* `Grammar.Keeps` – invariants.

## Main statements

* `Reaction.run_ensures` – what is ensured holds when the reaction has been
  carried out.
* `Grammar.Keeps.parse` – an invariant holds after a parse.
-/

namespace TexTranscript

variable {R σ ι ν ρ α β : Type}

/-! ## Logs -/

/-- **What a parse has done.** -/
structure Log where
  state : ParseState := {}
  messages : List Message := []
deriving Repr, DecidableEq

namespace Log

/-- The log after a message. -/
def emit (log : Log) (m : Message) : Log := { log with messages := log.messages ++ [m] }

/-- The log after an entry into the state. -/
def record (log : Log) (e : ParseState.Entry) : Log := { log with state := log.state.record e }

/-- The log after a nested parser has returned. -/
def takeOver (log : Log) (nested : ParseState) (messages : List Message) : Log where
  state := log.state.record (.count (.absorb nested.outcome))
  messages := log.messages ++ messages

end Log

namespace Scope

/-- What a running parse has done. -/
def log (s : Scope R) : Log := ⟨s.state, s.messages.toList⟩

theorem log_emit (s : Scope R) (m : Message) : (s.emit m).log = s.log.emit m := by
  unfold log emit Log.emit
  rw [Array.toList_push]

theorem log_takeOver (s : Scope R) (h : Handback R ν) :
    (s.takeOver h).log = s.log.takeOver h.state h.messages.toList := by
  unfold log takeOver Log.takeOver
  rw [Array.toList_append]

end Scope

/-! ## Reactions -/

/-- A nested parser **can return** this with these messages. -/
def Nested.Returns (nested : Nested ν) (d : Delegated ν) (messages : List Message) : Prop :=
  ∃ (verbose : Bool) (ls : List Line), (nested.parse verbose ls).toDelegated = d ∧
    (nested.parse verbose ls).messages.toList = messages

/-- What a nested parser hands back is something that it can return. How the lines came in does not
matter to a nested parser, and so it can be taken to have read a list. -/
theorem Nested.returns_parse [LineSource R] (nested : Nested ν) (verbose : Bool) (r : R) :
    nested.Returns (nested.parse verbose r).toDelegated
      (nested.parse verbose r).messages.toList := by
  refine ⟨verbose, LineSource.lines r, ?_, ?_⟩
  · rw [← nested.parse_overLines]
    rfl
  · rw [← nested.parse_overLines]
    rfl

namespace Reaction

/-- **What holds after a reaction**, of its result and of the log, whatever is answered to
the requests for a line and whatever the nested parsers return. -/
def Ensures (Q : α → Log → Prop) : Reaction ν α → Log → Prop
  | done result, log => Q result log
  | emit message next, log => next.Ensures Q (log.emit message)
  | record entry next, log => next.Ensures Q (log.record entry)
  | inspect next, log => (next log.state).Ensures Q log
  | lookAhead next, log => ∀ line, (next line).Ensures Q log
  | delegate nested next, log =>
    ∀ d messages, nested.Returns d messages → (next d).Ensures Q (log.takeOver d.state messages)

variable {Q Q' : α → Log → Prop} {r : Reaction ν α}

/-- **What is ensured holds** when the reaction has been carried out. Whatever is found when it
looks ahead or hands the transcript over is among the answers for which the claim was made. -/
theorem run_ensures [LineSource R] (verbose : Bool) {s : Scope R} (h : r.Ensures Q s.log) :
    Q (r.run verbose s).1 (r.run verbose s).2.log := by
  induction r generalizing s with
  | done result => exact h
  | emit message next ih =>
    have h : next.Ensures Q (s.log.emit message) := h
    rw [← Scope.log_emit] at h
    exact ih h
  | record entry next ih => exact ih (s := s.record entry) h
  | inspect next ih => exact ih s.state h
  | lookAhead next ih =>
    -- the line that comes is one of those that are answered for
    exact ih _ (s := s.withUnread (LineSource.takeLine s.unread).2) (h _)
  | delegate nested next ih =>
    -- and what comes back is something that the nested parser can return
    have hn := h _ _ (nested.returns_parse verbose s.unread)
    rw [← Scope.log_takeOver s (nested.parse verbose s.unread)] at hn
    exact ih _ hn

/-- What is ensured can be weakened. -/
theorem Ensures.mono (hQ : ∀ a log, Q a log → Q' a log) {log : Log} (h : r.Ensures Q log) :
    r.Ensures Q' log := by
  induction r generalizing log with
  | done result => exact hQ result log h
  | emit message next ih => exact ih h
  | record entry next ih => exact ih h
  | inspect next ih => exact ih log.state h
  | lookAhead next ih => exact fun line => ih line (h line)
  | delegate nested next ih => exact fun d messages hd => ih d (h d messages hd)

/-- **In sequence**, the first reaction ensures what the second one starts from. So a reaction is
gone through from its beginning to its end, as it was written. -/
theorem ensures_bind {f : α → Reaction ν β} {Q : β → Log → Prop} {log : Log} :
    (r.bind f).Ensures Q log ↔ r.Ensures (fun a log' => (f a).Ensures Q log') log := by
  induction r generalizing log with
  | done result => exact Iff.rfl
  | emit message next ih => exact ih
  | record entry next ih => exact ih
  | inspect next ih => exact ih log.state
  | lookAhead next ih => exact forall_congr' fun line => ih line
  | delegate nested next ih =>
    exact forall_congr' fun d => forall_congr' fun messages => imp_congr_right fun _ => ih d

end Reaction

/-! ## Grammars -/

namespace Grammar

/-- **An invariant** of a grammar, of what it remembers and of the log. -/
structure Keeps (g : Grammar σ ι ν) (I : σ → Log → Prop) : Prop where
  start : I g.start {}
  react : ∀ {statement : Text} {found : ι} {memory : σ} {log : Log},
    g.classify statement = some found → log.state.done = false → I memory log →
      (g.react found statement memory).Ensures I log
  echo : ∀ {statement : Text} {memory : σ} {log : Log},
    g.classify statement = none → log.state.done = false → I memory log →
      I memory (log.emit (.verbatim (String.ofList statement)))
  atEnd : ∀ {memory : σ} {log : Log}, log.state.done = false → I memory log →
    (g.atEnd memory).Ensures I log

variable {g : Grammar σ ι ν} {I : σ → Log → Prop} [LineSource R]

/-- A statement keeps an invariant. A statement that no rule matches is echoed or dropped. -/
theorem Keeps.dispatch (h : g.Keeps I) (verbose : Bool) (statement : Text) {p : Position R σ}
    (hd : p.scope.state.done = false) (hp : I p.memory p.scope.log) :
    I (g.dispatch verbose statement p).memory (g.dispatch verbose statement p).scope.log := by
  unfold Grammar.dispatch
  split
  · next found hc => exact Reaction.run_ensures verbose (h.react hc hd hp)
  · next hc =>
    split
    · rw [Scope.log_emit]
      exact h.echo hc hd hp
    · exact hp

/-- An invariant is kept by any number of statements: this is the one induction over a parse. -/
theorem Keeps.consume (h : g.Keeps I) (verbose : Bool) {p : Position R σ}
    (hp : I p.memory p.scope.log) :
    I (g.consume verbose p).memory (g.consume verbose p).scope.log := by
  fun_induction Grammar.consume g verbose p with
  | case1 p hd => exact hp
  | case2 p hd source hn => exact hp
  | case3 p hd statement source hn ih =>
    rw [Bool.not_eq_true] at hd
    exact ih (h.dispatch verbose statement (p := p.withUnread source) hd hp)

/-- **An invariant holds after a parse**, of any source, verbose or not. What is done at the end of
the transcript is a reaction like any other. -/
theorem Keeps.parse (h : g.Keeps I) (verbose : Bool) (source : R) :
    I (g.parse verbose (g.begin source)).memory
      (g.parse verbose (g.begin source)).scope.log := by
  have hc := h.consume verbose (p := g.begin source) h.start
  unfold Grammar.parse
  dsimp only
  split
  · exact hc
  · next hd =>
    rw [Bool.not_eq_true] at hd
    exact Reaction.run_ensures verbose (h.atEnd hd hc)

/-- An invariant holds of whatever the grammar returns as a nested parser. -/
theorem Keeps.of_returns (h : g.Keeps I) {close : σ → ρ} {d : Delegated ρ}
    {messages : List Message} (hr : (g.nested close).Returns d messages) :
    ∃ memory, d.closing = close memory ∧ I memory ⟨d.state, messages⟩ := by
  obtain ⟨verbose, ls, rfl, rfl⟩ := hr
  exact ⟨(g.parse verbose (g.begin ls)).memory, rfl, h.parse verbose ls⟩

end Grammar

end TexTranscript
