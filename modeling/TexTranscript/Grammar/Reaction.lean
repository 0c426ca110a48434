import TexTranscript.Grammar.State
import TexTranscript.Stream.Source

/-!
# Reactions

When a rule recognizes a statement, the grammar *reacts*: it emits messages,
makes entries into the state, looks at the lines that follow, or hands the
transcript to the parser of another tool. A reaction is the sequence of these
requests, with whatever depends on an answer as a function of it. It is a value
like any other; only `Reaction.run` carries it out.

So a reaction cannot read a line except by asking for one, and it cannot tell
a verbose parse from a quiet one. It can be carried out on any line source, and
all that matters of the source is the lines that are left in it
(`Reaction.run_overLines`).

## Handing the transcript over

A `Nested` parser goes on reading where the parser stopped that asked for it. It
returns what it emitted, the state it ended in, and the source as it left it.
The counts it ended with are absorbed by the state of the parser that asked for
it; nothing else of that state changes. The parameter `ν` of a reaction is what
the nested parsers remember when they are done.

## Main definitions

* `Reaction` – sequences of requests.
* `Nested`, `Delegated`, `Handback` – parsers that the transcript can be handed
  to, and what they return.
* `Scope` – the state, the messages and the source of a running parse.
* `Reaction.run` – carries a reaction out.
-/

namespace TexTranscript

/-- What a parser returns to the one that handed it the transcript. -/
structure Delegated (ν : Type) where
  state : ParseState
  /-- What the nested grammar remembers. -/
  closing : ν

/-- **What is handed back** after a nested parse: besides what is returned, the
messages that were emitted and the source to go on with. -/
structure Handback (R ν : Type) extends Delegated ν where
  messages : Array Message
  unread : R

/-- What is handed back, with the lines that are left. -/
def Handback.overLines {R ν : Type} [LineSource R] (h : Handback R ν) :
    Handback (List Line) ν :=
  { h with unread := LineSource.lines h.unread }

/-- **A parser that the transcript can be handed to.** It parses any source,
verbosely or quietly, does nothing to it but ask, and depends on nothing but the
lines that are left in it. -/
structure Nested (ν : Type) : Type 1 where
  parse : {R : Type} → [LineSource R] → Bool → R → Handback R ν
  reads : ∀ {R : Type} [LineSource R] (verbose : Bool) (r : R),
    LineSource.Reads r (parse verbose r).unread
  parse_overLines : ∀ {R : Type} [LineSource R] (verbose : Bool) (r : R),
    (parse verbose r).overLines = parse verbose (LineSource.lines r)

/-- **A sequence of requests**, with a result at its end. -/
inductive Reaction (ν α : Type) : Type 1 where
  | done (result : α)
  | emit (message : Message) (next : Reaction ν α)
  | record (entry : ParseState.Entry) (next : Reaction ν α)
  /-- Asks for the state. -/
  | inspect (next : ParseState → Reaction ν α)
  /-- Asks for the next physical line, if there is one. -/
  | lookAhead (next : Option Text → Reaction ν α)
  /-- Hands the transcript to a nested parser. -/
  | delegate (nested : Nested ν) (next : Delegated ν → Reaction ν α)

/-- **A running parse**: its state, what it has emitted, what it reads from. -/
structure Scope (R : Type) where
  state : ParseState := {}
  messages : Array Message := #[]
  unread : R

namespace Scope

variable {R ν : Type}

/-- The scope after a message. -/
def emit (s : Scope R) (m : Message) : Scope R := { s with messages := s.messages.push m }

/-- The scope after an entry into its state. -/
def record (s : Scope R) (e : ParseState.Entry) : Scope R :=
  { s with state := s.state.record e }

/-- The scope with another source. -/
def withUnread {S : Type} (s : Scope R) (unread : S) : Scope S :=
  ⟨s.state, s.messages, unread⟩

/-- The scope after a nested parser has returned. -/
def takeOver (s : Scope R) (h : Handback R ν) : Scope R where
  state := s.state.record (.count (.absorb h.state.outcome))
  messages := s.messages ++ h.messages
  unread := h.unread

/-- The scope, with the lines that are left as its source. -/
def overLines [LineSource R] (s : Scope R) : Scope (List Line) :=
  s.withUnread (LineSource.lines s.unread)

@[simp] theorem unread_emit (s : Scope R) (m : Message) : (s.emit m).unread = s.unread := rfl

@[simp] theorem unread_record (s : Scope R) (e : ParseState.Entry) :
    (s.record e).unread = s.unread := rfl

@[simp] theorem unread_takeOver (s : Scope R) (h : Handback R ν) :
    (s.takeOver h).unread = h.unread := rfl

@[simp] theorem unread_withUnread {S : Type} (s : Scope R) (unread : S) :
    (s.withUnread unread).unread = unread := rfl

end Scope

namespace Reaction

variable {ν α β : Type}

/-- One sequence of requests after another. -/
def bind (r : Reaction ν α) (f : α → Reaction ν β) : Reaction ν β :=
  match r with
  | done result => f result
  | emit message next => emit message (next.bind f)
  | record entry next => record entry (next.bind f)
  | inspect next => inspect fun s => (next s).bind f
  | lookAhead next => lookAhead fun line => (next line).bind f
  | delegate nested next => delegate nested fun d => (next d).bind f

instance : Monad (Reaction ν) where
  pure := done
  bind := bind

variable {R : Type} [LineSource R]

/-- **Carries a reaction out**, on behalf of a verbose or a quiet parse. -/
def run (verbose : Bool) : Reaction ν α → Scope R → α × Scope R
  | done result, s => (result, s)
  | emit message next, s => next.run verbose (s.emit message)
  | record entry next, s => next.run verbose (s.record entry)
  | inspect next, s => (next s.state).run verbose s
  | lookAhead next, s =>
    let (line, unread) := LineSource.takeLine s.unread
    (next line).run verbose (s.withUnread unread)
  | delegate nested next, s =>
    let h := nested.parse verbose s.unread
    (next h.toDelegated).run verbose (s.takeOver h)

/-- **A reaction does nothing to its source but ask.** -/
theorem run_reads (verbose : Bool) (r : Reaction ν α) (s : Scope R) :
    LineSource.Reads s.unread (r.run verbose s).2.unread := by
  induction r generalizing s with
  | done result => exact .nothing
  | emit message next ih => exact ih (s.emit message)
  | record entry next ih => exact ih (s.record entry)
  | inspect next ih => exact ih s.state s
  | lookAhead next ih =>
    exact (LineSource.Reads.nothing.line).trans
      (ih (LineSource.takeLine s.unread).1 (s.withUnread (LineSource.takeLine s.unread).2))
  | delegate nested next ih =>
    exact (nested.reads verbose s.unread).trans (ih _ (s.takeOver _))

/-- **Only the lines matter.** A reaction does the same to a source as to the
lines that are left in it. -/
theorem run_overLines (verbose : Bool) (r : Reaction ν α) (s : Scope R) :
    r.run verbose s.overLines = (r.run verbose s).map id Scope.overLines := by
  induction r generalizing s with
  | done result => rfl
  | emit message next ih => exact ih (s.emit message)
  | record entry next ih => exact ih (s.record entry)
  | inspect next ih => exact ih s.state s
  | lookAhead next ih =>
    have hl := LineSource.lines_takeLine s.unread
    show (next (Line.take (LineSource.lines s.unread)).1).run verbose
      (s.overLines.withUnread (Line.take (LineSource.lines s.unread)).2) = _
    rw [← hl]
    exact ih _ (s.withUnread (LineSource.takeLine s.unread).2)
  | delegate nested next ih =>
    have hn := nested.parse_overLines verbose s.unread
    show (next (nested.parse verbose (LineSource.lines s.unread)).toDelegated).run verbose
      (s.overLines.takeOver (nested.parse verbose (LineSource.lines s.unread))) = _
    rw [← hn]
    exact ih _ (s.takeOver (nested.parse verbose s.unread))

/-- **Carrying out in sequence.** -/
theorem run_bind (verbose : Bool) (r : Reaction ν α) (f : α → Reaction ν β) (s : Scope R) :
    (r.bind f).run verbose s = (f (r.run verbose s).1).run verbose (r.run verbose s).2 := by
  induction r generalizing s with
  | done result => rfl
  | emit message next ih => exact ih (s.emit message)
  | record entry next ih => exact ih (s.record entry)
  | inspect next ih => exact ih s.state s
  | lookAhead next ih => exact ih _ (s.withUnread (LineSource.takeLine s.unread).2)
  | delegate nested next ih => exact ih _ (s.takeOver _)

/-! ## What grammars ask for -/

/-- Emits a message. -/
def say (m : Message) : Reaction ν Unit := emit m (done ())

/-- Makes an entry. -/
def enter (e : ParseState.Entry) : Reaction ν Unit := record e (done ())

/-- The next physical line, if there is one. -/
def nextLine : Reaction ν (Option Text) := lookAhead done

/-- The state. -/
def getState : Reaction ν ParseState := inspect done

/-- What a nested parser returns. -/
def handTo (nested : Nested ν) : Reaction ν (Delegated ν) := delegate nested done

/-- Ends the parse after this reaction. -/
def finish : Reaction ν Unit := enter .finish

/-- Passes a statement on. -/
def info (text : Text) : Reaction ν Unit := say (.info (String.ofList text))

/-- Reports a warning, and counts it. -/
def warning (text : Text) : Reaction ν Unit := do
  say (.warning (String.ofList text) none)
  enter (.count .warning)

/-- Reports an error, and counts it. -/
def error (text : Text) : Reaction ν Unit := do
  say (.error (String.ofList text) none)
  enter (.count .error)

/-- Reports a fatal error, which counts as an error as well. -/
def fatal (text : Text) : Reaction ν Unit := do
  say (.fatal (String.ofList text))
  enter (.count .error)
  enter (.count .fatal)

/-- Reports a warning at a line of a source file, marks it and counts it. -/
def locatedWarning (text : Text) (loc : Location) : Reaction ν Unit := do
  enter (.addMark ⟨loc.file, loc.line, .warning, String.ofList text⟩)
  say (.warning (String.ofList text) (some loc))
  enter (.count .warning)

/-- Reports an error at a line of a source file, marks it and counts it. -/
def locatedError (text : Text) (loc : Location) : Reaction ν Unit := do
  enter (.addMark ⟨loc.file, loc.line, .error, String.ofList text⟩)
  say (.error (String.ofList text) (some loc))
  enter (.count .error)

end Reaction

end TexTranscript
