import TexTranscript.Proofs.Recognition

/-!
# How a parse unfolds

What happens in the course of a parse can be told without saying whether the
parser is verbose: it overlooks statements that none of its rules matches, it
emits messages, it makes entries into its state, and it hands the transcript to
other parsers, in the course of which the like happens again. A *happening* is
one of these, so that what happens is a tree – a delegated parse is a branch of
it.

Whatever a parse leaves behind can be read off the tree. Its messages are those
of the happenings, where a statement that was overlooked gives a message only if
the parser is verbose. Its state is what the entries of the parser itself make
of it (`ParseState.replay`); of a branch it takes over nothing but the counts,
all of them (`Happening.amounts`), whether or not they were made in the same run.

`Grammar.Unfolds` tells what happens by rules of its own: one for each thing that
a parser can be asked to do. It mentions neither verbosity nor messages, and it
looks at nothing of a nested parse but what happened in it. That every parse is
as it is told is `Grammar.Unfolds.parse_eq`; that there is something to tell,
whatever the transcript, is `Grammar.unfoldable`.

## Main definitions

* `Happening` – what happens.
* `Happening.allMessages`, `Happening.amounts`, `ParseState.replay` – what can be
  read off happenings.
* `Grammar.Unfolds` – which happenings a parse unfolds as.

## Main statements

* `Grammar.Unfolds.parse_eq` – a parse is what can be read off its happenings.
* `Grammar.unfoldable` – every parse of a grammar unfolds, if that is true of the
  parsers it hands the transcript to.
-/

namespace TexTranscript

/-- **What happens in the course of a parse.** -/
inductive Happening where
  /-- A statement that no rule matches of the parser whose turn it is. -/
  | overlooked (statement : Text)
  | emitted (message : Message)
  | entered (entry : ParseState.Entry)
  /-- The transcript was handed over, and this happened until it came back. -/
  | delegated (within : List Happening)

namespace Happening

mutual

/-- The messages that it comes to in a verbose parse, or in a quiet one. -/
def messages (verbose : Bool) : Happening → List Message
  | overlooked statement => if verbose then [.verbatim (String.ofList statement)] else []
  | emitted message => [message]
  | entered _ => []
  | delegated within => allMessages verbose within

/-- **The messages of happenings**, in their order. -/
def allMessages (verbose : Bool) : List Happening → List Message
  | [] => []
  | h :: hs => messages verbose h ++ allMessages verbose hs

end

mutual

/-- What it adds to the counts. -/
def amount : Happening → Outcome
  | overlooked _ => .clean
  | emitted _ => .clean
  | entered (.count step) => step.amount
  | entered _ => .clean
  | delegated within => amounts within

/-- **What happenings add to the counts**, at whatever depth, in whatever run. -/
def amounts : List Happening → Outcome
  | [] => .clean
  | h :: hs => amount h + amounts hs

end

end Happening

namespace ParseState

/-- **What a happening makes of the state.** Of a parse that the transcript was handed to,
only the counts are added. -/
def after (s : ParseState) : Happening → ParseState
  | .overlooked _ => s
  | .emitted _ => s
  | .entered e => s.record e
  | .delegated within =>
    { s with
      tally := ⟨s.tally.run + Happening.amounts within, s.tally.total + Happening.amounts within⟩ }

/-- What happenings make of the state, one after the other. -/
def replay (s : ParseState) (hs : List Happening) : ParseState := hs.foldl after s

@[simp] theorem replay_nil (s : ParseState) : s.replay [] = s := rfl

@[simp] theorem replay_cons (s : ParseState) (h : Happening) (hs : List Happening) :
    s.replay (h :: hs) = (s.after h).replay hs := rfl

theorem replay_append (s : ParseState) (hs hs' : List Happening) :
    s.replay (hs ++ hs') = (s.replay hs).replay hs' := List.foldl_append

/-- What happens adds its amount to the counts. -/
theorem outcome_after (s : ParseState) (h : Happening) :
    (s.after h).outcome = s.outcome + h.amount := by
  cases h with
  | overlooked statement => exact (Outcome.add_clean _).symm
  | emitted message => exact (Outcome.add_clean _).symm
  | entered e =>
    cases e with
    | count step =>
      cases step with
      | newRun => exact (Outcome.add_clean _).symm
      | _ => rfl
    | _ => exact (Outcome.add_clean _).symm
  | delegated within => rfl

/-- **The counts are cumulative**: they are the sum of all that happened adds. -/
theorem outcome_replay (s : ParseState) (hs : List Happening) :
    (s.replay hs).outcome = s.outcome + Happening.amounts hs := by
  induction hs generalizing s with
  | nil => exact (Outcome.add_clean _).symm
  | cons h hs ih =>
    rw [replay_cons, ih, outcome_after, Outcome.add_assoc]
    rfl

/-- What a parse counts from the start on is what happened in it adds. -/
theorem outcome_replay_empty (hs : List Happening) :
    (({} : ParseState).replay hs).outcome = Happening.amounts hs := by
  rw [outcome_replay]
  exact Outcome.clean_add _

/-- Taking over what a delegated parse counted in the end is adding what happened in it. -/
theorem after_delegated (s : ParseState) (within : List Happening) :
    s.after (.delegated within)
      = s.record (.count (.absorb (({} : ParseState).replay within).outcome)) := by
  rw [outcome_replay_empty]
  rfl

end ParseState

namespace Grammar

variable {R σ ι ν : Type}

/-- **What a parser is at**: it rests between two statements, or it carries out a reaction,
which is the last one at the end of the transcript. -/
inductive Activity (σ ν : Type) : Type 1 where
  | resting (memory : σ)
  | reacting (last : Bool) (rest : Reaction ν σ)

/-- **How a parse unfolds.** From an activity, a state and a source, such and such happens,
and then the parser remembers something and leaves a source behind. -/
inductive Unfolds [LineSource R] : {σ ι ν : Type} → Grammar σ ι ν → Activity σ ν → ParseState →
    R → List Happening → σ → R → Prop
  /-- The tool has said that it is done. -/
  | finished {σ ι ν : Type} {g : Grammar σ ι ν} {memory : σ} {state : ParseState} {source : R}
      (hd : state.done = true) :
      Unfolds g (.resting memory) state source [] memory source
  /-- The transcript ends too early. -/
  | ranOut {σ ι ν : Type} {g : Grammar σ ι ν} {memory memory' : σ} {state : ParseState}
      {source source' unread : R} {hs : List Happening} (hd : state.done = false)
      (hn : LineSource.takeStatement source = (none, source'))
      (rest : Unfolds g (.reacting true (g.atEnd memory)) state source' hs memory' unread) :
      Unfolds g (.resting memory) state source hs memory' unread
  /-- No rule matches a statement. -/
  | overlooked {σ ι ν : Type} {g : Grammar σ ι ν} {memory memory' : σ} {state : ParseState}
      {source source' unread : R} {statement : Text} {hs : List Happening}
      (hd : state.done = false)
      (hn : LineSource.takeStatement source = (some statement, source'))
      (hm : ∀ rule ∈ g.rules, rule.pattern.matchesStart statement = false)
      (rest : Unfolds g (.resting memory) state source' hs memory' unread) :
      Unfolds g (.resting memory) state source (.overlooked statement :: hs) memory' unread
  /-- A rule reads something off a statement. -/
  | recognized {σ ι ν : Type} {g : Grammar σ ι ν} {memory memory' : σ} {state : ParseState}
      {source source' unread : R} {statement : Text} {found : ι} {hs : List Happening}
      (hd : state.done = false)
      (hn : LineSource.takeStatement source = (some statement, source'))
      (hc : g.classify statement = some found)
      (rest : Unfolds g (.reacting false (g.react found statement memory)) state source' hs
        memory' unread) :
      Unfolds g (.resting memory) state source hs memory' unread
  /-- The reaction is over, and the parser rests. -/
  | reacted {σ ι ν : Type} {g : Grammar σ ι ν} {memory memory' : σ} {state : ParseState}
      {source unread : R} {hs : List Happening}
      (rest : Unfolds g (.resting memory) state source hs memory' unread) :
      Unfolds g (.reacting false (.done memory)) state source hs memory' unread
  /-- The last reaction is over. -/
  | ended {σ ι ν : Type} {g : Grammar σ ι ν} {memory : σ} {state : ParseState} {source : R} :
      Unfolds g (.reacting true (.done memory)) state source [] memory source
  | emit {σ ι ν : Type} {g : Grammar σ ι ν} {memory : σ} {state : ParseState} {last : Bool}
      {message : Message} {next : Reaction ν σ} {source unread : R} {hs : List Happening}
      (rest : Unfolds g (.reacting last next) state source hs memory unread) :
      Unfolds g (.reacting last (.emit message next)) state source (.emitted message :: hs)
        memory unread
  | record {σ ι ν : Type} {g : Grammar σ ι ν} {memory : σ} {state : ParseState} {last : Bool}
      {entry : ParseState.Entry} {next : Reaction ν σ} {source unread : R} {hs : List Happening}
      (rest : Unfolds g (.reacting last next) (state.record entry) source hs memory unread) :
      Unfolds g (.reacting last (.record entry next)) state source (.entered entry :: hs)
        memory unread
  | inspect {σ ι ν : Type} {g : Grammar σ ι ν} {memory : σ} {state : ParseState} {last : Bool}
      {next : ParseState → Reaction ν σ} {source unread : R} {hs : List Happening}
      (rest : Unfolds g (.reacting last (next state)) state source hs memory unread) :
      Unfolds g (.reacting last (.inspect next)) state source hs memory unread
  | lookAhead {σ ι ν : Type} {g : Grammar σ ι ν} {memory : σ} {state : ParseState} {last : Bool}
      {line : Option Text} {next : Option Text → Reaction ν σ} {source source' unread : R}
      {hs : List Happening} (hn : LineSource.takeLine source = (line, source'))
      (rest : Unfolds g (.reacting last (next line)) state source' hs memory unread) :
      Unfolds g (.reacting last (.lookAhead next)) state source hs memory unread
  /-- Another grammar parses from the start, and then the reaction goes on where it stopped. -/
  | delegate {σ ι ν σ' ι' ν' : Type} {g : Grammar σ ι ν} {memory : σ} {state : ParseState}
      {last : Bool} {nested : Grammar σ' ι' ν'} {close : σ' → ν} {memory' : σ'}
      {next : Delegated ν → Reaction ν σ} {source source' unread : R}
      {within hs : List Happening}
      (inner : Unfolds nested (.resting nested.start) {} source within memory' source')
      (rest : Unfolds g (.reacting last (next ⟨ParseState.replay {} within, close memory'⟩))
        (state.after (.delegated within)) source' hs memory unread) :
      Unfolds g (.reacting last (.delegate (nested.nested close) next)) state source
        (.delegated within :: hs) memory unread

variable [LineSource R] {g : Grammar σ ι ν}

/-! ## A parse is as it unfolds -/

/-- A parser that is done does nothing. -/
theorem parse_of_done (verbose : Bool) {p : Position R σ} (hd : p.scope.state.done = true) :
    g.parse verbose p = p := by
  unfold parse
  rw [consume_of_done g verbose hd]
  exact if_pos hd

/-- Where no statement is left, a parse does what is done at an early end. -/
theorem parse_of_none (verbose : Bool) {p : Position R σ} {source : R}
    (hd : p.scope.state.done = false)
    (hn : LineSource.takeStatement p.scope.unread = (none, source)) :
    g.parse verbose p = (p.withUnread source).follow verbose (g.atEnd p.memory) := by
  have hd' : ¬p.scope.state.done = true := by simp [hd]
  unfold parse
  rw [consume_of_none g verbose hd' hn]
  exact if_neg hd'

/-- Where a statement is left, a parse goes on behind what that leads to. -/
theorem parse_of_some (verbose : Bool) {p : Position R σ} {source : R} {statement : Text}
    (hd : p.scope.state.done = false)
    (hn : LineSource.takeStatement p.scope.unread = (some statement, source)) :
    g.parse verbose p = g.parse verbose (g.dispatch verbose statement (p.withUnread source)) := by
  have hd' : ¬p.scope.state.done = true := by simp [hd]
  unfold parse
  rw [consume_of_some g verbose hd' hn]

/-- The position that a reaction leads to which left something to remember and a scope. -/
def conclude (g : Grammar σ ι ν) (verbose last : Bool) (reacted : σ × Scope R) : Position R σ :=
  if last then ⟨reacted.1, reacted.2⟩ else g.parse verbose ⟨reacted.1, reacted.2⟩

/-- The position that an activity leads to. -/
def Activity.result (g : Grammar σ ι ν) (verbose : Bool) (scope : Scope R) :
    Activity σ ν → Position R σ
  | resting memory => g.parse verbose ⟨memory, scope⟩
  | reacting last rest => g.conclude verbose last (rest.run verbose scope)

/-- A message goes between those before it and those after it. -/
theorem push_append (messages : Array Message) (m : Message) (ms : List Message) :
    messages.push m ++ ms.toArray = messages ++ (m :: ms).toArray := by
  apply Array.ext'
  simp

/-- **An activity leads to where it unfolds.** What was emitted before stays in front. The induction
is on how the activity unfolds, one case for each thing that a parser can do. -/
theorem Unfolds.result_eq {activity : Activity σ ν} {state : ParseState} {source unread : R}
    {hs : List Happening} {memory : σ}
    (h : g.Unfolds activity state source hs memory unread) (verbose : Bool)
    (messages : Array Message) :
    activity.result g verbose ⟨state, messages, source⟩
      = ⟨memory, state.replay hs, messages ++ (Happening.allMessages verbose hs).toArray,
          unread⟩ := by
  induction h generalizing messages with
  | @finished _ _ _ g memory state source hd =>
    show g.parse verbose ⟨memory, state, messages, source⟩ = _
    rw [parse_of_done verbose hd]
    simp [Happening.allMessages]
  | @ranOut _ _ _ g memory _ state source source' _ _ hd hn _ ih =>
    show g.parse verbose ⟨memory, state, messages, source⟩ = _
    rw [parse_of_none verbose hd hn]
    exact ih messages
  | @overlooked _ _ _ g memory _ state source source' _ statement hs hd hn hm _ ih =>
    show g.parse verbose ⟨memory, state, messages, source⟩ = _
    rw [parse_of_some verbose hd hn]
    have hc : g.classify statement = none := classify_eq_none hm
    unfold dispatch
    rw [hc]
    cases verbose with
    | true =>
      have hi := ih (messages.push (.verbatim (String.ofList statement)))
      rw [push_append] at hi
      exact hi
    | false => exact ih messages
  | @recognized _ _ _ g memory _ state source source' _ statement found hs hd hn hc _ ih =>
    show g.parse verbose ⟨memory, state, messages, source⟩ = _
    rw [parse_of_some verbose hd hn]
    unfold dispatch
    rw [hc]
    exact ih messages
  | reacted _ ih => exact ih messages
  | ended => simp [Activity.result, conclude, Reaction.run, Happening.allMessages]
  | @emit _ _ _ g memory state last message next source unread hs _ ih =>
    have hi := ih (messages.push message)
    rw [push_append] at hi
    exact hi
  | record _ ih => exact ih messages
  | inspect _ ih => exact ih messages
  | @lookAhead _ _ _ g _ state last _ next source _ _ _ hn _ ih =>
    show g.conclude verbose last ((next (LineSource.takeLine source).1).run verbose
      ⟨state, messages, (LineSource.takeLine source).2⟩) = _
    rw [hn]
    exact ih messages
  | @delegate _ _ _ _ _ _ g memory state last nested close memory' next source source' unread
      within hs _ _ ihInner ih =>
    -- the nested parser starts without a message, and what it emitted is put behind
    have hn : nested.parse verbose (nested.begin source)
        = ⟨memory', ParseState.replay {} within,
            (Happening.allMessages verbose within).toArray, source'⟩ := by
      have hi := ihInner #[]
      rwa [Array.empty_append] at hi
    have hr : Reaction.run verbose (.delegate (nested.nested close) next) ⟨state, messages, source⟩
        = (next ⟨ParseState.replay {} within, close memory'⟩).run verbose
            ⟨state.after (.delegated within),
              messages ++ (Happening.allMessages verbose within).toArray, source'⟩ := by
      show (next ((nested.parse verbose (nested.begin source)).handback close).toDelegated).run
        verbose (Scope.takeOver ⟨state, messages, source⟩
          ((nested.parse verbose (nested.begin source)).handback close)) = _
      rw [hn, ParseState.after_delegated]
      rfl
    have hi := ih (messages ++ (Happening.allMessages verbose within).toArray)
    rw [Array.append_assoc, List.append_toArray (Happening.allMessages verbose within)] at hi
    show g.conclude verbose last _ = _
    rw [hr]
    exact hi

/-- **A parse is as it unfolds**, whether it is verbose or not. -/
theorem Unfolds.parse_eq {source unread : R} {hs : List Happening} {memory : σ}
    (h : g.Unfolds (.resting g.start) {} source hs memory unread) (verbose : Bool) :
    g.parse verbose (g.begin source)
      = ⟨memory, ParseState.replay {} hs, (Happening.allMessages verbose hs).toArray, unread⟩ := by
  have hr := h.result_eq verbose #[]
  rwa [Array.empty_append] at hr

/-! ## Every parse unfolds -/

end Grammar

/-- Whatever a reaction **asks for is among** certain messages and certain parsers, as to what
it emits and to whom it hands the transcript. -/
def Reaction.AsksFor {ν α : Type} (M : Message → Prop) (N : Nested ν → Prop) :
    Reaction ν α → Prop
  | .done _ => True
  | .emit message next => M message ∧ next.AsksFor M N
  | .record _ next => next.AsksFor M N
  | .inspect next => ∀ state, (next state).AsksFor M N
  | .lookAhead next => ∀ line, (next line).AsksFor M N
  | .delegate nested next => N nested ∧ ∀ d, (next d).AsksFor M N

namespace Grammar

variable {R σ ι ν : Type} {M : Message → Prop}

/-- **Every parse of the grammar unfolds**, whatever its source, and what is emitted in its
course is among certain messages. -/
def Unfoldable (M : Message → Prop) (g : Grammar σ ι ν) : Prop :=
  ∀ {R : Type} [LineSource R] (source : R), ∃ hs memory unread,
    g.Unfolds (.resting g.start) {} source hs memory unread ∧
      ∀ m ∈ Happening.allMessages false hs, M m

end Grammar

/-- The parser is that of a grammar of which every parse unfolds. -/
def Nested.Unfoldable {ν : Type} (M : Message → Prop) (nested : Nested ν) : Prop :=
  ∃ (σ ι ν' : Type) (g : Grammar σ ι ν') (close : σ → ν),
    nested = g.nested close ∧ g.Unfoldable M

namespace Grammar

variable [LineSource R] {g : Grammar σ ι ν}

/-- A reaction unfolds, if what comes after it does wherever it ends. Whatever it asks may shorten
the source, and nothing else. -/
theorem exists_unfolds_reacting (g : Grammar σ ι ν) (last : Bool) {r : Reaction ν σ}
    (hr : r.AsksFor M (Nested.Unfoldable M)) (source : R)
    (hthen : ∀ (memory : σ) (state : ParseState) (source' : R), LineSource.Reads source source' →
      ∃ hs memory' unread, g.Unfolds (.reacting last (.done memory)) state source' hs memory' unread
        ∧ ∀ m ∈ Happening.allMessages false hs, M m) (state : ParseState) :
    ∃ hs memory unread, g.Unfolds (.reacting last r) state source hs memory unread ∧
      ∀ m ∈ Happening.allMessages false hs, M m := by
  induction r generalizing state source with
  | done memory => exact hthen memory state source .nothing
  | emit message next ih =>
    obtain ⟨hs, memory, unread, hu, hM⟩ := ih hr.2 source hthen state
    refine ⟨_, memory, unread, hu.emit, fun m hm => ?_⟩
    rcases List.mem_append.1 hm with hm | hm
    · obtain rfl := List.mem_singleton.1 hm
      exact hr.1
    · exact hM m hm
  | record entry next ih =>
    obtain ⟨hs, memory, unread, hu, hM⟩ := ih hr source hthen (state.record entry)
    exact ⟨_, memory, unread, hu.record, hM⟩
  | inspect next ih =>
    obtain ⟨hs, memory, unread, hu, hM⟩ := ih state (hr state) source hthen state
    exact ⟨hs, memory, unread, hu.inspect, hM⟩
  | lookAhead next ih =>
    have hline : LineSource.Reads source (LineSource.takeLine source).2 :=
      LineSource.Reads.nothing.line
    obtain ⟨hs, memory, unread, hu, hM⟩ := ih (LineSource.takeLine source).1 (hr _) _
      (fun memory state source' h => hthen memory state source' (hline.trans h)) state
    exact ⟨hs, memory, unread, hu.lookAhead rfl, hM⟩
  | delegate nested next ih =>
    obtain ⟨⟨σ', ι', ν', g', close, rfl, hg⟩, hnext⟩ := hr
    obtain ⟨within, memory', source', hinner, hMinner⟩ := hg source
    -- the nested parser does nothing to the source but ask
    have hreads : LineSource.Reads source source' := by
      have hp := parse_reads g' false (g'.begin source)
      rwa [hinner.parse_eq false] at hp
    obtain ⟨hs, memory, unread, hu, hM⟩ := ih _ (hnext _) source'
      (fun memory state source'' h => hthen memory state source'' (hreads.trans h))
      (state.after (.delegated within))
    refine ⟨_, memory, unread, .delegate hinner hu, fun m hm => ?_⟩
    rcases List.mem_append.1 hm with hm | hm
    · exact hMinner m hm
    · exact hM m hm

/-- A parser at rest unfolds, since each statement leaves fewer lines to unfold from. -/
theorem exists_unfolds_resting (hread : ∀ rule ∈ g.rules, rule.Legible)
    (hreact : ∀ found statement memory,
      (g.react found statement memory).AsksFor M (Nested.Unfoldable M))
    (hend : ∀ memory, (g.atEnd memory).AsksFor M (Nested.Unfoldable M))
    (memory : σ) (state : ParseState) (source : R) :
    ∃ hs memory' unread, g.Unfolds (.resting memory) state source hs memory' unread ∧
      ∀ m ∈ Happening.allMessages false hs, M m := by
  -- every statement uses a line up
  generalize hlen : (LineSource.lines source).length = n
  induction n using Nat.strongRecOn generalizing memory state source with
  | _ n ih =>
    subst hlen
    by_cases hd : state.done = true
    · exact ⟨[], memory, source, .finished hd, by simp [Happening.allMessages]⟩
    rw [Bool.not_eq_true] at hd
    rcases hn : LineSource.takeStatement source with ⟨_ | statement, source'⟩
    · obtain ⟨hs, memory', unread, hu, hM⟩ := exists_unfolds_reacting g true (hend memory) source'
        (fun memory state source' _ =>
          ⟨[], memory, source', .ended, by simp [Happening.allMessages]⟩) state
      exact ⟨hs, memory', unread, .ranOut hd hn hu, hM⟩
    have hlt := LineSource.lines_length_lt hn
    rcases hc : g.classify statement with _ | found
    · obtain ⟨hs, memory', unread, hu, hM⟩ := ih _ hlt memory state source' rfl
      refine ⟨_, memory', unread, .overlooked hd hn ((classify_eq_none_iff hread).1 hc) hu, ?_⟩
      exact hM
    · obtain ⟨hs, memory', unread, hu, hM⟩ := exists_unfolds_reacting g false
        (hreact found statement memory) source'
        (fun memory state source'' h => by
          have hle := h.lines_suffix.length_le
          obtain ⟨hs, memory', unread, hu, hM⟩ := ih _ (Nat.lt_of_le_of_lt hle hlt) memory state
            source'' rfl
          exact ⟨hs, memory', unread, hu.reacted, hM⟩) state
      exact ⟨hs, memory', unread, .recognized hd hn hc hu, hM⟩

/-- **Every parse of a grammar unfolds**, if its rules read whatever they match and every parse
unfolds of the parsers that it hands the transcript to. -/
theorem unfoldable (hread : ∀ rule ∈ g.rules, rule.Legible)
    (hreact : ∀ found statement memory,
      (g.react found statement memory).AsksFor M (Nested.Unfoldable M))
    (hend : ∀ memory, (g.atEnd memory).AsksFor M (Nested.Unfoldable M)) : g.Unfoldable M :=
  fun source => exists_unfolds_resting hread hreact hend g.start {} source

/-- **A verbose parse remembers and knows what a quiet one does.** -/
theorem Unfoldable.parse_verbose (hg : g.Unfoldable M) (verbose : Bool) (source : R) :
    (g.parse verbose (g.begin source)).memory = (g.parse false (g.begin source)).memory ∧
      (g.parse verbose (g.begin source)).scope.state
        = (g.parse false (g.begin source)).scope.state := by
  obtain ⟨hs, memory, unread, hu, -⟩ := hg source
  rw [hu.parse_eq verbose, hu.parse_eq false]
  exact ⟨rfl, rfl⟩

end Grammar

end TexTranscript
