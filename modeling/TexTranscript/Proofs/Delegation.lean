import TexTranscript.Proofs.Dialects
import TexTranscript.Proofs.Discipline

/-!
# Delegation is compositional

What happens while the transcript is in other hands is the same as if nobody had
handed it over: the parser that gets it starts afresh, and what it does is known
from the lines that it finds. To the one that handed it over it makes no difference
but for the counts.

For latexmk this makes the parse of a transcript a matter of the parses of its
sections, each of which stands alone. In general it is shown along the tree of what
happens. Every branch of the tree is what happens in a parse of its own, and where
it joins the next larger one the state of the outer parser takes over the counts of
the inner one, all of them, and nothing else.

## Main definitions

* `Happening.Level` – the branches of a tree of happenings.
* `ParseState.TakesOver` – what the outer state becomes.
* `Grammar.HandsOver` – a parser hands the transcript over and gets it back.

## Main statements

* `Grammar.Unfolds.handsOver` – wherever a branch joins, the transcript was handed over.
* `Grammar.Unfolds.level` – every branch is a parse of its own.
* `delegation_compositional` – sections of latexmk stand alone, and so do delegated
  parses of any dialect at any depth.
-/

namespace TexTranscript

/-- **The branches of a tree of happenings**: the tree itself, and what happened while the
transcript was handed over in the course of a branch. -/
inductive Happening.Level (tree : List Happening) : List Happening → Prop
  | trunk : Level tree tree
  | within {before within after : List Happening}
      (h : Level tree (before ++ .delegated within :: after)) : Level tree within

namespace ParseState

/-- **A state takes over another one**: all that was counted in it, in whatever run, is added
to the counts of the run and to those of everything, and nothing else changes. -/
structure TakesOver (outer inner result : ParseState) : Prop where
  run : result.tally.run = outer.tally.run + inner.tally.total
  total : result.tally.total = outer.tally.total + inner.tally.total
  done : result.done = outer.done
  marks : result.marks = outer.marks
  currentFile : result.currentFile = outer.currentFile

/-- Of what happened in other hands, a state takes over what was counted there. -/
theorem takesOver_after_delegated (s : ParseState) (within : List Happening) :
    s.TakesOver (({} : ParseState).replay within) (s.after (.delegated within)) := by
  have htotal : (({} : ParseState).replay within).tally.total = Happening.amounts within :=
    outcome_replay_empty within
  refine ⟨?_, ?_, rfl, rfl, rfl⟩
  · rw [htotal]
    rfl
  · rw [htotal]
    rfl

/-- What happens last is replayed last. -/
theorem replay_concat (s : ParseState) (hs : List Happening) (h : Happening) :
    s.replay (hs ++ [h]) = (s.replay hs).after h := replay_append s hs [h]

end ParseState

namespace Grammar

variable {R σ ι ν : Type} [LineSource R] {g : Grammar σ ι ν}

/-- **A parser hands the transcript over and gets it back.** It is in one state when it asks for
it; a parser of some grammar starts afresh on the source as it is then; and with what that one
ends with, the first one goes on in another state, on the source as it is left. -/
def HandsOver (g : Grammar σ ι ν) (outer : ParseState) (within : List Happening)
    (result : ParseState) (after : List Happening) (memory : σ) (unread : R) : Prop :=
  ∃ (σ' ι' ν' : Type) (nested : Grammar σ' ι' ν') (close : σ' → ν)
    (next : Delegated ν → Reaction ν σ) (last : Bool) (found left : R) (memory' : σ'),
    g.Unfolds (.reacting last (.delegate (nested.nested close) next)) outer found
      (.delegated within :: after) memory unread ∧
    nested.Unfolds (.resting nested.start) {} found within memory' left ∧
    g.Unfolds (.reacting last (next ⟨ParseState.replay {} within, close memory'⟩)) result left
      after memory unread

/-- **Where a branch joins, the transcript was handed over**, and the state there is what was made
of the state at first by what happened before. The induction is on the unfolding; the joint can only
be where the reaction delegates, and there the parts in front of it and behind it are what the
induction has collected. -/
theorem Unfolds.handsOver {activity : Activity σ ν} {state : ParseState} {source unread : R}
    {hs : List Happening} {memory : σ} (h : g.Unfolds activity state source hs memory unread)
    {before within after : List Happening} (hsplit : hs = before ++ .delegated within :: after) :
    g.HandsOver (state.replay before) within ((state.replay before).after (.delegated within)) after
      memory unread := by
  induction h generalizing before with
  | finished => exact absurd hsplit.symm (by simp)
  | ranOut _ _ _ ih => exact ih hsplit
  | overlooked _ _ _ _ ih =>
    -- what happens first is no branch, so that the branch is behind it
    rcases List.cons_eq_append_iff.1 hsplit with ⟨rfl, hhead⟩ | ⟨rest, rfl, hrest⟩
    · simp at hhead
    · have hbehind := ih hrest
      exact hbehind
  | recognized _ _ _ _ ih => exact ih hsplit
  | reacted _ ih => exact ih hsplit
  | ended => exact absurd hsplit.symm (by simp)
  | emit _ ih =>
    rcases List.cons_eq_append_iff.1 hsplit with ⟨rfl, hhead⟩ | ⟨rest, rfl, hrest⟩
    · simp at hhead
    · have hbehind := ih hrest
      exact hbehind
  | record _ ih =>
    rcases List.cons_eq_append_iff.1 hsplit with ⟨rfl, hhead⟩ | ⟨rest, rfl, hrest⟩
    · simp at hhead
    · exact ih hrest
  | inspect _ ih => exact ih hsplit
  | lookAhead _ _ ih => exact ih hsplit
  | @delegate _ _ _ _ _ _ g memory state last nested close memory' next source source' unread
      within' hs inner rest _ ih =>
    rcases List.cons_eq_append_iff.1 hsplit with ⟨rfl, hhead⟩ | ⟨before', rfl, hrest⟩
    · -- this is the branch in question
      obtain ⟨hwithin, rfl⟩ := List.cons.inj hhead
      obtain rfl := Happening.delegated.inj hwithin
      exact ⟨_, _, _, nested, close, next, last, source, source', memory', .delegate inner rest,
        inner, rest⟩
    · exact ih hrest

/-- **Every branch is a parse of its own**, from the start, of a source of its own. A branch of a
branch is found by the same argument again, so the depth of the tree does not matter. -/
theorem Unfolds.level {source unread : R} {tree hs : List Happening} {memory : σ}
    (h : g.Unfolds (.resting g.start) {} source tree memory unread)
    (hlevel : Happening.Level tree hs) :
    ∃ (σ' ι' ν' : Type) (g' : Grammar σ' ι' ν') (source' unread' : R) (memory' : σ'),
      g'.Unfolds (.resting g'.start) {} source' hs memory' unread' := by
  induction hlevel with
  | trunk => exact ⟨_, _, _, g, source, unread, memory, h⟩
  | within _ ih =>
    obtain ⟨_, _, _, g', source', unread', memory', hu⟩ := ih
    obtain ⟨_, _, _, nested, _, _, _, found, left, memory'', -, hinner, -⟩ := hu.handsOver rfl
    exact ⟨_, _, _, nested, found, left, memory'', hinner⟩

end Grammar

variable {R : Type} [LineSource R]

/-- **Delegation is compositional.** A parse of latexmk, watching or not, is a tour of its lines: in
every section there are exactly the messages of the tool on its own, with the same master document
and the same verbosity, on the lines behind the banner, and the next statement is where that one
stops. Its outcome is the sum of those of its sections.

And for any dialect, a parse unfolds into a tree of happenings each branch of which is a parse of
its own; and whenever the transcript is handed over in a branch, the state afterwards is the state
before, but that it has taken over what the inner parse counted. The first part puts together the
tour and the totals of its items. The second one takes the tree of the parse, and at each branch of
it the joint in the parse that this branch belongs to. -/
theorem delegation_compositional :
    (∀ (master : Text) (watching verbose : Bool) (source : R), ∃ items : List Build.Item,
      Build.Tour master verbose (LineSource.lines source) items
          (parseBuild master watching verbose source).unread ∧
        (∀ item ∈ items, item.IsProper master verbose) ∧
        (parseBuild master watching verbose source).messages
          = items.flatMap (Build.Item.messages master verbose) ∧
        (parseBuild master watching verbose source).outcome
          = Build.Item.total master verbose items) ∧
    ∀ (d : Dialect) (source : R), ∃ tree memory unread,
      d.grammar.rules.Unfolds (.resting d.grammar.rules.start) {} source tree memory unread ∧
      (∀ verbose, d.parse verbose source
        = ⟨memory, ParseState.replay {} tree, (Happening.allMessages verbose tree).toArray,
            unread⟩) ∧
      ∀ branch, Happening.Level tree branch →
        ∃ (σ ι ν : Type) (g : Grammar σ ι ν) (source' unread' : R) (memory' : σ),
          g.Unfolds (.resting g.start) {} source' branch memory' unread' ∧
          (∀ verbose, g.parse verbose (g.begin source')
            = ⟨memory', ParseState.replay {} branch,
                (Happening.allMessages verbose branch).toArray, unread'⟩) ∧
          ∀ before within after, branch = before ++ .delegated within :: after →
            g.HandsOver (ParseState.replay {} before) within
                (ParseState.replay {} (before ++ [.delegated within])) after memory' unread' ∧
              (ParseState.replay {} before).TakesOver (ParseState.replay {} within)
                (ParseState.replay {} (before ++ [.delegated within])) := by
  constructor
  · intro master watching verbose source
    obtain ⟨items, htour, hmessages, houtcome⟩ := Build.exists_tour master watching verbose source
    exact ⟨items, htour, htour.proper, hmessages, houtcome⟩
  · intro d source
    obtain ⟨tree, memory, unread, hu, -⟩ := Dialect.unfoldable d source
    refine ⟨tree, memory, unread, hu, hu.parse_eq, fun branch hbranch => ?_⟩
    obtain ⟨_, _, _, g, source', unread', memory', hg⟩ := hu.level hbranch
    refine ⟨_, _, _, g, source', unread', memory', hg, hg.parse_eq,
      fun before within after hsplit => ?_⟩
    rw [ParseState.replay_concat]
    exact ⟨hg.handsOver hsplit, ParseState.takesOver_after_delegated _ within⟩

end TexTranscript
