import TexTranscript.Proofs.Dialects
import TexTranscript.Proofs.Passing
import TexTranscript.Proofs.Thrift

/-!
# Parsers at work

While a transcript is parsed, the parser of one tool may be at work inside that of
another: latexmk hands the transcript to the tools that it calls, and makeglossaries
to makeindex. Which tool it is, is told by the statement (`Dialect.handsTo?`). Each
parser that is at work in the course of a parse starts afresh, on what its caller
has left of the source (`Dialect.AtWork`).

There is not much that a statement can do to the state of a tool. If the tool deals
with it alone the state *advances*: one finding is counted at most, or a new run
begins. Otherwise it *absorbs* what the parser found that was at work meanwhile.
Whatever survives both holds at every position that is passed, at whatever level,
and after every parse; this is an induction on the lines that are left, since the
parser that is called has fewer of them than its caller (`Sustained.passes`).

## Main definitions

* `Dialect.handsTo?` – the tool that a statement hands the transcript to.
* `Dialect.AtWork` – the parsers that are at work in the course of a parse.
* `ParseState.Advances`, `ParseState.Absorbs` – what a statement does to a state.
* `Sustained` – what survives every statement, at every level.

## Main statements

* `Dialect.dispatch_advances`, `Dialect.dispatch_absorbs` – every statement of a tool
  does one or the other.
* `Dialect.exists_passes_parse` – a parse ends where it passes.
* `Sustained.passes`, `Sustained.parse` – what is sustained holds all the way.
-/

namespace TexTranscript

variable {σ ι ν α : Type}

/-! ## What a statement does to a state -/

/-- **A single finding**, or none. It is not fatal unless it is an error. -/
structure Outcome.IsSingle (o : Outcome) : Prop where
  findings : o.findings ≤ 1
  fatal : o.fatal = true → 0 < o.errors

instance (o : Outcome) : Decidable o.IsSingle :=
  decidable_of_iff (o.findings ≤ 1 ∧ (o.fatal = true → 0 < o.errors))
    ⟨fun h => ⟨h.1, h.2⟩, fun h => ⟨h.findings, h.fatal⟩⟩

namespace ParseState

/-- **A state advances**: one finding is counted at most, with a mark at most, or a new run
begins. -/
inductive Advances (s s' : ParseState) : Prop
  | found (what : Outcome) (mark? : Option Mark) (single : what.IsSingle)
      (marked : mark?.toList.length ≤ what.findings)
      (tally_eq : s'.tally = ⟨s.tally.run + what, s.tally.total + what⟩)
      (marks_eq : s'.marks = s.marks ++ mark?.toList)
  | newRun (tally_eq : s'.tally = s.tally.record .newRun) (marks_eq : s'.marks = s.marks)

/-- **A state absorbs another one**: what was found there is added to both of its counts. Its
marks stay, or are replaced. -/
structure Absorbs (outer inner result : ParseState) : Prop where
  tally_eq : result.tally = outer.tally.record (.absorb inner.outcome)
  marks_eq : result.marks = outer.marks ∨ result.marks = inner.marks

variable {s s' : ParseState}

/-- Nothing is counted. -/
theorem Advances.nothing (htally : s'.tally = s.tally) (hmarks : s'.marks = s.marks) :
    s.Advances s' := by
  refine .found .clean none (by decide) (by decide) ?_ ?_
  · rw [htally, Outcome.add_clean, Outcome.add_clean]
  · rw [hmarks]
    exact (List.append_nil _).symm

/-- To count a warning is to advance. -/
theorem Advances.warning (mark? : Option Mark) (htally : s'.tally = s.tally.record .warning)
    (hmarks : s'.marks = s.marks ++ mark?.toList) : s.Advances s' :=
  .found .oneWarning mark? (by decide) Option.length_toList_le htally hmarks

/-- To count an error is to advance. -/
theorem Advances.error (mark? : Option Mark) (htally : s'.tally = s.tally.record .error)
    (hmarks : s'.marks = s.marks ++ mark?.toList) : s.Advances s' :=
  .found .oneError mark? (by decide) Option.length_toList_le htally hmarks

/-- To count an error that turns out to be fatal is to advance, for it is one finding. -/
theorem Advances.fatal (mark? : Option Mark)
    (htally : s'.tally = (s.tally.record .error).record .fatal)
    (hmarks : s'.marks = s.marks ++ mark?.toList) : s.Advances s' := by
  refine .found (.oneError + .flagged) mark? (by decide) Option.length_toList_le ?_ hmarks
  rw [htally, ← Outcome.add_assoc, ← Outcome.add_assoc]
  rfl

end ParseState

/-! ## Reactions that hand nothing over -/

/-- A reaction advances the state, whatever lines it is shown. -/
def Reaction.Advances (r : Reaction ν α) : Prop :=
  ∀ log, r.Ensures (fun _ log' => log.state.Advances log'.state) log

open ParseState (Advances)

/-- BibTeX advances by everything that it reports. -/
theorem Bibliography.reactToBibtex_advances (found : BibtexFinding) (statement : Text)
    (memory : Unit) : (reactToBibtex found statement memory : Reaction ν Unit).Advances := by
  intro log
  cases found with
  | remark => exact .nothing rfl rfl
  | warning => exact .warning none rfl (List.append_nil _).symm
  | error => exact .error none rfl (List.append_nil _).symm
  | finished => exact .nothing rfl rfl

/-- Biber advances by everything that it reports. -/
theorem Bibliography.reactToBiber_advances (found : BiberFinding) (statement : Text)
    (announced : Option Text) :
    (reactToBiber found statement announced : Reaction ν (Option Text)).Advances := by
  intro log
  cases found with
  | warning => exact .warning none rfl (List.append_nil _).symm
  | error => exact .error none rfl (List.append_nil _).symm
  | fatal => exact .fatal none rfl (List.append_nil _).symm
  | _ => exact .nothing rfl rfl

/-- Makeindex counts nothing, and advances by that. -/
theorem Index.react_advances (found : Finding) (statement : Text) (memory : Unit) :
    (react found statement memory : Reaction ν Unit).Advances := by
  intro log
  cases found <;> exact .nothing rfl rfl

/-- What is quoted changes nothing in the state. -/
theorem Lint.quoteSource_ensures (log : Log) :
    (quoteSource : Reaction ν Unit).Ensures (fun _ log' => log'.state = log.state) log := by
  refine Reaction.ensures_bind.2 fun source => ?_
  cases source with
  | none => exact rfl
  | some source =>
    show (if hasCaret source then _ else _ : Reaction ν Unit).Ensures _ _
    split
    · exact fun caret => rfl
    · exact rfl

/-- The linter advances by a finding, which has a mark, and what it quotes counts nothing. -/
theorem Lint.react_advances (found : Finding) (statement : Text) (memory : Unit) :
    (react found statement memory : Reaction ν Unit).Advances := by
  intro log
  cases found with
  | remark => exact .nothing rfl rfl
  | finished => exact .nothing rfl rfl
  | problem severity file line description =>
    cases severity with
    | error =>
      refine (quoteSource_ensures _).mono fun _ log' hlog => ?_
      exact .error (some _) (congrArg ParseState.tally hlog)
        (congrArg ParseState.marks hlog)
    | warning =>
      refine (quoteSource_ensures _).mono fun _ log' hlog => ?_
      exact .warning (some _) (congrArg ParseState.tally hlog)
        (congrArg ParseState.marks hlog)

namespace Typesetting

variable (master statement : Text)

/-- A wrapped warning is counted once, with its line or without. -/
theorem reactToWrapped_advances :
    (reactToWrapped master statement : Reaction ν Unit).Advances := by
  intro log
  have hplain : (Reaction.warning statement : Reaction ν Unit).Ensures
      (fun _ log' => log.state.Advances log'.state) log :=
    .warning none rfl (List.append_nil _).symm
  refine Reaction.ensures_bind.2 fun next => ?_
  cases next with
  | none => exact hplain
  | some next =>
    rw [Reaction.Ensures]
    dsimp only
    split
    · exact .warning (some _) rfl rfl
    · exact hplain

/-- A runaway argument is counted once, whether all is lost by it or not. -/
theorem reactToRunaway_advances : (reactToRunaway statement : Reaction ν Unit).Advances := by
  intro log
  refine Reaction.ensures_bind.2 (show Reaction.Ensures _ _ _ from fun next => ?_)
  cases next with
  | none => exact .error none rfl (List.append_nil _).symm
  | some next =>
    show (if _ then _ else _ : Reaction ν Unit).Ensures _ _
    split
    · exact .fatal none rfl (List.append_nil _).symm
    · exact .error none rfl (List.append_nil _).symm

/-- An engine advances by everything that it reports. -/
theorem react_advances (found : Finding) (memory : Unit) :
    (react master found statement memory : Reaction ν Unit).Advances := by
  intro log
  cases found with
  | warning line => exact .warning (some _) rfl rfl
  | wrappedWarning => exact reactToWrapped_advances master statement log
  | error file line description =>
    show (if _ then _ else _ : Reaction ν Unit).Ensures _ _
    split
    · exact .fatal (some _) rfl rfl
    · exact .error (some _) rfl rfl
  | runaway => exact reactToRunaway_advances statement log
  | alert =>
    show (if _ then _ else _ : Reaction ν Unit).Ensures _ _
    split
    · exact .error none rfl (List.append_nil _).symm
    · exact .warning none rfl (List.append_nil _).symm
  | fatal => exact .fatal none rfl (List.append_nil _).symm
  | _ => exact .nothing rfl rfl

end Typesetting

/-- Makeglossaries deals with everything alone but a run of makeindex. -/
theorem Glossary.react_advances {found : Finding} (h : ∀ number, found ≠ .makeindex number)
    (statement : Text) (memory : Memory) : (react found statement memory).Advances := by
  intro log
  cases found with
  | makeindex number => exact absurd rfl (h number)
  | warning => exact .warning none rfl (List.append_nil _).symm
  | error => exact .error none rfl (List.append_nil _).symm
  | _ => exact .nothing rfl rfl

/-- Latexmk deals with everything alone but the banners of tools. -/
theorem Build.react_advances {found : Finding} (h : found.tool? = none) (master : Text)
    (watching : Bool) (statement : Text) (memory : Memory) :
    (react master watching found statement memory).Advances := by
  intro log
  cases found with
  | roundEnd =>
    cases watching with
    | true => exact .nothing rfl rfl
    | false => exact .nothing rfl rfl
  | chatter => exact .nothing rfl rfl
  | newRun =>
    show (beginRun memory).Ensures _ _
    unfold beginRun
    split
    · exact .newRun rfl rfl
    · exact .newRun rfl rfl
  | _ => exact absurd h (Option.some_ne_none _)

/-! ## Handing over -/

namespace Dialect

/-- **The tool that a statement hands the transcript to**, if it does: latexmk knows the banners
of the tools that it calls, and makeglossaries that of makeindex. -/
def handsTo? : Dialect → Text → Option Dialect
  | .latexmk master _, statement =>
    match Build.finding? statement with
    | some .typesetting => some (.latex master)
    | some .bibtex => some .bibtex
    | some .biber => some .biber
    | some .index => some (.makeindex Index.defaultExtensions)
    | _ => none
  | .makeglossaries _, statement =>
    match Glossary.grammar.classify statement with
    | some (.makeindex _) => some (.makeindex Glossary.indexExtensions)
    | _ => none
  | _, _ => none

variable {R : Type} [LineSource R] {d d' : Dialect} {statement : Text}

/-- The tool that a transcript is handed over to is one of the seven. -/
theorem isTool_of_handsTo? (h : d.handsTo? statement = some d') : d'.isTool = true := by
  unfold handsTo? at h
  split at h
  · split at h
    all_goals first
      | (obtain rfl := Option.some.inj h; rfl)
      | exact nomatch h
  · split at h
    · obtain rfl := Option.some.inj h
      rfl
    · exact nomatch h
  · exact nomatch h

/-- Where a tool hands nothing over, it advances. -/
theorem react_advances (hd : d.isTool = true) (h : d.handsTo? statement = none)
    {found : d.grammar.ι} (hc : d.grammar.rules.classify statement = some found)
    (memory : d.grammar.σ) : (d.grammar.rules.react found statement memory).Advances := by
  cases d with
  | latex master => exact Typesetting.react_advances master statement found memory
  | bibtex => exact Bibliography.reactToBibtex_advances found statement memory
  | biber => exact Bibliography.reactToBiber_advances found statement memory
  | makeindex extensions => exact Index.react_advances found statement memory
  | chktex => exact Lint.react_advances found statement memory
  | makeglossaries query =>
    refine Glossary.react_advances (fun number hfound => ?_) statement memory
    have hc : Glossary.grammar.classify statement = some found := hc
    simp [handsTo?, hc, hfound] at h
  | latexmk master watching =>
    refine Build.react_advances ?_ master watching statement memory
    have hc : Build.finding? statement = some found := hc
    cases found with
    | roundEnd => rfl
    | chatter => rfl
    | newRun => rfl
    | _ => simp [handsTo?, hc] at h
  | custom rules atEnd => exact Bool.noConfusion hd

/-- **A statement that a tool deals with alone advances its state.** What a statement reacts with
advances the state by itself, and an echo leaves it alone. -/
theorem dispatch_advances (hd : d.isTool = true) (h : d.handsTo? statement = none) (verbose : Bool)
    (p : Grammar.Position R d.grammar.σ) :
    p.scope.state.Advances (d.grammar.rules.dispatch verbose statement p).scope.state := by
  unfold Grammar.dispatch
  split
  · next found hc =>
    exact Reaction.run_ensures verbose (react_advances hd h hc p.memory p.scope.log)
  · split
    · exact .nothing rfl rfl
    · exact .nothing rfl rfl

/-- **If it hands the transcript over, its state absorbs what is found there**, and what is left
unread there is left for it. There is one case for each way to call a tool, and in each of them the
reaction around the call only writes messages. -/
theorem dispatch_absorbs (h : d.handsTo? statement = some d') (verbose : Bool)
    (p : Grammar.Position R d.grammar.σ) :
    p.scope.state.Absorbs (d'.parse verbose p.scope.unread).scope.state
        (d.grammar.rules.dispatch verbose statement p).scope.state ∧
      (d.grammar.rules.dispatch verbose statement p).scope.unread
        = (d'.parse verbose p.scope.unread).scope.unread := by
  have hdispatch {found : d.grammar.ι} (hc : d.grammar.rules.classify statement = some found) :
      d.grammar.rules.dispatch verbose statement p
        = p.follow verbose (d.grammar.rules.react found statement p.memory) := by
    unfold Grammar.dispatch
    rw [hc]
  cases d with
  | latexmk master watching =>
    unfold handsTo? at h
    dsimp only at h
    split at h
    · next hf =>
      obtain rfl := Option.some.inj h
      rw [hdispatch hf]
      exact ⟨⟨rfl, .inr rfl⟩, rfl⟩
    -- only the marks of an engine replace those that there are
    · next hf =>
      obtain rfl := Option.some.inj h
      rw [hdispatch hf]
      exact ⟨⟨rfl, .inl rfl⟩, rfl⟩
    · next hf =>
      obtain rfl := Option.some.inj h
      rw [hdispatch hf]
      exact ⟨⟨rfl, .inl rfl⟩, rfl⟩
    · next hf =>
      obtain rfl := Option.some.inj h
      rw [hdispatch hf]
      exact ⟨⟨rfl, .inl rfl⟩, rfl⟩
    · exact nomatch h
  | makeglossaries query =>
    unfold handsTo? at h
    dsimp only at h
    split at h
    · next number hf =>
      obtain rfl := Option.some.inj h
      rw [hdispatch hf]
      exact ⟨⟨rfl, .inl rfl⟩, rfl⟩
    · exact nomatch h
  | _ => exact nomatch h

/-! ## The parsers at work -/

/-- **A parse of the dialect passes a position**, from the start on. -/
def Passes (d : Dialect) (verbose : Bool) (source : R) (p : Grammar.Position R d.grammar.σ) :
    Prop :=
  d.grammar.rules.Passes verbose (d.grammar.rules.begin source) p

/-- **The parsers that are at work in the course of a parse**, each with the source that it starts
on: the one whose parse it is, and those that one of them hands the transcript to. -/
inductive AtWork (verbose : Bool) (d : Dialect) (source : R) : Dialect → R → Prop
  | outermost : AtWork verbose d source d source
  | called {caller called : Dialect} {source' behind : R} {statement : Text}
      {p : Grammar.Position R caller.grammar.σ} (h : AtWork verbose d source caller source')
      (hp : caller.Passes verbose source' p) (hd : p.scope.state.done = false)
      (hn : LineSource.takeStatement p.scope.unread = (some statement, behind))
      (hands : caller.handsTo? statement = some called) : AtWork verbose d source called behind

/-- All parsers that are at work in the course of the parse of a tool are parsers of tools. -/
theorem AtWork.isTool {verbose : Bool} {source source' : R} (hd : d.isTool = true)
    (h : d.AtWork verbose source d' source') : d'.isTool = true := by
  induction h with
  | outermost => exact hd
  | called _ _ _ _ hands _ => exact isTool_of_handsTo? hands

/-- What a tool does at an early end concerns neither what it knows nor its source. -/
theorem run_atEnd (hd : d.isTool = true) (verbose : Bool) (memory : d.grammar.σ) (s : Scope R) :
    ((d.grammar.rules.atEnd memory).run verbose s).1 = memory ∧
      ((d.grammar.rules.atEnd memory).run verbose s).2.state = s.state ∧
      ((d.grammar.rules.atEnd memory).run verbose s).2.unread = s.unread := by
  cases d with
  | custom rules atEnd => exact Bool.noConfusion hd
  | _ => exact ⟨rfl, rfl, rfl⟩

/-- **A parse of a tool comes to what taking statements comes to.** At an early end only an engine
does something, and this is a message. -/
theorem parse_eq_consume (hd : d.isTool = true) (verbose : Bool) (source : R) :
    let result := d.grammar.rules.consume verbose (d.grammar.rules.begin source)
    (d.parse verbose source).memory = result.memory ∧
      (d.parse verbose source).scope.state = result.scope.state ∧
      (d.parse verbose source).scope.unread = result.scope.unread := by
  intro result
  unfold Dialect.parse Grammar.parse
  dsimp only
  split
  · exact ⟨rfl, rfl, rfl⟩
  · exact run_atEnd hd verbose result.memory result.scope

/-- **A parse of a tool ends where it passes**, but for questions that it still asks. It is done
there, or no line is left. -/
theorem exists_passes_parse (hd : d.isTool = true) (verbose : Bool) (source : R) :
    ∃ p, d.Passes verbose source p ∧ (d.parse verbose source).memory = p.memory ∧
      (d.parse verbose source).scope.state = p.scope.state ∧
      LineSource.Reads p.scope.unread (d.parse verbose source).scope.unread ∧
      (p.scope.state.done = false →
        LineSource.lines (d.parse verbose source).scope.unread = []) := by
  obtain ⟨hmemory, hstate, hunread⟩ := parse_eq_consume hd verbose source
  rw [hmemory, hstate, hunread]
  obtain ⟨p, hp, hmemory, hlog, hlines⟩ :=
    d.grammar.rules.exists_passes_consume verbose (d.grammar.rules.begin source)
  have hreads := d.grammar.rules.consume_reads verbose p
  rw [← hp.consume_eq] at hreads
  exact ⟨p, hp, hmemory, congrArg Log.state hlog, hreads, hlines⟩

end Dialect

/-! ## What is sustained -/

/-- **What survives every statement, at every level.** It is about the source that a parser
starts on, the state that it has come to, and the source that it has come to. -/
structure Sustained {R : Type} [LineSource R] (J : R → ParseState → R → Prop) : Prop where
  start : ∀ source, J source {} source
  /-- It makes no difference to ask once more. -/
  ask : ∀ {source unread unread' : R} {s : ParseState}, J source s unread →
    LineSource.Reads unread unread' → J source s unread'
  advance : ∀ {source unread behind unread' : R} {s s' : ParseState} {statement : Text},
    J source s unread → LineSource.takeStatement unread = (some statement, behind) →
    LineSource.Reads behind unread' → s.Advances s' → J source s' unread'
  absorb : ∀ {source unread behind left : R} {s inner s' : ParseState} {statement : Text},
    J source s unread → LineSource.takeStatement unread = (some statement, behind) →
    J behind inner left → s.Absorbs inner s' → J source s' left

namespace Sustained

variable {R : Type} [LineSource R] {J : R → ParseState → R → Prop} {d d' : Dialect}
  {verbose : Bool} {source source' : R}

/-- **What is sustained holds wherever a tool passes.** Two inductions are needed. The outer one is
on the number of lines, so that what is sustained can be used of parsers that are called, each of
which starts behind a statement; the inner one is on the statements of the parser at hand. -/
theorem passes (h : Sustained J) (hd : d.isTool = true) {p : Grammar.Position R d.grammar.σ}
    (hp : d.Passes verbose source p) : J source p.scope.state p.scope.unread := by
  -- a parser that is called has fewer lines ahead of it than its caller
  generalize hlen : (LineSource.lines source).length = n
  induction n using Nat.strongRecOn generalizing d source with
  | _ n ih =>
    subst hlen
    unfold Dialect.Passes at hp
    induction hp with
    | here => exact h.start source
    | @statement p statement behind hp hdone hn ihp =>
      cases hands : d.handsTo? statement with
      | none =>
        have hreads := d.grammar.rules.dispatch_reads verbose statement (p.withUnread behind)
        have hadvances := Dialect.dispatch_advances hd hands verbose (p.withUnread behind)
        exact h.advance ihp hn hreads hadvances
      | some called =>
        have hlt : (LineSource.lines behind).length < (LineSource.lines source).length :=
          Nat.lt_of_lt_of_le (LineSource.lines_length_lt hn) hp.reads.lines_suffix.length_le
        have hcalled := Dialect.isTool_of_handsTo? hands
        obtain ⟨q, hq, -, hstate, hreads, -⟩ := Dialect.exists_passes_parse hcalled verbose behind
        have hinner := h.ask (ih _ hlt hcalled hq rfl) hreads
        rw [← hstate] at hinner
        obtain ⟨habsorbs, hunread⟩ :=
          Dialect.dispatch_absorbs hands verbose (p.withUnread behind)
        rw [hunread]
        exact h.absorb ihp hn hinner habsorbs

/-- **What is sustained holds when the parse is over.** -/
theorem parse (h : Sustained J) (hd : d.isTool = true) (verbose : Bool) (source : R) :
    J source (d.parse verbose source).scope.state (d.parse verbose source).scope.unread := by
  obtain ⟨p, hp, -, hstate, hreads, -⟩ := Dialect.exists_passes_parse hd verbose source
  rw [hstate]
  exact h.ask (h.passes hd hp) hreads

end Sustained

end TexTranscript
