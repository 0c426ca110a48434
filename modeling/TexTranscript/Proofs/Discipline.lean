import TexTranscript.Proofs.Divisions
import TexTranscript.Proofs.Marks
import TexTranscript.Proofs.Tour

/-!
# The discipline of sections

What latexmk emits is a sequence of messages of its own and of closed sections.
Sections do not nest, for no tool that has one emits what opens or closes one; so
the divisions that they are shown as are balanced.

Between two statements latexmk is outside of every section, whatever the parser of
the last one has met with: its phase is idle, unless a round has ended after which
it does not keep watching. This round is then the only one. While it keeps watching
it goes on to the end of the transcript, and counts a round each time it says where
the output is.

Both follow from what a statement does, the first from the tour that a parse is, the
second by an induction along its steps.

## Main definitions

* `Build.Item.IsProper` – what there may be on the way.
* `Build.WithinRound` – what a step does that ends no round.
* `Build.Settled`, `Build.Watchful` – what latexmk keeps that does not watch, and that
  does.

## Main statements

* `Build.Tour.proper` – what is on the way is proper.
* `Build.Step.within_or_ends` – a step is within a round or ends one.
* `Build.Step.settled`, `Build.Step.watchful` – what steps keep.
* `section_discipline` – the messages, the divisions, the phase and the rounds of every
  parse of latexmk.
-/

namespace TexTranscript

/-- What the parser of a single tool emits neither opens nor closes a section. -/
theorem Message.isEdge_of_isOfTool {m : Message} (h : m.IsOfTool) : m.isEdge = false := by
  cases m with
  | toolStarted tool banner => exact h.elim
  | toolFinished tool => exact h.elim
  | _ => rfl

/-- What latexmk emits by itself neither opens nor closes a section. -/
theorem Message.isEdge_of_isOwnOfBuild {m : Message} (h : m.isOwnOfBuild = true) :
    m.isEdge = false := by
  cases m with
  | toolStarted tool banner => exact Bool.noConfusion h
  | toolFinished tool => exact Bool.noConfusion h
  | _ => rfl

/-- A message that opens or closes no section makes no tag of a division. -/
theorem Message.divTags_of_isEdge {m : Message} (h : m.isEdge = false) : m.divTags = [] := by
  cases m with
  | toolStarted tool banner => exact Bool.noConfusion h
  | toolFinished tool => exact Bool.noConfusion h
  | _ => rfl

namespace Build

/-! ## Messages -/

/-- **An item is proper**: a message of latexmk's own, or a section of a tool that has one, in
which no section is opened or closed. -/
def Item.IsProper (master : Text) (verbose : Bool) : Item → Prop
  | own message => message.isOwnOfBuild = true
  | inSection tool _ behind =>
    tool ∈ sectionTools ∧
      ∀ m ∈ (parseTranscript tool master verbose behind).messages, m.isEdge = false

variable {R : Type} [LineSource R] {master : Text} {watching verbose : Bool}

/-- No tool that has sections emits what opens or closes one. -/
theorem isEdge_of_mem_sectionTools {tool : Tool} (h : tool ∈ sectionTools) (source : R) :
    ∀ m ∈ (parseTranscript tool master verbose source).messages, m.isEdge = false := by
  have hne : tool ≠ .latexmk := by
    rintro rfl
    simp [sectionTools] at h
  obtain ⟨log, hcourse, hof⟩ := parseTranscript_course hne master verbose source
  rw [hof.messages]
  exact fun m hm => Message.isEdge_of_isOfTool (hcourse.isOfTool m hm)

/-- **What is on the way is proper.** Each leg of a tour adds items of which the tour itself says
that they are latexmk's own, or one section. -/
theorem Tour.proper {ls unread : List Line} {items : List Item}
    (h : Tour master verbose ls items unread) : ∀ item ∈ items, item.IsProper master verbose := by
  induction h with
  | stopped ls => exact fun item hitem => absurd hitem List.not_mem_nil
  | own _ _ hown _ ih =>
    refine List.forall_mem_append.2 ⟨fun item hitem => ?_, ih⟩
    obtain ⟨m, hm, rfl⟩ := List.mem_map.1 hitem
    exact hown m hm
  | @inSection ls behind unread statement tool items _ hb _ ih =>
    have htool := mem_sectionTools hb
    exact List.forall_mem_cons.2 ⟨⟨htool, isEdge_of_mem_sectionTools htool behind⟩, ih⟩

/-! ## Divisions -/

/-- The tags of divisions that a proper item makes. Between the two tags of a section there are
none, since nothing within it makes one. -/
theorem Item.divTags_of_isProper {item : Item} (h : item.IsProper master verbose) :
    ∃ w : DyckWord, w.toList = (item.messages master verbose).flatMap Message.divTags := by
  cases item with
  | own message =>
    refine ⟨0, ?_⟩
    show [] = message.divTags ++ []
    rw [Message.divTags_of_isEdge (Message.isEdge_of_isOwnOfBuild h)]
    rfl
  | inSection tool banner behind =>
    -- one division, with none in it
    refine ⟨(0 : DyckWord).nest, ?_⟩
    have hin : (parseTranscript tool master verbose behind).messages.flatMap Message.divTags = [] :=
      List.flatMap_eq_nil_iff.2 fun m hm => Message.divTags_of_isEdge (h.2 m hm)
    show _ = List.flatMap _ (.toolStarted tool banner ::
      ((parseTranscript tool master verbose behind).messages ++ [.toolFinished tool]))
    rw [List.flatMap_cons, List.flatMap_append, hin]
    rfl

/-- **The divisions of proper items are balanced.** Balanced words are closed under being put behind
each other. -/
theorem divTags_of_isProper {items : List Item}
    (h : ∀ item ∈ items, item.IsProper master verbose) :
    ∃ w : DyckWord,
      w.toList = (items.flatMap (Item.messages master verbose)).flatMap Message.divTags := by
  induction items with
  | nil => exact ⟨0, rfl⟩
  | cons item items ih =>
    obtain ⟨w, hw⟩ := Item.divTags_of_isProper (h item List.mem_cons_self)
    obtain ⟨w', hw'⟩ := ih fun item' hitem => h item' (List.mem_cons_of_mem item hitem)
    refine ⟨w + w', ?_⟩
    rw [List.flatMap_cons, List.flatMap_append, ← hw, ← hw']
    rfl

/-! ## Phases and rounds -/

variable {memory memory' : Memory} {log log' : Log}

/-- **A step within a round**: nothing is emitted that ends one, and nothing changes of what is
known of rounds. -/
structure WithinRound (memory memory' : Memory) (log log' : Log) : Prop where
  messages : ∃ ms, log'.messages = log.messages ++ ms ∧ ∀ m ∈ ms, m.endsRound = false
  done : log'.state.done = log.state.done
  phase : memory'.phase = .idle ∨ memory'.phase = memory.phase
  rounds : memory'.rounds = memory.rounds
  reports : memory'.reports = memory.reports

/-- One message that ends no round. -/
theorem WithinRound.of_emit {m : Message} (h : m.endsRound = false) :
    WithinRound memory memory log (log.emit m) :=
  ⟨⟨[m], rfl, List.forall_mem_singleton.2 h⟩, rfl, .inr rfl, rfl, rfl⟩

/-- What comes of a section ends no round. -/
theorem WithinRound.of_isSection {tool : Tool} {nested : Log} (h : IsSection master tool nested)
    (banner : String) :
    WithinRound memory { memory with phase := .idle } log (log.enclose tool banner nested) := by
  refine ⟨⟨_, rfl, ?_⟩, rfl, .inl rfl, rfl, rfl⟩
  refine List.forall_mem_append.2 ⟨List.forall_mem_cons.2 ⟨rfl, fun m hm => ?_⟩, ?_⟩
  · exact (h.2.isOrdinary m hm).2
  · exact List.forall_mem_singleton.2 rfl

/-- The run that ends may be summed up, and the next begins. -/
theorem WithinRound.of_newRun : WithinRound memory { memory with runs := memory.runs + 1 } log
    ((if memory.runs > 0 then
      log.emit (.runSummary memory.runs log.state.tally.run.errors log.state.tally.run.warnings)
      else log).record (.count .newRun)) := by
  split
  · exact ⟨⟨[_], rfl, List.forall_mem_singleton.2 rfl⟩, rfl, .inr rfl, rfl, rfl⟩
  · exact ⟨⟨[], (List.append_nil _).symm, List.forall_mem_nil _⟩, rfl, .inr rfl, rfl, rfl⟩

/-- **A step is within a round or ends one**, and then it depends on whether latexmk watches what it
does about it. Of the kinds of steps only two end a round, one for each mode. -/
theorem Step.within_or_ends (h : Step master watching memory log memory' log') :
    WithinRound memory memory' log log' ∨
      ∃ m : Message, m.endsRound = true ∧
        if watching then
          memory' = { memory with
            rounds := memory.rounds + 1
            reports := memory.reports ++ [memory.report log.state]
            phase := .idle } ∧ log' = log.emit m
        else
          memory' = { memory with rounds := memory.rounds + 1, phase := .roundFinished } ∧
            log' = (log.emit m).record .finish := by
  cases h with
  | echo statement => exact .inl (.of_emit rfl)
  | @chatter statement hs => exact .inl (.of_emit ((Message.endsRound_latexmk statement).trans hs))
  | inSection banner hn => exact .inl (.of_isSection hn banner)
  | newRun => exact .inl .of_newRun
  | @round statement hw hs =>
    subst hw
    exact .inr ⟨_, (Message.endsRound_latexmk statement).trans hs, rfl, rfl⟩
  | @lastRound statement hw hs =>
    subst hw
    exact .inr ⟨_, (Message.endsRound_latexmk statement).trans hs, rfl, rfl⟩

/-- **Latexmk does not watch**: it is idle until it is done, and then a round has ended. -/
structure Settled (memory : Memory) (log : Log) : Prop where
  phase : memory.phase = if log.state.done then .roundFinished else .idle
  rounds : memory.rounds = if log.state.done then 1 else 0

/-- **Latexmk that does not watch stays settled.** A step within a round leaves it idle, and one
that ends a round makes it done, after which there is none. -/
theorem Step.settled (hd : log.state.done = false)
    (hstep : Step master false memory log memory' log') (h : Settled memory log) :
    Settled memory' log' := by
  have hphase : memory.phase = .idle := by
    have hp := h.phase
    rwa [hd] at hp
  have hrounds : memory.rounds = 0 := by
    have hr := h.rounds
    rwa [hd] at hr
  rcases hstep.within_or_ends with hwithin | ⟨m, -, rfl, rfl⟩
  · constructor
    · rw [hwithin.done, hd]
      rcases hwithin.phase with hp | hp
      · exact hp
      · exact hp.trans hphase
    · rw [hwithin.done, hd, hwithin.rounds]
      exact hrounds
  · exact ⟨rfl, congrArg (· + 1) hrounds⟩

/-- **Latexmk keeps watching**: it is idle and not done, and every round that has ended has been
counted and reported. -/
structure Watchful (memory : Memory) (log : Log) : Prop where
  going : log.state.done = false
  phase : memory.phase = .idle
  rounds : memory.rounds = memory.reports.length
  reports : memory.reports.length = log.messages.countP Message.endsRound

/-- **Latexmk that watches stays watchful.** A step within a round adds no report, and one that ends
a round adds one of each. -/
theorem Step.watchful (hstep : Step master true memory log memory' log')
    (h : Watchful memory log) : Watchful memory' log' := by
  rcases hstep.within_or_ends with hwithin | ⟨m, hm, rfl, rfl⟩
  · obtain ⟨ms, hmessages, hms⟩ := hwithin.messages
    have hnone : ms.countP Message.endsRound = 0 :=
      List.countP_eq_zero.2 fun m hm => by simp [hms m hm]
    refine ⟨hwithin.done.trans h.going, ?_, ?_, ?_⟩
    · rcases hwithin.phase with hp | hp
      · exact hp
      · exact hp.trans h.phase
    · rw [hwithin.rounds, hwithin.reports, h.rounds]
    · rw [hwithin.reports, hmessages, List.countP_append, hnone, h.reports]
      rfl
  · refine ⟨h.going, rfl, ?_, ?_⟩
    · show memory.rounds + 1 = (memory.reports ++ [_]).length
      rw [List.length_append, h.rounds]
      rfl
    · show (memory.reports ++ [_]).length = (log.messages ++ [m]).countP Message.endsRound
      rw [List.length_append, List.countP_append, List.countP_singleton, hm, h.reports]
      rfl

/-- Latexmk that does not watch is settled wherever it comes by. -/
theorem settled_of_passes {p : Grammar.Position R Memory} {source : R}
    (h : (grammar master false).Passes verbose ((grammar master false).begin source) p) :
    Settled p.memory p.scope.log :=
  keeps_of_passes h ⟨rfl, rfl⟩ Step.settled

/-- Latexmk that watches is watchful wherever it comes by. -/
theorem watchful_of_passes {p : Grammar.Position R Memory} {source : R}
    (h : (grammar master true).Passes verbose ((grammar master true).begin source) p) :
    Watchful p.memory p.scope.log :=
  keeps_of_passes h ⟨rfl, rfl, rfl, rfl⟩ fun _ => Step.watchful

end Build

variable {R : Type} [LineSource R]

/-- **The discipline of sections.** Every parse of latexmk, watching or not, verbose or not, of
every source, emits messages of its own and closed sections of four tools, in which no other is
opened, so that the divisions of the HTML output are balanced. If it does not watch it is idle after
every statement, with no round ended, until it is done, and then one round has ended. If it watches
it is never done, but idle, and goes on to the end; and its rounds are those that were reported and
those that its messages tell of. The shape of the output comes from the tour of the lines, the tags
from its items one by one, and what is known of phases and rounds from the two invariants along the
positions that a parse passes. -/
theorem section_discipline (master : Text) (verbose : Bool) (source : R) :
    (∀ watching : Bool,
      (∃ items : List Build.Item,
        (parseBuild master watching verbose source).messages
            = items.flatMap (Build.Item.messages master verbose) ∧
          ∀ item ∈ items, item.IsProper master verbose) ∧
      ∀ linker : Linker, ∃ w : DyckWord, w.toList = Html.divTags
        (Format.html.output linker (parseBuild master watching verbose source).messages)) ∧
    ((∀ p, (Build.grammar master false).Passes verbose
        ((Build.grammar master false).begin source) p →
        p.memory.phase = (if p.scope.state.done then .roundFinished else .idle) ∧
        p.memory.rounds = if p.scope.state.done then 1 else 0) ∧
      (Build.parse master false verbose source).memory.phase
        = (if (Build.parse master false verbose source).scope.state.done then .roundFinished
          else .idle) ∧
      (Build.parse master false verbose source).memory.rounds
        = if (Build.parse master false verbose source).scope.state.done then 1 else 0) ∧
    ((∀ p, (Build.grammar master true).Passes verbose
        ((Build.grammar master true).begin source) p →
        p.scope.state.done = false ∧ p.memory.phase = .idle) ∧
      (Build.parse master true verbose source).scope.state.done = false ∧
      (Build.parse master true verbose source).memory.phase = .idle ∧
      LineSource.lines (Build.parse master true verbose source).scope.unread = [] ∧
      (Build.parse master true verbose source).memory.rounds
        = (parseBuild master true verbose source).rounds.length ∧
      (Build.parse master true verbose source).memory.rounds
        = (parseBuild master true verbose source).messages.countP Message.endsRound) := by
  refine ⟨fun watching => ?_, ?_, ?_⟩
  · -- each item of the tour is closed in itself, so that the tags of all of them balance
    obtain ⟨items, htour, hmessages, -⟩ := Build.exists_tour master watching verbose source
    refine ⟨⟨items, hmessages, htour.proper⟩, fun linker => ?_⟩
    rw [Format.divTags_output, hmessages]
    exact Build.divTags_of_isProper htour.proper
  · obtain ⟨p, hp, hmemory, hlog, -⟩ := Grammar.exists_passes_consume (Build.grammar master false)
      verbose ((Build.grammar master false).begin source)
    rw [← Build.parse_eq_consume] at hmemory hlog
    have hsettled := Build.settled_of_passes hp
    rw [← hmemory, ← hlog] at hsettled
    exact ⟨fun q hq => ⟨(Build.settled_of_passes hq).phase, (Build.settled_of_passes hq).rounds⟩,
      hsettled.phase, hsettled.rounds⟩
  · obtain ⟨p, hp, hmemory, hlog, hlines⟩ := Grammar.exists_passes_consume
      (Build.grammar master true) verbose ((Build.grammar master true).begin source)
    rw [← Build.parse_eq_consume] at hmemory hlog hlines
    have hwatchful := Build.watchful_of_passes hp
    have hread := hlines hwatchful.going
    rw [← hmemory, ← hlog] at hwatchful
    refine ⟨fun q hq => ⟨(Build.watchful_of_passes hq).going, (Build.watchful_of_passes hq).phase⟩,
      hwatchful.going, hwatchful.phase, hread, hwatchful.rounds, ?_⟩
    exact hwatchful.rounds.trans hwatchful.reports

end TexTranscript
