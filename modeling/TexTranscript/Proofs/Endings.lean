import TexTranscript.Proofs.Confinement
import TexTranscript.Proofs.Discipline

/-!
# How a parse ends

A tool says that it is done by a statement of its own, and its parser then leaves
unread what follows. If the transcript ends before that, whatever the reason, only an
engine is expected to say so: its parser emits a message about it, in the place of the
one that names the transcript. So how a parse of an engine ends is told by its last
message, and by no other.

Latexmk takes over what the parsers of its sections emit. A parser that runs off the
end of the transcript leaves nothing for latexmk to read, so that its section is the
last thing on the way, and there is at most one of this kind.

## Main definitions

* `Typesetting.Told` – what an engine has told of its end while its parser rests.
* `Typesetting.Finishes` – an engine says that it is done.
* `Build.Item.RunsOff` – a section whose engine ran off the end.

## Main statements

* `Typesetting.parse_ending` – how a parse of an engine ends.
* `Build.Tour.runsOff` – at most the last section on a tour runs off the end.
* `ending_visible_once` – how the parses of all tools end.
-/

namespace TexTranscript

/-- What tells of no end does not tell of an early one. -/
theorem Message.isAbnormal_of_tellsEnd {m : Message} (h : m.tellsEnd = false) :
    m.isAbnormal = false := by
  cases m with
  | abnormalTermination log => exact Bool.noConfusion h
  | _ => rfl

/-- Latexmk says nothing of an end by itself. -/
theorem Message.isAbnormal_of_isOwnOfBuild {m : Message} (h : m.isOwnOfBuild = true) :
    m.isAbnormal = false := by
  cases m with
  | abnormalTermination log => exact Bool.noConfusion h
  | _ => rfl

variable {R : Type} [LineSource R]

/-! ## The typesetting engines -/

namespace Typesetting

variable {master : Text} {verbose : Bool}

/-- **What an engine has told of its end** while its parser rests: nothing until it is done, and
then the name of the transcript, as the last thing. -/
def Told (log : Log) : Prop :=
  if log.state.done then
    ∃ before path, log.messages = before ++ [.transcript path] ∧ ∀ m ∈ before, m.tellsEnd = false
  else ∀ m ∈ log.messages, m.tellsEnd = false

/-- When an engine is done, the name of the transcript is the last thing that it has said. -/
theorem Told.of_done {log : Log} (h : Told log) (hd : log.state.done = true) :
    ∃ before path, log.messages = before ++ [.transcript path] ∧
      ∀ m ∈ before, m.tellsEnd = false := by
  unfold Told at h
  rwa [if_pos hd] at h

/-- Until an engine is done it has told of no end. -/
theorem Told.of_going {log : Log} (h : Told log) (hd : log.state.done = false) :
    ∀ m ∈ log.messages, m.tellsEnd = false := by
  unfold Told at h
  rwa [if_neg (by simp [hd])] at h

/-- What is said without telling the end, and without finishing. -/
theorem Told.of_continues {log log' : Log} (hd : log.state.done = false) (h : Told log)
    (hc : log.Continues (fun m => m.tellsEnd = true → False) False log') : Told log' := by
  obtain ⟨ms, hms, hM⟩ := hc.messages
  have hd' : log'.state.done = false := by
    rw [← Bool.not_eq_true]
    intro hd'
    rcases hc.done hd' with hdone | hF
    · exact absurd (hd.symm.trans hdone) Bool.false_ne_true
    · exact hF
  unfold Told
  rw [if_neg (by simp [hd']), hms]
  exact List.forall_mem_append.2 ⟨h.of_going hd, fun m hm => Bool.eq_false_iff.2 (hM m hm)⟩

/-- **One statement of an engine.** Only the statement that names the transcript tells of the end,
and it finishes at once; after every other one, the log continues without either. -/
theorem Told.dispatch {p : Grammar.Position R Unit} (hd : p.scope.state.done = false)
    (h : Told p.scope.log) (statement : Text) :
    Told ((engine master).dispatch verbose statement p).scope.log := by
  rcases hc : (engine master).classify statement with _ | found
  · exact h.of_continues hd (Grammar.continues_dispatch_of_none verbose
      (fun _ ht => Bool.noConfusion ht) hc p)
  by_cases hlast : found.IsLast
  · obtain ⟨name, rfl⟩ := hlast
    have hlog : ((engine master).dispatch verbose statement p).scope.log
        = (p.scope.log.emit (.transcript (String.ofList (Text.stripAround '"' name)))).record
            .finish := by
      unfold Grammar.dispatch
      rw [hc, ← Scope.log_emit]
      rfl
    rw [hlog]
    exact ⟨p.scope.log.messages, _, rfl, h.of_going hd⟩
  · have hcontinues := (confined master).dispatch verbose hc p
    refine h.of_continues hd ⟨?_, fun hdone => (hcontinues.done hdone).imp_right hlast⟩
    obtain ⟨ms, hms, hM⟩ := hcontinues.messages
    exact ⟨ms, hms, fun m hm ht => hlast (hM m hm ht)⟩

/-- What an engine has told fits to whether it is done, wherever it comes by. -/
theorem told_of_passes {p : Grammar.Position R Unit} {source : R}
    (h : (engine master).Passes verbose ((engine master).begin source) p) : Told p.scope.log := by
  induction h with
  | here => exact List.forall_mem_nil _
  | @statement q statement source _ hd hn ih =>
    exact Told.dispatch (p := q.withUnread source) hd ih statement

/-- The engine on its own has said that it is done. -/
def Finishes (master : Text) (verbose : Bool) (source : R) : Prop :=
  ((engine master).parse verbose ((engine master).begin source)).scope.state.done = true

/-- **How a parse of an engine ends**: with the name of the transcript if it is done, and otherwise,
with nothing left, with the message that it came to an end too early. Either the parser was done by
a statement and has told of its end there, or it went on to the end of the lines, where the one
message is added. -/
theorem parse_ending (master : Text) (verbose : Bool) (source : R) :
    ∃ before last, (parseTranscript .latex master verbose source).messages = before ++ [last] ∧
      (∀ m ∈ before, m.tellsEnd = false) ∧
      ((Finishes master verbose source ∧ ∃ path, last = .transcript path) ∨
        (¬Finishes master verbose source ∧
          last = .abnormalTermination (String.ofList (logFile master)) ∧
          (parseTranscript .latex master verbose source).unread = [])) := by
  let g := engine master
  obtain ⟨p, hpasses, -, hlog, -⟩ := g.exists_passes_consume verbose (g.begin source)
  have htold := told_of_passes hpasses
  rw [← hlog] at htold
  -- what is done at an early end tells of the end only if nothing else has
  rcases hd : (g.consume verbose (g.begin source)).scope.state.done with _ | _
  · have hparse : g.parse verbose (g.begin source)
        = (g.consume verbose (g.begin source)).follow verbose (g.atEnd ()) :=
      if_neg (by simp [hd])
    have hmessages : (g.parse verbose (g.begin source)).scope.messages.toList
        = (g.consume verbose (g.begin source)).scope.log.messages
          ++ [.abnormalTermination (String.ofList (logFile master))] := by
      rw [hparse]
      exact Array.toList_push
    refine ⟨_, _, hmessages, htold.of_going hd,
      .inr ⟨fun hf => ?_, rfl, Grammar.lines_parse_of_not_done hd⟩⟩
    have hf : (g.parse verbose (g.begin source)).scope.state.done = true := hf
    rw [hparse] at hf
    exact absurd (hd.symm.trans hf) Bool.false_ne_true
  · have hparse : g.parse verbose (g.begin source) = g.consume verbose (g.begin source) := if_pos hd
    obtain ⟨before, path, hmessages, hbefore⟩ := htold.of_done hd
    rw [← hparse] at hmessages
    refine ⟨before, .transcript path, hmessages, hbefore, .inl ⟨?_, path, rfl⟩⟩
    show (g.parse verbose (g.begin source)).scope.state.done = true
    rw [hparse, hd]

end Typesetting

/-! ## Latexmk -/

namespace Build

variable {master : Text} {watching verbose : Bool}

/-- **The engine of a section ran off the end**: it has not said that it is done. -/
def Item.RunsOff (master : Text) (verbose : Bool) : Item → Prop
  | inSection .latex _ behind => ¬Typesetting.Finishes master verbose behind
  | _ => False

/-- From the end of the transcript a tour goes nowhere. -/
theorem Tour.of_nil {items : List Item} {unread : List Line}
    (h : Tour master verbose [] items unread) : items = [] ∧ unread = [] := by
  cases h with
  | stopped => exact ⟨rfl, rfl⟩
  | own hn => exact absurd hn (Option.some_ne_none _).symm
  | inSection hn => exact absurd hn (Option.some_ne_none _).symm

/-- **An item says nothing of an early end**, unless it is a section that runs off, and this one
says so by its last message but one. A section of an engine is a parse that stands alone, so that
its ending is known; all other tools say nothing of an early end. -/
theorem Item.runsOff_or_isNormal {item : Item} (h : item.IsProper master verbose) :
    (¬item.RunsOff master verbose ∧ ∀ m ∈ item.messages master verbose, m.IsNormal) ∨
      (item.RunsOff master verbose ∧ ∃ before, item.messages master verbose
          = before ++ [.abnormalTermination (String.ofList (Typesetting.logFile master)),
            .toolFinished .latex] ∧ ∀ m ∈ before, m.IsNormal) := by
  cases item with
  | own message =>
    exact .inl ⟨not_false, List.forall_mem_singleton.2 (Message.isAbnormal_of_isOwnOfBuild h)⟩
  | inSection tool banner behind =>
    -- the messages that open and close it are normal, whatever is said between them
    have enclosed {ms : List Message} (hms : ∀ m ∈ ms, m.IsNormal) :
        ∀ m ∈ .toolStarted tool banner :: ms ++ [.toolFinished tool], m.IsNormal :=
      List.forall_mem_append.2 ⟨List.forall_mem_cons.2 ⟨rfl, hms⟩, List.forall_mem_singleton.2 rfl⟩
    by_cases htool : tool = .latex
    · subst htool
      obtain ⟨before, last, hmessages, hbefore, hend⟩ :=
        Typesetting.parse_ending master verbose behind
      have hnormal : ∀ m ∈ before, m.IsNormal :=
        fun m hm => Message.isAbnormal_of_tellsEnd (hbefore m hm)
      rcases hend with ⟨hf, path, rfl⟩ | ⟨hf, rfl, -⟩
      · refine .inl ⟨not_not_intro hf, enclosed ?_⟩
        rw [hmessages]
        exact List.forall_mem_append.2 ⟨hnormal, List.forall_mem_singleton.2 rfl⟩
      · refine .inr ⟨hf, .toolStarted .latex banner :: before, ?_,
          List.forall_mem_cons.2 ⟨rfl, hnormal⟩⟩
        show .toolStarted .latex banner :: (parseTranscript .latex master verbose behind).messages
          ++ [.toolFinished .latex] = _
        rw [hmessages]
        simp
    · refine .inl ⟨fun hf => ?_, enclosed (isNormal_of_parseTranscript htool ?_ _ _ _)⟩
      · cases tool with
        | latex => exact htool rfl
        | _ => exact hf
      · rintro rfl
        exact absurd h.1 (by decide)

/-- **At most the last section on a tour runs off**, and nothing is left to read after it. Behind a
section that runs off there is nothing left for a tour to go on with. -/
theorem Tour.runsOff {ls unread : List Line} {items : List Item}
    (h : Tour master verbose ls items unread) :
    (∀ item ∈ items, ¬item.RunsOff master verbose) ∨
      ∃ before last, items = before ++ [last] ∧ unread = [] ∧ last.RunsOff master verbose ∧
        ∀ item ∈ before, ¬item.RunsOff master verbose := by
  induction h with
  | stopped ls => exact .inl (List.forall_mem_nil _)
  | @own _ _ _ _ ms items _ _ _ _ ih =>
    have hown : ∀ item ∈ ms.map Item.own, ¬item.RunsOff master verbose := by
      intro item hitem
      obtain ⟨m, -, rfl⟩ := List.mem_map.1 hitem
      exact not_false
    rcases ih with hnone | ⟨before, last, rfl, hunread, hlast, hbefore⟩
    · exact .inl (List.forall_mem_append.2 ⟨hown, hnone⟩)
    · exact .inr ⟨ms.map .own ++ before, last, (List.append_assoc ..).symm, hunread, hlast,
        List.forall_mem_append.2 ⟨hown, hbefore⟩⟩
  | @inSection _ behind _ statement tool _ _ _ hrest ih =>
    by_cases hoff : (Item.inSection tool (String.ofList (Text.trim statement)) behind).RunsOff
        master verbose
    · -- the engine has left nothing, so that there is nothing more on the way
      have hleft : (parseTranscript tool master verbose behind).unread = [] := by
        cases tool with
        | latex =>
          obtain ⟨_, _, -, -, ⟨hf, -⟩ | ⟨-, -, hunread⟩⟩ :=
            Typesetting.parse_ending master verbose behind
          · exact absurd hf hoff
          · exact hunread
        | _ => exact hoff.elim
      rw [hleft] at hrest
      obtain ⟨rfl, hunread⟩ := hrest.of_nil
      exact .inr ⟨[], _, rfl, hunread, hoff, List.forall_mem_nil _⟩
    · rcases ih with hnone | ⟨before, last, rfl, hunread, hlast, hbefore⟩
      · exact .inl (List.forall_mem_cons.2 ⟨hoff, hnone⟩)
      · exact .inr ⟨_ :: before, last, rfl, hunread, hlast, List.forall_mem_cons.2 ⟨hoff, hbefore⟩⟩

/-- **What is said of an early end on a tour**: nothing, unless the last section ran off, and
then by the last message but one. The items in front of the last one are normal, and so is what
they say. -/
theorem Tour.messages_runsOff {ls unread : List Line} {items : List Item}
    (h : Tour master verbose ls items unread) :
    ((∀ item ∈ items, ¬item.RunsOff master verbose) ∧
      ∀ m ∈ items.flatMap (Item.messages master verbose), m.IsNormal) ∨
      ((∃ item ∈ items, item.RunsOff master verbose) ∧ unread = [] ∧
        ∃ before, items.flatMap (Item.messages master verbose)
            = before ++ [.abnormalTermination (String.ofList (Typesetting.logFile master)),
              .toolFinished .latex] ∧ ∀ m ∈ before, m.IsNormal) := by
  -- what does not run off is normal
  have normal {items : List Item} (hproper : ∀ item ∈ items, item.IsProper master verbose)
      (hnone : ∀ item ∈ items, ¬item.RunsOff master verbose) :
      ∀ m ∈ items.flatMap (Item.messages master verbose), m.IsNormal := by
    intro m hm
    obtain ⟨item, hitem, hm⟩ := List.mem_flatMap.1 hm
    rcases Item.runsOff_or_isNormal (hproper item hitem) with ⟨-, hnormal⟩ | ⟨hoff, -⟩
    · exact hnormal m hm
    · exact absurd hoff (hnone item hitem)
  have hproper := h.proper
  rcases h.runsOff with hnone | ⟨before, last, rfl, hunread, hlast, hbefore⟩
  · exact .inl ⟨hnone, normal hproper hnone⟩
  · obtain ⟨hbeforeProper, hlastProper⟩ := List.forall_mem_append.1 hproper
    rcases Item.runsOff_or_isNormal (hlastProper last List.mem_cons_self) with
      ⟨hoff, -⟩ | ⟨-, front, hmessages, hfront⟩
    · exact absurd hlast hoff
    refine .inr ⟨⟨last, by simp, hlast⟩, hunread,
      before.flatMap (Item.messages master verbose) ++ front, ?_,
      List.forall_mem_append.2 ⟨normal hbeforeProper hbefore, hfront⟩⟩
    rw [List.flatMap_append, List.flatMap_singleton, hmessages, List.append_assoc]

/-- Latexmk that keeps watching leaves nothing unread. -/
theorem unread_watching (master : Text) (verbose : Bool) (source : R) :
    (parseBuild master true verbose source).unread = [] := by
  obtain ⟨p, hp, -, hlog, hlines⟩ := Grammar.exists_passes_consume (grammar master true) verbose
    ((grammar master true).begin source)
  rw [← parse_eq_consume] at hlines
  exact hlines (watchful_of_passes hp).going

end Build

/-- **How a parse ends is visible exactly once.** Of every source, whatever lets it down: the last
message of a parse of an engine, and no other, tells how the transcript ends. It names the
transcript if the engine has finished, and otherwise says that it has not, with the log file of the
document, and nothing is left unread.

A parse of latexmk, watching or not, is a tour of its lines. It contains a message about an early
end just if the engine of a section on the way ran off, and not more than one; it is then followed
by the message that closes the section and by nothing else, and nothing is left unread. The other
tools never say such a thing.

Lines are left unread only by a tool that was done at the statement that ends its transcript, and
never by latexmk that keeps watching. For latexmk the items of its tour are looked at from behind:
if the last one runs off, its message is the last but one of them all. -/
theorem ending_visible_once (master : Text) (verbose : Bool) (source : R) :
    (∃ before last, (parseTranscript .latex master verbose source).messages = before ++ [last] ∧
      (∀ m ∈ before, m.tellsEnd = false) ∧
      ((Typesetting.Finishes master verbose source ∧ ∃ path, last = .transcript path) ∨
        (¬Typesetting.Finishes master verbose source ∧
          last = .abnormalTermination (String.ofList (Typesetting.logFile master)) ∧
          (parseTranscript .latex master verbose source).unread = []))) ∧
    (∀ watching : Bool, ∃ items : List Build.Item,
      Build.Tour master verbose (LineSource.lines source) items
          (parseBuild master watching verbose source).unread ∧
        (parseBuild master watching verbose source).messages
          = items.flatMap (Build.Item.messages master verbose) ∧
        ((∃ m ∈ (parseBuild master watching verbose source).messages, m.isAbnormal = true) ↔
          ∃ item ∈ items, item.RunsOff master verbose) ∧
        (parseBuild master watching verbose source).messages.countP Message.isAbnormal ≤ 1 ∧
        ((∃ m ∈ (parseBuild master watching verbose source).messages, m.isAbnormal = true) →
          (∃ before log, (parseBuild master watching verbose source).messages
            = before ++ [.abnormalTermination log, .toolFinished .latex]) ∧
          (parseBuild master watching verbose source).unread = [])) ∧
    (∀ tool : Tool, tool ≠ .latex → tool ≠ .latexmk →
      ∀ m ∈ (parseTranscript tool master verbose source).messages, m.isAbnormal = false) ∧
    (∀ tool : Tool, (parseTranscript tool master verbose source).unread ≠ [] →
      tool.SaysDone master verbose source) ∧
    (parseBuild master true verbose source).unread = [] := by
  refine ⟨Typesetting.parse_ending master verbose source, fun watching => ?_,
    fun tool hlatex hlatexmk => isNormal_of_parseTranscript hlatex hlatexmk master verbose source,
    fun tool => saysDone_of_unread, Build.unread_watching master verbose source⟩
  obtain ⟨items, htour, hmessages, -⟩ := Build.exists_tour master watching verbose source
  refine ⟨items, htour, hmessages, ?_⟩
  rw [hmessages]
  -- an engine that runs off is the last item, and no other message tells of it
  rcases htour.messages_runsOff with ⟨hnone, hnormal⟩ | ⟨hsome, hunread, before, hlast, hbefore⟩
  · have hno : ¬∃ m ∈ items.flatMap (Build.Item.messages master verbose), m.isAbnormal = true := by
      rintro ⟨m, hm, habnormal⟩
      exact Bool.false_ne_true ((hnormal m hm).symm.trans habnormal)
    refine ⟨⟨fun h => absurd h hno, fun ⟨item, hitem, hoff⟩ => absurd hoff (hnone item hitem)⟩, ?_,
      fun h => absurd h hno⟩
    rw [countP_isAbnormal hnormal]
    exact Nat.zero_le 1
  · rw [hlast]
    refine ⟨⟨fun _ => hsome, fun _ => ⟨_, List.mem_append_right _ List.mem_cons_self, rfl⟩⟩, ?_,
      fun _ => ⟨⟨before, _, rfl⟩, hunread⟩⟩
    rw [List.countP_append, countP_isAbnormal hbefore]
    exact Nat.le_refl 1

end TexTranscript