import Mathlib.Logic.Relation
import TexTranscript.Grammar.Glossary
import TexTranscript.Grammar.Lint
import TexTranscript.Grammar.Typesetting
import TexTranscript.Grammar.Bibliography
import TexTranscript.Proofs.Ensures
import TexTranscript.Proofs.Recognition

/-!
# Deeds

The parsers of the single tools do few things to their logs, though in many
places: they mention something, they report a problem, they enter a file, they
finish. Such a *deed* emits at most one message and does to the state what this
message stands for. A *course* of deeds leads from one log to another.

What a parser may do is said for each tool apart (`Permits`): BibTeX does not
know any lines, makeindex does not know any problems, and only the engines say
by a located error that all is lost. Every reaction of the grammar of a tool is
a course of deeds that this tool permits, so that what holds of a whole parse
follows from what holds of a single deed (`Grammar.Performs.parse`).

## Main definitions

* `Deed`, `Log.perform` – deeds, and what they do.
* `Permits` – what the parser of a tool may do.
* `Log.Course` – logs that deeds lead to.

## Main statements

* `Typesetting.performs`, `Bibliography.bibtex_performs`,
  `Bibliography.biber_performs`, `Index.performs`, `Lint.performs`,
  `Glossary.performs` – the grammars do what their tools permit.
-/

namespace TexTranscript

open Relation

/-! ## What deeds do -/

/-- The message only passes something on. It counts nothing, marks nothing and enters no
file, and it is none of latexmk's. -/
def Message.IsMention : Message → Prop
  | warning .. | error .. | fatal .. | fileEntered .. | latexmk .. | toolStarted ..
  | toolFinished .. | runSummary .. | summary .. => False
  | _ => True

theorem Message.mark?_of_isMention {m : Message} (h : m.IsMention) : m.mark? = none := by
  cases m with
  | warning text location => exact h.elim
  | error text location => exact h.elim
  | _ => rfl

/-- The message is one that the parser of a single tool can emit: none of latexmk's, and no
summary. -/
def Message.IsOfTool : Message → Prop
  | latexmk .. | toolStarted .. | toolFinished .. | runSummary .. | summary .. => False
  | _ => True

/-- What is only mentioned can be said by the parser of a single tool. -/
theorem Message.isOfTool_of_isMention {m : Message} (h : m.IsMention) : m.IsOfTool := by
  cases m with
  | latexmk text => exact h.elim
  | toolStarted tool banner => exact h.elim
  | toolFinished tool => exact h.elim
  | runSummary run errors warnings => exact h.elim
  | summary outcome runs => exact h.elim
  | _ => trivial

/-- **What the parser of a single tool can do.** -/
inductive Deed where
  | mention (message : Message)
  /-- Reports a warning or an error, which may say that all is lost. -/
  | problem (severity : Severity) (text : Text) (location : Option Location) (raises : Bool)
  /-- Reports a fatal error, which counts as an error unless it has been counted. -/
  | fatal (text : Text) (counts : Bool)
  | enterFile (path : String)
  | finish
deriving Repr, DecidableEq

namespace Deed

/-- The message that is emitted. -/
@[simp] def message? : Deed → Option Message
  | mention message => some message
  | problem .warning text location _ => some (.warning (String.ofList text) location)
  | problem .error text location _ => some (.error (String.ofList text) location)
  | fatal text _ => some (.fatal (String.ofList text))
  | enterFile path => some (.fileEntered path)
  | finish => none

/-- What is counted. -/
@[simp] def amount : Deed → Outcome
  | problem .warning _ _ raises => ⟨raises, 0, 1⟩
  | problem .error _ _ raises => ⟨raises, 1, 0⟩
  | fatal _ counts => ⟨true, if counts then 1 else 0, 0⟩
  | _ => .clean

/-- The source file that the tool is in afterwards. -/
@[simp] def fileAfter : Deed → Option String → Option String
  | enterFile path, _ => some path
  | _, file => file

/-- The tool is done. -/
@[simp] def finishes : Deed → Bool
  | finish => true
  | _ => false

end Deed

namespace Log

/-- **The log after a deed.** Its message is emitted and marked, its amount is counted for
the run and altogether. -/
def perform (log : Log) (d : Deed) : Log where
  state :=
    { done := log.state.done || d.finishes
      tally := ⟨log.state.tally.run + d.amount, log.state.tally.total + d.amount⟩
      currentFile := d.fileAfter log.state.currentFile
      marks := log.state.marks ++ (d.message?.bind Message.mark?).toList }
  messages := log.messages ++ d.message?.toList

/-- One log leads to another by a deed that is permitted. -/
def Step (P : ParseState → Deed → Prop) (log log' : Log) : Prop :=
  ∃ d, P log.state d ∧ log' = log.perform d

/-- **One log leads to another** by deeds that are permitted. -/
def Course (P : ParseState → Deed → Prop) : Log → Log → Prop := ReflTransGen (Step P)

/-- What every deed that is permitted keeps holds where a course leads to. This is the one induction
over courses; whatever is claimed of all that a tool does comes down to its deeds, of which there
are seven kinds. -/
theorem Course.keeps {P : ParseState → Deed → Prop} {I : Log → Prop} {log log' : Log}
    (h : log.Course P log') (hlog : I log)
    (hdeed : ∀ {log : Log} {d : Deed}, P log.state d → I log → I (log.perform d)) : I log' := by
  induction h with
  | refl => exact hlog
  | tail _ hstep ih =>
    obtain ⟨d, hd, rfl⟩ := hstep
    exact hdeed hd ih

theorem Course.of_deed {P : ParseState → Deed → Prop} {log log' : Log} {d : Deed}
    (h : P log.state d) (he : log' = log.perform d) : log.Course P log' := .single ⟨d, h, he⟩

end Log

namespace Tool

/-- The parser of the tool reports problems without a line. -/
def reportsPlainly : Tool → Bool
  | makeindex | chktex => false
  | _ => true

/-- The tool can say that all is lost. -/
def knowsFatal : Tool → Bool
  | latex | biber => true
  | _ => false

/-- The tool says when it is done. -/
def announcesEnd : Tool → Bool
  | makeglossaries => false
  | _ => true

end Tool

/-- **What the parser of a tool may do.** The document is the one that is typeset. -/
inductive Permits (master : Text) : Tool → ParseState → Deed → Prop
  | mention {tool : Tool} {state : ParseState} {m : Message} (h : m.IsMention) :
      Permits master tool state (.mention m)
  /-- A problem without a line. -/
  | unlocated {tool : Tool} {state : ParseState} {severity : Severity} {text : Text}
      (h : tool.reportsPlainly = true) :
      Permits master tool state (.problem severity text none false)
  /-- An engine gives the line of a warning in the file that it is in. -/
  | attributed {state : ParseState} {text : Text} {line : UInt32} :
      Permits master .latex state (.problem .warning text
        (some ⟨state.currentFile.getD (String.ofList (sourceName master)), line⟩) false)
  /-- An engine gives the file and the line of an error, and may be lost. -/
  | fileLineError {state : ParseState} {text : Text} {location : Location} :
      Permits master .latex state (.problem .error text (some location)
        (Text.hasPart "Fatal error".toList text))
  /-- The linter gives the file and the line of all it finds. -/
  | finding {state : ParseState} {severity : Severity} {text : Text} {location : Location} :
      Permits master .chktex state (.problem severity text (some location) false)
  /-- What an engine says after `==>` belongs to an error that has been counted. -/
  | fatal {tool : Tool} {state : ParseState} {text : Text} (h : tool.knowsFatal = true) :
      Permits master tool state (.fatal text (!Text.startsWith "==>".toList text))
  | enterFile {state : ParseState} {path : String} :
      Permits master .latex state (.enterFile path)
  | finish {tool : Tool} {state : ParseState} (h : tool.announcesEnd = true) :
      Permits master tool state .finish

/-- **What the parser of a single tool emits** is none of latexmk's messages. -/
theorem Permits.isOfTool {master : Text} {tool : Tool} {state : ParseState} {d : Deed}
    {m : Message} (h : Permits master tool state d) (hm : d.message? = some m) : m.IsOfTool := by
  cases h with
  | mention hmention =>
    obtain rfl := Option.some.inj hm
    exact Message.isOfTool_of_isMention hmention
  | @unlocated _ _ severity => cases severity with
    | warning => cases hm; trivial
    | error => cases hm; trivial
  | attributed => cases hm; trivial
  | fileLineError => cases hm; trivial
  | @finding _ severity => cases severity with
    | warning => cases hm; trivial
    | error => cases hm; trivial
  | fatal => cases hm; trivial
  | enterFile => cases hm; trivial
  | finish => simp at hm

/-- Along a course no message is one of latexmk's. -/
theorem Log.Course.isOfTool {master : Text} {tool : Tool} {log : Log}
    (h : ({} : Log).Course (Permits master tool) log) : ∀ m ∈ log.messages, m.IsOfTool := by
  refine h.keeps (I := fun log => ∀ m ∈ log.messages, m.IsOfTool) (by simp)
    fun {log d} hp hlog m hm => ?_
  rcases List.mem_append.1 hm with hm | hm
  · exact hlog m hm
  · exact hp.isOfTool (Option.mem_toList.1 hm)

/-! ## What reports do to a log -/

/-- An error that is fatal. -/
theorem Outcome.oneError_add_flagged : oneError + flagged = ⟨true, 1, 0⟩ := rfl

namespace Log

variable (log : Log) (text : Text) (location : Location)

/-- To report a problem is to emit its message, to mark the line that it is about, and to count
it. -/
theorem perform_warning : log.perform (.problem .warning text none false)
    = (log.emit (.warning (String.ofList text) none)).record (.count .warning) := by
  simp [emit, record, perform, ParseState.record, Tally.record, Tally.Step.amount,
    Outcome.oneWarning, Message.mark?]

theorem perform_error : log.perform (.problem .error text none false)
    = (log.emit (.error (String.ofList text) none)).record (.count .error) := by
  simp [emit, record, perform, ParseState.record, Tally.record, Tally.Step.amount,
    Outcome.oneError, Message.mark?]

theorem perform_locatedWarning : log.perform (.problem .warning text (some location) false)
    = ((log.record (.addMark ⟨location.file, location.line, .warning, String.ofList text⟩)).emit
        (.warning (String.ofList text) (some location))).record (.count .warning) := by
  simp [emit, record, perform, ParseState.record, Tally.record, Tally.Step.amount,
    Outcome.oneWarning, Message.mark?]

theorem perform_locatedError : log.perform (.problem .error text (some location) false)
    = ((log.record (.addMark ⟨location.file, location.line, .error, String.ofList text⟩)).emit
        (.error (String.ofList text) (some location))).record (.count .error) := by
  simp [emit, record, perform, ParseState.record, Tally.record, Tally.Step.amount,
    Outcome.oneError, Message.mark?]

/-- An error that says that all is lost. -/
theorem perform_lost : log.perform (.problem .error text (some location) true)
    = (log.perform (.problem .error text (some location) false)).record (.count .fatal) := by
  simp [record, perform, ParseState.record, Tally.record, Tally.Step.amount, Outcome.add_assoc,
    ← Outcome.oneError_add_flagged, Outcome.oneError]

theorem perform_fatal : log.perform (.fatal text true)
    = ((log.emit (.fatal (String.ofList text))).record (.count .error)).record (.count .fatal) := by
  simp [emit, record, perform, ParseState.record, Tally.record, Tally.Step.amount,
    Message.mark?, Outcome.add_assoc, Outcome.oneError_add_flagged]

theorem perform_finish : log.perform .finish = log.record .finish := by
  simp [record, perform, ParseState.record]

variable {log}

theorem perform_mention {m : Message} (h : m.mark? = none) :
    log.perform (.mention m) = log.emit m := by
  simp [emit, perform, h]

end Log

namespace Reaction

variable {R ν : Type} [LineSource R] (verbose : Bool) (text : Text) (location : Location)
  (s : Scope R)

theorem log_run_warning : ((warning text : Reaction ν Unit).run verbose s).2.log
    = s.log.perform (.problem .warning text none false) :=
  run_ensures verbose (r := warning text)
    (Q := fun _ log => log = s.log.perform (.problem .warning text none false))
    (s.log.perform_warning text).symm

theorem log_run_locatedWarning :
    ((locatedWarning text location : Reaction ν Unit).run verbose s).2.log
    = s.log.perform (.problem .warning text (some location) false) :=
  run_ensures verbose (r := locatedWarning text location)
    (Q := fun _ log => log = s.log.perform (.problem .warning text (some location) false))
    (s.log.perform_locatedWarning text location).symm

theorem log_run_locatedError :
    ((locatedError text location : Reaction ν Unit).run verbose s).2.log
    = s.log.perform (.problem .error text (some location) false) :=
  run_ensures verbose (r := locatedError text location)
    (Q := fun _ log => log = s.log.perform (.problem .error text (some location) false))
    (s.log.perform_locatedError text location).symm

end Reaction

/-! ## What reactions do -/

variable {σ ι ν α β : Type} {P : ParseState → Deed → Prop}

/-- From a log, the reaction **performs** deeds that are permitted. -/
def Reaction.PerformsFrom (P : ParseState → Deed → Prop) (log : Log) (r : Reaction ν α) : Prop :=
  r.Ensures (fun _ log' => log.Course P log') log

/-- The reaction **performs** deeds that are permitted, whatever the log. -/
def Reaction.Performs (P : ParseState → Deed → Prop) (r : Reaction ν α) : Prop :=
  ∀ log : Log, r.PerformsFrom P log

namespace Reaction

/-- **In sequence**, what comes after may do what is permitted whatever was answered. The course of
the second begins where the one of the first has led. -/
theorem PerformsFrom.bind {log : Log} {r : Reaction ν α} {f : α → Reaction ν β}
    (hr : r.PerformsFrom P log) (hf : ∀ a, (f a).Performs P) : (r.bind f).PerformsFrom P log := by
  unfold PerformsFrom
  rw [ensures_bind]
  refine hr.mono fun a log' hlog => ?_
  exact (hf a log').mono fun b log'' hlog' => hlog.trans hlog'

theorem Performs.bind {r : Reaction ν α} {f : α → Reaction ν β} (hr : r.Performs P)
    (hf : ∀ a, (f a).Performs P) : (r.bind f).Performs P :=
  fun log => (hr log).bind hf

theorem Performs.done (result : α) : (done result : Reaction ν α).Performs P :=
  fun _ => ReflTransGen.refl

theorem Performs.nextLine : (nextLine : Reaction ν (Option Text)).Performs P :=
  fun _ _ => ReflTransGen.refl

theorem Performs.say {m : Message} (hm : m.IsMention) (h : ∀ state, P state (.mention m)) :
    (say m : Reaction ν Unit).Performs P :=
  fun log => Log.Course.of_deed (h log.state)
    (Log.perform_mention (Message.mark?_of_isMention hm)).symm

theorem Performs.finish (h : ∀ state, P state .finish) :
    (finish : Reaction ν Unit).Performs P :=
  fun log => Log.Course.of_deed (h log.state) log.perform_finish.symm

theorem Performs.warning {text : Text} (h : ∀ state, P state (.problem .warning text none false)) :
    (warning text : Reaction ν Unit).Performs P :=
  fun log => Log.Course.of_deed (h log.state) (log.perform_warning text).symm

theorem Performs.error {text : Text} (h : ∀ state, P state (.problem .error text none false)) :
    (error text : Reaction ν Unit).Performs P :=
  fun log => Log.Course.of_deed (h log.state) (log.perform_error text).symm

theorem Performs.fatal {text : Text} (h : ∀ state, P state (.fatal text true)) :
    (fatal text : Reaction ν Unit).Performs P :=
  fun log => Log.Course.of_deed (h log.state) (log.perform_fatal text).symm

theorem PerformsFrom.locatedWarning {text : Text} {location : Location} {log : Log}
    (h : P log.state (.problem .warning text (some location) false)) :
    (locatedWarning text location : Reaction ν Unit).PerformsFrom P log :=
  Log.Course.of_deed h (log.perform_locatedWarning text location).symm

theorem Performs.locatedWarning {text : Text} {location : Location}
    (h : ∀ state, P state (.problem .warning text (some location) false)) :
    (locatedWarning text location : Reaction ν Unit).Performs P :=
  fun log => PerformsFrom.locatedWarning (h log.state)

theorem Performs.locatedError {text : Text} {location : Location}
    (h : ∀ state, P state (.problem .error text (some location) false)) :
    (locatedError text location : Reaction ν Unit).Performs P :=
  fun log => Log.Course.of_deed (h log.state) (log.perform_locatedError text location).symm

end Reaction

/-! ## What grammars do -/

/-- **The grammar performs** deeds that are permitted: its reactions do, and so does the
echo of a statement. -/
structure Grammar.Performs (P : ParseState → Deed → Prop) (g : Grammar σ ι ν) : Prop where
  react : ∀ {statement : Text} {found : ι} (memory : σ), g.classify statement = some found →
    (g.react found statement memory).Performs P
  echo : ∀ {state : ParseState} (statement : String), P state (.mention (.verbatim statement))
  atEnd : ∀ memory, (g.atEnd memory).Performs P

/-- **A parse is a course** of deeds that are permitted. A course that has led somewhere is
continued by every statement, and by what is done at the end. -/
theorem Grammar.Performs.keeps {g : Grammar σ ι ν} (h : g.Performs P) :
    g.Keeps fun _ log => ({} : Log).Course P log where
  start := ReflTransGen.refl
  react := fun hc _ hlog =>
    (h.react _ hc _).mono fun _ _ hlog' => hlog.trans hlog'
  echo := fun {statement memory log} hc _ hlog => by
    have hsay : (Reaction.say (.verbatim (String.ofList statement)) : Reaction ν Unit).Performs P :=
      .say trivial fun _ => h.echo _
    exact hlog.trans (hsay log)
  atEnd := fun _ hlog => (h.atEnd _ _).mono fun _ _ hlog' => hlog.trans hlog'

section

variable {master : Text} {tool : Tool}

/-- Every tool may mention something. -/
theorem Reaction.Performs.mention {m : Message} (h : m.IsMention) :
    (Reaction.say m : Reaction ν Unit).Performs (Permits master tool) := .say h fun _ => .mention h

end

/-! ### The bibliography tools -/

namespace Bibliography

/-- BibTeX mentions and counts, and is done at its closing line. -/
theorem bibtex_performs (master : Text) :
    (bibtex : Grammar Unit BibtexFinding ν).Performs (Permits master .bibtex) where
  react := by
    intro statement found memory hc
    cases found with
    | remark => exact .mention trivial
    | warning => exact .warning fun _ => .unlocated rfl
    | error => exact .error fun _ => .unlocated rfl
    | finished => exact .finish fun _ => .finish rfl
  echo := fun _ => .mention trivial
  atEnd := fun memory => .done memory

/-- Biber says that something is fatal with a word and not with an arrow. So a fatal error of Biber
is always a new one and is counted. -/
theorem not_arrow_of_fatal {statement : Text}
    (h : (biber : Grammar _ _ ν).classify statement = some .fatal) :
    Text.startsWith "==>".toList statement = false := by
  obtain ⟨rule, hrule, hmatch, groups, hread⟩ := Grammar.exists_rule_of_classify h
  have hp : rule.pattern = .lit "FATAL" := by
    change rule ∈ biberRules at hrule
    simp only [biberRules, List.mem_cons, List.not_mem_nil, or_false] at hrule
    rcases hrule with rfl | rfl | rfl | rfl | rfl | rfl
    -- no other rule reads this
    all_goals first
      | (simp [Rule.sign] at hread; done)
      | rfl
      | (dsimp only at hread; split at hread <;> simp at hread)
  rw [hp, Pattern.matchesStart_lit, Text.startsWith_iff] at hmatch
  obtain ⟨rest, rfl⟩ := hmatch
  rfl

/-- Biber mentions, counts and marks nothing; a fatal error of it is an error as well. -/
theorem biber_performs (master : Text) :
    (biber : Grammar (Option Text) BiberFinding ν).Performs (Permits master .biber) where
  react := by
    intro statement found announced hc
    cases found with
    | remark => exact Reaction.Performs.bind (.mention (by trivial)) fun _ => .done _
    | logfile name =>
      exact Reaction.Performs.bind (.mention (by trivial)) fun _ => .done _
    | warning =>
      exact (Reaction.Performs.warning fun _ => .unlocated rfl).bind fun _ => .done _
    | error =>
      exact (Reaction.Performs.error fun _ => .unlocated rfl).bind fun _ => .done _
    | fatal =>
      have hfatal : ∀ state, Permits master .biber state (.fatal statement true) := fun state => by
        have hp : Permits master .biber state
            (.fatal statement (!Text.startsWith "==>".toList statement)) := .fatal rfl
        rwa [not_arrow_of_fatal hc] at hp
      exact (Reaction.Performs.fatal hfatal).bind fun _ => .done _
    | output path =>
      exact Reaction.Performs.bind (.mention (by trivial)) fun _ =>
        (Reaction.Performs.finish fun _ => .finish rfl).bind fun _ => .done _
  echo := fun _ => .mention trivial
  atEnd := fun memory => .done memory

end Bibliography

/-! ### The index processor -/

/-- Makeindex does nothing but mention things and finish. -/
theorem Index.performs (master : Text) (extensions : List Text) :
    (grammar extensions : Grammar Unit Finding ν).Performs (Permits master .makeindex) where
  react := by
    intro statement found memory hc
    cases found with
    | transcript description path =>
      exact Reaction.Performs.bind (.mention (by trivial)) fun _ =>
        .finish fun _ => .finish rfl
    | _ => exact .mention trivial
  echo := fun _ => .mention trivial
  atEnd := fun memory => .done memory

/-! ### The linter -/

namespace Lint

/-- The source line below a finding is only mentioned. -/
theorem quoteSource_performs (master : Text) :
    (quoteSource : Reaction ν Unit).Performs (Permits master .chktex) := by
  refine Reaction.Performs.nextLine.bind fun source => ?_
  cases source with
  | none => exact .done ()
  | some source =>
    show (if hasCaret source then _ else _ : Reaction ν Unit).Performs _
    split
    · exact Reaction.Performs.nextLine.bind fun caret => .mention trivial
    · exact .done ()

theorem performs (master : Text) :
    (grammar : Grammar Unit Finding ν).Performs (Permits master .chktex) where
  react := by
    intro statement found memory hc
    cases found with
    | remark => exact .mention trivial
    | problem severity file line description =>
      cases severity with
      | error => exact (Reaction.Performs.locatedError fun _ => .finding).bind fun _ =>
          quoteSource_performs master
      | warning => exact (Reaction.Performs.locatedWarning fun _ => .finding).bind fun _ =>
          quoteSource_performs master
    | finished => exact .finish fun _ => .finish rfl
  echo := fun _ => .mention trivial
  atEnd := fun memory => .done memory

end Lint

/-! ### The typesetting engines -/

namespace Typesetting

theorem readOne_ne_fatal {found : Text → Finding} (h : ∀ text, found text ≠ .fatal)
    (groups : List Text) : readOne found groups ≠ some .fatal := by
  unfold readOne
  split
  · next text => exact fun hf => h text (Option.some.inj hf)
  · simp

theorem readError_ne_fatal (groups : List Text) : readError groups ≠ some .fatal := by
  unfold readError
  split
  · simp
  · simp

/-- What an engine says to be fatal in a statement of its own stands behind white space. The pattern
of this rule wants white space in front of the arrow, and so the text cannot begin with one. -/
theorem not_arrow_of_fatal {master statement : Text}
    (h : (grammar master : Grammar _ _ ν).classify statement = some .fatal) :
    Text.startsWith "==>".toList statement = false := by
  obtain ⟨rule, hrule, hmatch, groups, hread⟩ := Grammar.exists_rule_of_classify h
  have hp : rule.pattern = .several .blank ++ .lit "==>" := by
    change rule ∈ rules (extension master) at hrule
    simp only [rules, List.mem_cons, List.not_mem_nil, or_false] at hrule
    rcases hrule with rfl | rfl | rfl | rfl | rfl | rfl | rfl | rfl | rfl | rfl | rfl | rfl | rfl |
      rfl | rfl | rfl | rfl
    -- all rules but the last read something else
    all_goals first
      | (simp [Rule.sign] at hread; done)
      | rfl
      | exact absurd hread (readOne_ne_fatal (by simp) groups)
      | exact absurd hread (readError_ne_fatal groups)
      | (dsimp only at hread; split at hread <;> simp at hread)
  rw [hp] at hmatch
  obtain ⟨x, u, rfl, hx⟩ := Pattern.head_of_matchesStart_several hmatch
  -- white space is no part of an arrow
  rw [← Bool.not_eq_true, Text.startsWith_iff]
  rintro ⟨rest, hrest⟩
  have hx' : x = '=' := (List.cons.inj hrest).1
  rw [hx'] at hx
  exact absurd hx (by decide)

variable {master : Text}

/-- The file that the engine is in is asked for, and the log stays as it is. -/
theorem currentFile_performs {log : Log} {f : String → Reaction ν α}
    (h : (f (log.state.currentFile.getD (String.ofList (sourceName master)))).PerformsFrom P log) :
    ((currentFile master).bind f).PerformsFrom P log := h

/-- A wrapped warning is one deed: it is attributed to the file that the engine is in if its next
line has a number, and has no location otherwise. -/
theorem reactToWrapped_performs (statement : Text) :
    (reactToWrapped master statement : Reaction ν Unit).Performs (Permits master .latex) := by
  refine Reaction.Performs.nextLine.bind fun next => ?_
  cases next with
  | none => exact .warning fun _ => .unlocated rfl
  | some next =>
    dsimp only
    split
    · exact fun log => currentFile_performs (Reaction.PerformsFrom.locatedWarning .attributed)
    · exact .warning fun _ => .unlocated rfl

/-- The arrow in front of a fatal error is still there when it has been trimmed. -/
theorem arrow_trim {next : Text}
    (h : Text.startsWith " ==> Fatal error occurred".toList next = true) :
    Text.startsWith "==>".toList (Text.trim next) = true := by
  obtain ⟨rest, rfl⟩ := Text.startsWith_iff.1 h
  have hspace : ∀ c ∈ [' '], Text.isBlank c = true := by
    intro c hc
    obtain rfl := List.mem_singleton.1 hc
    decide
  have harrow : ∀ c ∈ ['=', '=', '>'], Text.isBlank c = false := by
    intro c hc
    simp only [List.mem_cons, List.not_mem_nil, or_false] at hc
    rcases hc with rfl | rfl | rfl
    · decide
    · decide
    · decide
  exact Text.startsWith_stripBy [' '] ['=', '=', '>'] hspace harrow
    (" Fatal error occurred".toList ++ rest)

/-- A runaway argument is an error, and if all is lost the arrow in the next line shows that it was
counted before. -/
theorem reactToRunaway_performs (statement : Text) :
    (reactToRunaway statement : Reaction ν Unit).Performs (Permits master .latex) := by
  refine (Reaction.Performs.error fun _ => .unlocated rfl).bind fun _ => ?_
  refine Reaction.Performs.nextLine.bind fun next => ?_
  cases next with
  | none => exact .done ()
  | some next =>
    dsimp only
    split
    · next h =>
      -- the error was counted when the runaway argument was reported
      intro log
      have hp : Permits master .latex log.state
          (.fatal (Text.trim next) (!Text.startsWith "==>".toList (Text.trim next))) :=
        .fatal rfl
      rw [arrow_trim h] at hp
      refine Log.Course.of_deed hp ?_
      simp [Log.emit, Log.record, Log.perform, ParseState.record, Tally.record, Tally.Step.amount,
        Message.mark?, Outcome.flagged]
    · exact .mention trivial

/-- **An error with its file and its line** is one deed, which says that all is lost if its text
does. -/
theorem reactToError_ensures (text : Text) (location : Location) (log : Log) :
    ((Reaction.locatedError text location).bind fun _ =>
      if Text.hasPart "Fatal error".toList text then Reaction.enter (.count .fatal)
      else pure () : Reaction ν Unit).Ensures
        (fun _ log' => log' = log.perform (.problem .error text (some location)
          (Text.hasPart "Fatal error".toList text))) log := by
  have hreport := log.perform_locatedError text location
  refine Reaction.ensures_bind.2 ?_
  cases hf : Text.hasPart "Fatal error".toList text with
  | true =>
    rw [log.perform_lost, hreport]
    rfl
  | false => exact hreport.symm

theorem reactToError_performs (text : Text) (location : Location) :
    ((Reaction.locatedError text location).bind fun _ =>
      if Text.hasPart "Fatal error".toList text then Reaction.enter (.count .fatal)
      else pure () : Reaction ν Unit).Performs (Permits master .latex) := by
  intro log
  refine (reactToError_ensures text location log).mono fun _ log' hlog => ?_
  exact Log.Course.of_deed .fileLineError hlog

theorem performs (master : Text) :
    (grammar master : Grammar Unit Finding ν).Performs (Permits master .latex) where
  react := by
    intro statement found memory hc
    cases found with
    | remark => exact .mention trivial
    | fileEntered name =>
      intro log
      have hp : Permits master .latex log.state (.enterFile (String.ofList (sourceName name))) :=
        .enterFile
      refine Log.Course.of_deed hp ?_
      simp [Log.emit, Log.record, Log.perform, ParseState.record, Message.mark?]
    | inclusion path => exact .mention trivial
    | warning line =>
      exact fun log => currentFile_performs (Reaction.PerformsFrom.locatedWarning .attributed)
    | wrappedWarning => exact reactToWrapped_performs statement
    | formatWarning => exact .mention trivial
    | error file line description => exact reactToError_performs _ _
    | runaway => exact reactToRunaway_performs statement
    | transcript name =>
      exact Reaction.Performs.bind (.mention (by trivial)) fun _ =>
        .finish fun _ => .finish rfl
    | alert =>
      dsimp only [grammar, react]
      split
      · exact .error fun _ => .unlocated rfl
      · exact .warning fun _ => .unlocated rfl
    | fatal =>
      refine .fatal fun state => ?_
      have hp : Permits master .latex state
          (.fatal statement (!Text.startsWith "==>".toList statement)) := .fatal rfl
      rwa [not_arrow_of_fatal hc] at hp
  echo := fun _ => .mention trivial
  atEnd := fun memory => .mention trivial

end Typesetting

/-! ### The glossary maker -/

/-- **Makeindex only mentions things.** It counts nothing. So there is nothing to absorb when
makeindex gives the transcript back. -/
theorem Index.mentions_of_course {master : Text} {log : Log}
    (h : ({} : Log).Course (Permits master .makeindex) log) :
    log.state.outcome = .clean ∧ ∀ m ∈ log.messages, m.IsMention := by
  refine h.keeps (I := fun log => log.state.outcome = .clean ∧ ∀ m ∈ log.messages, m.IsMention)
    ⟨rfl, by simp⟩ fun {log d} hp hlog => ?_
  have hsum : ∀ o : Outcome, o = .clean → o + .clean = .clean := fun o ho => by
    rw [ho, Outcome.add_clean]
  cases hp with
  | @mention _ _ m hm =>
    refine ⟨hsum _ hlog.1, fun m' hm' => ?_⟩
    rcases List.mem_append.1 hm' with hm' | hm'
    · exact hlog.2 m' hm'
    · obtain rfl : m' = m := by simpa using hm'
      exact hm
  -- makeindex is no tool that reports problems
  | unlocated h => exact Bool.noConfusion h
  | fatal h => exact Bool.noConfusion h
  | finish h => exact ⟨hsum _ hlog.1, by simpa [Log.perform] using hlog.2⟩

/-- What counted nothing leaves the state as it is when it is taken over. -/
theorem Log.state_takeOver {nested : ParseState} (hn : nested.outcome = .clean)
    (messages : List Message) (log : Log) : (log.takeOver nested messages).state = log.state := by
  simp [takeOver, ParseState.record, Tally.record, Tally.Step.amount, hn]

/-- To take over what only mentions things is to mention them. The messages are mentioned one after
the other, and the state is left alone, since nothing was counted. -/
theorem Log.course_takeOver {master : Text} {tool : Tool} {nested : ParseState}
    (hn : nested.outcome = .clean) {messages : List Message} (hm : ∀ m ∈ messages, m.IsMention)
    (log : Log) : log.Course (Permits master tool) (log.takeOver nested messages) := by
  induction messages generalizing log with
  | nil =>
    -- what is left to do is to absorb nothing
    have he : log.takeOver nested [] = log :=
      congrArg₂ Log.mk (log.state_takeOver hn []) (List.append_nil log.messages)
    rw [he]
    exact ReflTransGen.refl
  | cons m messages ih =>
    have hm₁ : m.IsMention := hm m List.mem_cons_self
    have hsay : (Reaction.say m : Reaction Unit Unit).Performs (Permits master tool) :=
      .mention hm₁
    have he : log.takeOver nested (m :: messages) = (log.emit m).takeOver nested messages := by
      simp [takeOver, emit]
    rw [he]
    exact (hsay log).trans (ih (fun m' hm' => hm m' (List.mem_cons_of_mem m hm')) (log.emit m))

/-- What makeglossaries does in the place of makeindex is to mention what that has said. -/
theorem Glossary.performs (master : Text) : grammar.Performs (Permits master .makeglossaries) where
  react := by
    intro statement found memory hc
    cases found with
    | makeindex number =>
      refine Reaction.Performs.bind (.mention (by trivial)) fun _ => ?_
      refine Reaction.Performs.bind ?_ fun _ => .done _
      intro log d messages hr
      -- makeindex counts nothing, so that absorbing its outcome changes nothing
      obtain ⟨_, -, hcourse⟩ := (Index.performs master indexExtensions).keeps.of_returns hr
      obtain ⟨hclean, hmentions⟩ := Index.mentions_of_course hcourse
      exact Log.course_takeOver hclean hmentions log
    | warning => exact (Reaction.Performs.warning fun _ => .unlocated rfl).bind fun _ => .done _
    | error => exact (Reaction.Performs.error fun _ => .unlocated rfl).bind fun _ => .done _
    | _ => exact Reaction.Performs.bind (.mention (by trivial)) fun _ => .done _
  echo := fun _ => .mention trivial
  atEnd := fun memory => .done memory

end TexTranscript
