import Mathlib.Data.List.DropRight
import Mathlib.Data.List.Infix
import TexTranscript.Proofs.Sections

/-!
# Marks mirror located messages

The marks of a report are the located messages of the parse, in order. For
latexmk they are those of the last section of an engine: a new section drops the
marks of the one before, whatever sections of other tools stand between them,
for the other tools that latexmk calls do not locate anything. While latexmk
keeps watching, each round is reported with the marks that there are when it
ends.

## Main definitions

* `engineMarks` – the located messages since the last banner of an engine.
* `roundsOf` – the messages up to the end of each round.

## Main statements

* `Log.Course.marks_eq` – the parser of a single tool marks what it locates.
* `Build.Step.mirrors` – what the steps of latexmk keep of the marks.
* `marks_mirror_messages` – the marks of every report.
-/

namespace TexTranscript

namespace Message

/-- The message opens a section of an engine. -/
def opensEngine : Message → Bool
  | toolStarted .latex _ => true
  | _ => false

/-- The message is what latexmk says at the end of a round. -/
def endsRound : Message → Bool
  | latexmk text => Text.startsWith "Latexmk: Log file says output to".toList text.toList
  | _ => false

/-- A message of latexmk ends a round just if it begins like the statement that does. -/
theorem endsRound_latexmk (statement : Text) :
    endsRound (.latexmk (String.ofList statement)) = Text.startsWith Build.roundEnd statement := by
  have htext : (String.ofList statement).toList = statement := String.toList_ofList
  show Text.startsWith Build.roundEnd (String.ofList statement).toList = _
  rw [htext]

/-- The parser of a single tool emits neither of the messages that open an engine or end a round. -/
theorem isOrdinary_of_isOfTool {m : Message} (h : m.IsOfTool) :
    m.opensEngine = false ∧ m.endsRound = false := by
  cases m with
  | toolStarted tool banner => exact h.elim
  | latexmk text => exact h.elim
  | _ => exact ⟨rfl, rfl⟩

end Message

/-! ## The parsers of the single tools -/

section

variable {master : Text} {tool : Tool} {log : Log}

/-- **The parser of a single tool marks what it locates.** The induction is on the deeds: only the
report of something located adds a mark, and it adds the message that the mark is read from. -/
theorem Log.Course.marks_eq {P : ParseState → Deed → Prop} (h : ({} : Log).Course P log) :
    log.state.marks = log.messages.filterMap Message.mark? := by
  refine h.keeps (I := fun log => log.state.marks = log.messages.filterMap Message.mark?) rfl
    fun {log d} _ hlog => ?_
  show log.state.marks ++ (d.message?.bind Message.mark?).toList
    = (log.messages ++ d.message?.toList).filterMap Message.mark?
  rw [List.filterMap_append, hlog]
  cases d.message? with
  | none => rfl
  | some m => cases hm : m.mark? with
    | none => simp [hm]
    | some mark => simp [hm]

/-- The parser of a single tool emits none of the messages of latexmk. -/
theorem Log.Course.isOrdinary (h : ({} : Log).Course (Permits master tool) log) :
    ∀ m ∈ log.messages, m.opensEngine = false ∧ m.endsRound = false :=
  fun m hm => Message.isOrdinary_of_isOfTool (h.isOfTool m hm)

/-- Apart from the engines, the tools that latexmk calls do not locate anything. Such a tool neither
reads locations nor calls a tool that does. -/
theorem Build.IsSection.marks_eq_nil (h : Build.IsSection master tool log) (ht : tool ≠ .latex) :
    log.messages.filterMap Message.mark? = [] := by
  have hlint : tool ≠ .chktex := by
    rintro rfl
    simp [Build.IsSection] at h
  refine h.2.keeps (I := fun log => log.messages.filterMap Message.mark? = []) rfl
    fun {log d} hp hlog => ?_
  show (log.messages ++ d.message?.toList).filterMap Message.mark? = []
  rw [List.filterMap_append, hlog, List.nil_append]
  cases hp with
  | mention hm => simp [Message.mark?_of_isMention hm]
  | @unlocated _ _ severity => cases severity with
    | warning => rfl
    | error => rfl
  | attributed => exact absurd rfl ht
  | fileLineError => exact absurd rfl ht
  | finding => exact absurd rfl hlint
  | fatal => rfl
  | enterFile => rfl
  | finish => rfl

end

/-! ## The last section of an engine -/

/-- **The located messages since the last banner of an engine**, as marks; of all, if there
was none. -/
def engineMarks (messages : List Message) : List Mark :=
  (messages.rtakeWhile fun m => !m.opensEngine).filterMap Message.mark?

/-- The banner of an engine empties the marks that the messages amount to. -/
theorem engineMarks_concat_opens {m : Message} (h : m.opensEngine = true)
    (messages : List Message) : engineMarks (messages ++ [m]) = [] := by
  rw [engineMarks, List.rtakeWhile_concat_neg _ _ _ (by simp [h])]
  rfl

/-- Messages that open no engine add the marks that they have. -/
theorem engineMarks_append {ms : List Message} (h : ∀ m ∈ ms, m.opensEngine = false)
    (messages : List Message) :
    engineMarks (messages ++ ms) = engineMarks messages ++ ms.filterMap Message.mark? := by
  induction ms using List.reverseRecOn with
  | nil => simp
  | append_singleton ms m ih =>
    have hm : m.opensEngine = false := h m (by simp)
    have hms := ih fun m' hm' => h m' (List.mem_append_left [m] hm')
    rw [engineMarks] at hms
    rw [← List.append_assoc, engineMarks, List.rtakeWhile_concat_pos _ _ _ (by simp [hm]),
      List.filterMap_append, hms, List.filterMap_append, List.append_assoc]

/-! ## Rounds -/

/-- **The messages up to the end of each round.** -/
def roundsOf (messages : List Message) : List (List Message) :=
  messages.inits.filter fun ms => ms.getLast?.any Message.endsRound

/-- A list that grows at its end has one more beginning that ends like that, or none. -/
theorem inits_filter_concat {α : Type} (ends : α → Bool) (l : List α) (a : α) :
    (l ++ [a]).inits.filter (fun before => before.getLast?.any ends)
      = l.inits.filter (fun before => before.getLast?.any ends)
        ++ if ends a then [l ++ [a]] else [] := by
  rw [List.inits_append, List.filter_append]
  simp [List.filter_cons]

/-- A message adds a round just if it ends one. -/
theorem roundsOf_concat (messages : List Message) (m : Message) :
    roundsOf (messages ++ [m])
      = roundsOf messages ++ if m.endsRound then [messages ++ [m]] else [] :=
  inits_filter_concat Message.endsRound messages m

/-- Messages of which none ends a round leave the rounds as they are. -/
theorem roundsOf_append {ms : List Message} (h : ∀ m ∈ ms, m.endsRound = false)
    (messages : List Message) : roundsOf (messages ++ ms) = roundsOf messages := by
  induction ms using List.reverseRecOn with
  | nil => rw [List.append_nil]
  | append_singleton ms m ih =>
    have hm : m.endsRound = false := h m (by simp)
    rw [← List.append_assoc, roundsOf_concat, hm,
      ih fun m' hm' => h m' (List.mem_append_left [m] hm')]
    exact List.append_nil _

/-! ## Latexmk -/

namespace Build

/-- **The marks mirror the messages**: those that there are, and those that were reported of
each round. -/
structure Mirrors (watching : Bool) (memory : Memory) (log : Log) : Prop where
  marks : log.state.marks = engineMarks log.messages
  unmarked : (∀ m ∈ log.messages, m.opensEngine = false) → log.state.marks = []
  rounds : memory.reports.map (·.marks)
    = if watching then (roundsOf log.messages).map engineMarks else []

variable {master : Text} {watching : Bool} {memory memory' : Memory} {log log' : Log}

theorem mirrors_empty (watching : Bool) : Mirrors watching {} {} :=
  ⟨rfl, fun _ => rfl, by cases watching <;> rfl⟩

/-- Messages that open no engine, mark nothing and end no round keep the marks a mirror. -/
theorem Mirrors.append (h : Mirrors watching memory log) (ms : List Message)
    (hopen : ∀ m ∈ ms, m.opensEngine = false) (hmark : ms.filterMap Message.mark? = [])
    (hround : ∀ m ∈ ms, m.endsRound = false) (hmessages : log'.messages = log.messages ++ ms)
    (hmarks : log'.state.marks = log.state.marks) (hreports : memory'.reports = memory.reports) :
    Mirrors watching memory' log' where
  marks := by rw [hmarks, hmessages, engineMarks_append hopen, hmark, List.append_nil, h.marks]
  unmarked := fun hnone => by
    rw [hmarks]
    rw [hmessages] at hnone
    exact h.unmarked fun m hm => hnone m (List.mem_append_left ms hm)
  rounds := by rw [hreports, hmessages, roundsOf_append hround, h.rounds]

/-- **A section of an engine** replaces the marks by its own. The banner empties both sides, and the
section gives both what its own parser marked. -/
theorem Mirrors.enclose_latex (h : Mirrors watching memory log) {nested : Log}
    (hn : IsSection master .latex nested) (banner : String)
    (hreports : memory'.reports = memory.reports) :
    Mirrors watching memory' (log.enclose .latex banner nested) := by
  -- behind the banner there is no other, and no round ends
  have hordinary : ∀ m ∈ nested.messages ++ [.toolFinished .latex],
      m.opensEngine = false ∧ m.endsRound = false := by
    intro m hm
    rcases List.mem_append.1 hm with hm | hm
    · exact hn.2.isOrdinary m hm
    · obtain rfl := List.mem_singleton.1 hm
      exact ⟨rfl, rfl⟩
  have hmessages : (log.enclose .latex banner nested).messages
      = (log.messages ++ [.toolStarted .latex banner]) ++
        (nested.messages ++ [.toolFinished .latex]) := by
    simp [Log.enclose]
  refine ⟨?_, fun hnone => ?_, ?_⟩
  · rw [hmessages, engineMarks_append fun m hm => (hordinary m hm).1, engineMarks_concat_opens rfl,
      List.filterMap_append, ← hn.2.marks_eq]
    exact (List.append_nil _).symm
  · have hbanner := hnone (.toolStarted .latex banner) (by simp [hmessages])
    exact absurd hbanner (by simp [Message.opensEngine])
  · rw [hreports, hmessages, roundsOf_append fun m hm => (hordinary m hm).2, roundsOf_concat,
      h.rounds]
    exact congrArg (if watching then List.map engineMarks · else []) (List.append_nil _).symm

/-- A section of another tool opens none of an engine and does not locate anything. -/
theorem Mirrors.enclose_of_ne (h : Mirrors watching memory log) {tool : Tool} {nested : Log}
    (ht : tool ≠ .latex) (hn : IsSection master tool nested) (banner : String)
    (hreports : memory'.reports = memory.reports) :
    Mirrors watching memory' (log.enclose tool banner nested) := by
  have hordinary : ∀ m ∈ .toolStarted tool banner :: nested.messages ++ [.toolFinished tool],
      m.opensEngine = false ∧ m.endsRound = false := by
    intro m hm
    rcases List.mem_append.1 hm with hm | hm
    · rcases List.mem_cons.1 hm with rfl | hm
      · refine ⟨?_, rfl⟩
        cases tool with
        | latex => exact absurd rfl ht
        | _ => rfl
      · exact hn.2.isOrdinary m hm
    · obtain rfl := List.mem_singleton.1 hm
      exact ⟨rfl, rfl⟩
  refine h.append _ (fun m hm => (hordinary m hm).1) ?_ (fun m hm => (hordinary m hm).2) rfl
    (if_neg ht) hreports
  rw [List.cons_append, List.filterMap_cons, List.filterMap_append, hn.marks_eq_nil ht]
  rfl

/-- The end of a round keeps the marks a mirror; it is reported only while latexmk keeps watching,
with the marks of the log as they are. -/
theorem Mirrors.endRound (h : Mirrors watching memory log) {statement : Text}
    (hs : Text.startsWith roundEnd statement = true)
    (hmessages : log'.messages = log.messages ++ [.latexmk (String.ofList statement)])
    (hmarks : log'.state.marks = log.state.marks)
    (hreports : memory'.reports.map (·.marks)
      = memory.reports.map (·.marks) ++ if watching then [log.state.marks] else []) :
    Mirrors watching memory' log' := by
  have hends : Message.endsRound (.latexmk (String.ofList statement)) = true :=
    (Message.endsRound_latexmk statement).trans hs
  have hopen : ∀ m ∈ [Message.latexmk (String.ofList statement)], m.opensEngine = false := by
    intro m hm
    obtain rfl := List.mem_singleton.1 hm
    rfl
  have hengine : engineMarks log'.messages = engineMarks log.messages := by
    rw [hmessages, engineMarks_append hopen]
    exact List.append_nil _
  refine ⟨by rw [hmarks, hengine, h.marks], fun hnone => ?_, ?_⟩
  · rw [hmarks]
    rw [hmessages] at hnone
    exact h.unmarked fun m hm => hnone m (List.mem_append_left _ hm)
  · rw [hreports, h.rounds]
    cases watching with
    | false => rfl
    | true =>
      -- the report has the marks that the messages up to here mirror
      rw [if_pos rfl, if_pos rfl, if_pos rfl, hmessages, roundsOf_concat, if_pos hends,
        List.map_append, ← hmessages]
      simp [hengine, h.marks]

/-- **Every step of latexmk** keeps the marks a mirror of the messages. -/
theorem Step.mirrors (hstep : Step master watching memory log memory' log')
    (h : Mirrors watching memory log) : Mirrors watching memory' log' := by
  cases hstep with
  | echo statement =>
    exact h.append [_] (by simp [Message.opensEngine]) rfl (by simp [Message.endsRound]) rfl rfl rfl
  | @chatter statement hs =>
    have hends : Message.endsRound (.latexmk (String.ofList statement)) = false :=
      (Message.endsRound_latexmk statement).trans hs
    exact h.append [_] (by simp [Message.opensEngine]) rfl (by simpa using hends) rfl rfl rfl
  | @inSection tool banner nested hn =>
    by_cases ht : tool = .latex
    · subst ht
      exact h.enclose_latex hn banner rfl
    · exact h.enclose_of_ne ht hn banner rfl
  | newRun =>
    by_cases hr : memory.runs > 0
    · rw [if_pos hr]
      exact h.append [.runSummary _ _ _] (by simp [Message.opensEngine]) rfl
        (by simp [Message.endsRound]) rfl rfl rfl
    · rw [if_neg hr]
      exact h.append [] (by simp) rfl (by simp) (List.append_nil _).symm rfl rfl
  | round hw hs =>
    subst hw
    exact h.endRound hs rfl rfl (by simp [Memory.report])
  | lastRound hw hs =>
    subst hw
    exact h.endRound hs rfl rfl (by simp)

end Build

/-! ## Reports -/

variable {R : Type} [LineSource R]

/-- **The marks of every report mirror the located messages**, and each mark has the file, the line,
the severity and the text of its message. For latexmk they are those since the last banner of an
engine, and none when there was no banner; and while it keeps watching, those of each round that is
reported are those up to its end. The parser of a single tool is a course of deeds, and that of
latexmk a run of steps. -/
theorem marks_mirror_messages (master : Text) (verbose : Bool) (source : R) :
    (∀ tool : Tool, tool ≠ .latexmk →
      (parseTranscript tool master verbose source).marks
        = (parseTranscript tool master verbose source).messages.filterMap Message.mark?) ∧
    parseTranscript .latexmk master verbose source = parseBuild master false verbose source ∧
    ∀ watching : Bool,
      (parseBuild master watching verbose source).marks
          = engineMarks (parseBuild master watching verbose source).messages ∧
      ((∀ m ∈ (parseBuild master watching verbose source).messages, m.opensEngine = false) →
        (parseBuild master watching verbose source).marks = []) ∧
      (parseBuild master watching verbose source).rounds.map (·.marks)
        = if watching then
            (roundsOf (parseBuild master watching verbose source).messages).map engineMarks
          else [] := by
  refine ⟨fun tool ht => ?_, rfl, fun watching => ?_⟩
  · obtain ⟨log, hcourse, hlog⟩ := parseTranscript_course ht master verbose source
    rw [hlog.marks, hlog.messages]
    exact hcourse.marks_eq
  · have hkeeps : (Build.grammar master watching).Keeps (Build.Mirrors watching) :=
      Build.keeps (Build.mirrors_empty watching) Build.Step.mirrors
    obtain ⟨memory, log, h, hlog, hrounds⟩ := parseBuild_keeps hkeeps verbose source
    rw [hlog.marks, hlog.messages, hrounds]
    exact ⟨h.marks, h.unmarked, h.rounds⟩

end TexTranscript
