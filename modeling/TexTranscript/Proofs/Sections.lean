import TexTranscript.Proofs.Deeds
import TexTranscript.Report

/-!
# The steps of latexmk

What a parse of latexmk does goes by statements: it echoes one, passes one on,
begins a run, ends a round, or encloses a section between two messages. A
*section* is the log that the parser of a tool has in the end, which is a course
of what that tool permits, whatever else the transcript holds.

`Build.Step` lists these steps, with all that each does to what the grammar
remembers and to the log, and `Build.react_ensures` shows that there are no
others. So an invariant of latexmk is what holds at first and is kept by every
step (`Build.keeps`).

With this, every report is a report of a log of which something is known: a
course of what its tool permits, or a log that latexmk's steps lead to.

## Main definitions

* `Build.IsSection`, `Log.enclose` – sections, and what they add to a log.
* `Build.Step` – the steps of latexmk.

## Main statements

* `Build.react_ensures` – every reaction of latexmk is a step.
* `Build.keeps` – what every step keeps is an invariant.
* `parseTranscript_course`, `parseBuild_keeps` – the logs that are reported.
-/

namespace TexTranscript

/-- **The log after a section**: what was counted in it is absorbed, and the marks of an
engine replace those that there were. -/
def Log.enclose (log : Log) (tool : Tool) (banner : String) (nested : Log) : Log where
  state :=
    { log.state with
      tally := log.state.tally.record (.absorb nested.state.outcome)
      marks := if tool = .latex then nested.state.marks else log.state.marks }
  messages :=
    log.messages ++ (.toolStarted tool banner :: nested.messages ++ [.toolFinished tool])

namespace Build

/-- **A log of a section**: a tool that latexmk knows has done what it permits. -/
def IsSection (master : Text) (tool : Tool) (nested : Log) : Prop :=
  tool ∈ [Tool.latex, .bibtex, .biber, .makeindex] ∧
    ({} : Log).Course (Permits master tool) nested

/-- What a statement begins with that ends a round. -/
def roundEnd : Text := "Latexmk: Log file says output to".toList

/-- What is reported of the round that ends. -/
def Memory.report (memory : Memory) (state : ParseState) : RoundReport :=
  ⟨memory.rounds + 1, memory.runs, state.tally.run, state.tally.total, state.marks⟩

/-- **The steps of latexmk**, from what is remembered and a log to others. -/
inductive Step (master : Text) (watching : Bool) (memory : Memory) (log : Log) :
    Memory → Log → Prop
  | echo (statement : String) : Step master watching memory log memory (log.emit (.verbatim statement))
  | chatter {statement : Text} (h : Text.startsWith roundEnd statement = false) :
      Step master watching memory log memory (log.emit (.latexmk (String.ofList statement)))
  | inSection {tool : Tool} (banner : String) {nested : Log} (h : IsSection master tool nested) :
      Step master watching memory log { memory with phase := .idle }
        (log.enclose tool banner nested)
  /-- The run that ends, if there was one, is summed up. -/
  | newRun :
      Step master watching memory log { memory with runs := memory.runs + 1 }
        ((if memory.runs > 0 then
          log.emit (.runSummary memory.runs log.state.tally.run.errors log.state.tally.run.warnings)
          else log).record (.count .newRun))
  /-- The round is reported, and latexmk keeps watching. -/
  | round {statement : Text} (hw : watching = true) (h : Text.startsWith roundEnd statement = true) :
      Step master watching memory log
        { memory with
          rounds := memory.rounds + 1
          reports := memory.reports ++ [memory.report log.state]
          phase := .idle }
        (log.emit (.latexmk (String.ofList statement)))
  /-- The round is the last. -/
  | lastRound {statement : Text} (hw : watching = false)
      (h : Text.startsWith roundEnd statement = true) :
      Step master watching memory log
        { memory with rounds := memory.rounds + 1, phase := .roundFinished }
        ((log.emit (.latexmk (String.ofList statement))).record .finish)

variable {master : Text} {watching : Bool}

/-! ## How latexmk recognizes its own statements -/

/-- What is found to end a round begins like that. -/
theorem startsWith_of_roundEnd {statement : Text}
    (h : (grammar master watching).classify statement = some .roundEnd) :
    Text.startsWith roundEnd statement = true := by
  obtain ⟨rule, hrule, hmatch, groups, hread⟩ := Grammar.exists_rule_of_classify h
  have hp : rule.pattern = .lit "Latexmk: Log file says output to" := by
    change rule ∈ rules at hrule
    simp only [rules, List.mem_cons, List.not_mem_nil, or_false] at hrule
    rcases hrule with rfl | rfl | rfl | rfl | rfl | rfl | rfl
    all_goals first
      | (simp [Rule.sign] at hread; done)
      | rfl
  rwa [hp, Pattern.matchesStart_lit] at hmatch

/-- What ends a round is recognized before it can be taken for chatter. -/
theorem not_startsWith_of_chatter {statement : Text}
    (h : (grammar master watching).classify statement = some .chatter) :
    Text.startsWith roundEnd statement = false := by
  rw [← Bool.not_eq_true]
  intro hs
  have hm : (Pattern.lit "Latexmk: Log file says output to").matchesStart statement = true := by
    rw [Pattern.matchesStart_lit]
    exact hs
  change rules.findSome? (fun rule => rule.reading? statement) = some .chatter at h
  simp only [rules, List.findSome?_cons, Rule.reading?_sign, hm, if_true] at h
  generalize (Pattern.lit "This is " ++ _).matchesStart statement = isTypesetting at h
  generalize (Pattern.lit "This is BibTeX").matchesStart statement = isBibtex at h
  generalize (Pattern.many CharClass.any ++ _).matchesStart statement = isBiber at h
  -- whatever the rules in front of it match, the rule of the end comes before that of chatter
  cases isTypesetting <;> cases isBibtex <;> cases isBiber <;> simp at h

/-! ## Every reaction is a step -/

/-- What is done around a section of any tool but an engine. -/
theorem enclose_of_ne {tool : Tool} (h : tool ≠ .latex) (log : Log) (banner : String)
    (nested : Log) :
    ((log.emit (.toolStarted tool banner)).takeOver nested.state nested.messages).emit
      (.toolFinished tool) = log.enclose tool banner nested := by
  simp [Log.enclose, Log.emit, Log.takeOver, ParseState.record, h]

/-- What is done around a section of an engine. -/
theorem enclose_latex (log : Log) (banner : String) (nested : Log) :
    (((log.emit (.toolStarted .latex banner)).takeOver nested.state nested.messages).emit
      (.toolFinished .latex)).record (.replaceMarks nested.state.marks)
      = log.enclose .latex banner nested := by
  simp [Log.enclose, Log.emit, Log.record, Log.takeOver, ParseState.record]

/-- **A section is opened** for a tool whose grammar does what the tool permits. The parser of the
section is at work in it, and what it permits is the course of its log. -/
theorem openSection_ensures {σ ι α : Type} {tool : Tool} {g : Grammar σ ι Unit}
    (hg : g.Performs (Permits master tool)) (ht : tool ∈ [Tool.latex, .bibtex, .biber, .makeindex])
    (phase : Phase) (banner : Text) (memory : Memory)
    {f : Delegated Unit × Memory → Reaction Unit α} {Q : α → Log → Prop} {log : Log}
    (h : ∀ nested : Log, IsSection master tool nested →
      (f (⟨nested.state, ()⟩, { memory with phase := .idle })).Ensures Q
        (((log.emit (.toolStarted tool (String.ofList (Text.trim banner)))).takeOver nested.state
          nested.messages).emit (.toolFinished tool))) :
    ((openSection phase tool banner (sectionParser g) memory).bind f).Ensures Q log := by
  intro d messages hr
  obtain ⟨_, -, hcourse⟩ := hg.keeps.of_returns hr
  exact h ⟨d.state, messages⟩ ⟨ht, hcourse⟩

/-- The section of a tool other than an engine is a step. -/
theorem section_ensures {σ ι : Type} {tool : Tool} {g : Grammar σ ι Unit}
    (hg : g.Performs (Permits master tool)) (ht : tool ∈ [Tool.bibtex, .biber, .makeindex])
    (phase : Phase) (statement : Text) (memory : Memory) (log : Log) :
    ((openSection phase tool statement (sectionParser g) memory).bind fun closed =>
      .done closed.2).Ensures (Step master watching memory log) log := by
  have hne : tool ≠ .latex := by
    rintro rfl
    simp at ht
  refine openSection_ensures hg (List.mem_cons_of_mem .latex ht) phase statement memory
    fun nested hn => ?_
  rw [enclose_of_ne hne]
  exact .inSection _ hn

/-- **Every reaction of latexmk is a step.** The cases are the findings, one for each kind of
step. -/
theorem react_ensures {found : Finding} {statement : Text} (memory : Memory) (log : Log)
    (hc : (grammar master watching).classify statement = some found) :
    (react master watching found statement memory).Ensures
      (Step master watching memory log) log := by
  cases found with
  | typesetting =>
    -- of the sections, only that of an engine has its marks put in place
    refine openSection_ensures (Typesetting.performs master) (by decide) .inCompilerRun statement
      memory fun nested hn => ?_
    show Step master watching memory log { memory with phase := .idle } (Log.record _ _)
    rw [enclose_latex]
    exact .inSection _ hn
  | bibtex => exact section_ensures (Bibliography.bibtex_performs master) (by decide) _ _ _ _
  | biber => exact section_ensures (Bibliography.biber_performs master) (by decide) _ _ _ _
  | index => exact section_ensures (Index.performs master _) (by decide) _ _ _ _
  | roundEnd =>
    have hs := startsWith_of_roundEnd hc
    cases watching with
    | true => exact .round rfl hs
    | false => exact .lastRound rfl hs
  | chatter => exact .chatter (not_startsWith_of_chatter hc)
  | newRun =>
    have hstep : Step master watching memory log _ _ := .newRun
    show (beginRun memory).Ensures _ log
    unfold beginRun
    by_cases hr : memory.runs > 0
    · rw [if_pos hr] at hstep ⊢
      exact hstep
    · rw [if_neg hr] at hstep ⊢
      exact hstep

/-- **What every step keeps is an invariant** of latexmk. A statement that leads to no finding is
echoed, or nothing is done. -/
theorem keeps {I : Memory → Log → Prop} (start : I {} {})
    (step : ∀ {memory memory' : Memory} {log log' : Log},
      Step master watching memory log memory' log' → I memory log → I memory' log') :
    (grammar master watching).Keeps I where
  start := start
  react := fun hc _ hI => (react_ensures _ _ hc).mono fun _ _ hstep => step hstep hI
  echo := fun _ _ hI => step (.echo _) hI
  atEnd := fun _ hI => hI

end Build

/-! ## Reports of logs -/

/-- **The report is that of a log.** -/
structure Report.Of (report : Report) (log : Log) : Prop where
  messages : report.messages = log.messages
  outcome : report.outcome = log.state.outcome
  marks : report.marks = log.state.marks

/-- A report of a scope is one of its log. -/
theorem Report.of_ofScope {R : Type} [LineSource R] (s : Scope R) (runs : Nat) :
    (Report.ofScope s runs).Of s.log := ⟨rfl, rfl, rfl⟩

variable {R : Type} [LineSource R]

/-- A grammar that does what its tool permits reports a course. -/
theorem Grammar.Performs.report {σ ι ν : Type} {P : ParseState → Deed → Prop}
    {g : Grammar σ ι ν} (h : g.Performs P) (verbose : Bool) (source : R) :
    ∃ log, ({} : Log).Course P log ∧ (g.report verbose source).Of log :=
  ⟨_, h.keeps.parse verbose source, Report.of_ofScope _ _⟩

/-- **Every tool but latexmk reports a course** of what it permits. Each of these tools is its
grammar, which performs what is permitted. -/
theorem parseTranscript_course {tool : Tool} (h : tool ≠ .latexmk) (master : Text)
    (verbose : Bool) (source : R) :
    ∃ log, ({} : Log).Course (Permits master tool) log ∧
      (parseTranscript tool master verbose source).Of log := by
  cases tool with
  | latex => exact (Typesetting.performs master).report verbose source
  | bibtex => exact (Bibliography.bibtex_performs master).report verbose source
  | biber => exact (Bibliography.biber_performs master).report verbose source
  | makeindex => exact (Index.performs master _).report verbose source
  | makeglossaries => exact (Glossary.performs master).report verbose source
  | chktex => exact (Lint.performs master).report verbose source
  | latexmk => exact absurd rfl h

/-- **Latexmk reports a log** that its invariants hold of. -/
theorem parseBuild_keeps {master : Text} {watching : Bool} {I : Build.Memory → Log → Prop}
    (h : (Build.grammar master watching).Keeps I) (verbose : Bool) (source : R) :
    ∃ memory log, I memory log ∧ (parseBuild master watching verbose source).Of log ∧
      (parseBuild master watching verbose source).rounds = memory.reports :=
  ⟨_, _, h.parse verbose source, ⟨rfl, rfl, rfl⟩, rfl⟩

end TexTranscript
