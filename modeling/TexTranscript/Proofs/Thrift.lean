import TexTranscript.Proofs.RoundTrip
import TexTranscript.Proofs.Runs

/-!
# Nothing is counted without a line

Every error and every warning is one of a statement, and no statement has two. Since a
statement takes a line at least, a transcript has no more errors and warnings than it has
lines. Nor has it more runs, each of which is announced by a statement.

So the counts of a transcript can be stored if its lines can be counted, and then every
message of its parse can be stored: the counts that are mentioned on the way are never
more than those in the end (`Message.Within`).

## Main definitions

* `Outcome.findings` – how much was found.
* `Reaction.Thrifty`, `Grammar.Thrifty` – how much is counted for one statement.
* `Message.Within` – a message sums up no more than what there is in the end.
* `Report.CountsUpTo` – a report and its messages count up to a number.

## Main statements

* `Grammar.consume_le` – what grows by one for a statement grows by one for a line.
* `parseTranscript_countsUpTo`, `parseBuild_countsUpTo` – every report counts up to the
  number of lines.
-/

namespace TexTranscript

variable {σ ι ν ρ α β : Type}

/-- **How much was found**: errors and warnings. -/
def Outcome.findings (o : Outcome) : Nat := o.errors + o.warnings

theorem Outcome.findings_add (o p : Outcome) : (o + p).findings = o.findings + p.findings :=
  Nat.add_add_add_comm ..

namespace ParseState

/-- How much an entry finds. -/
def Entry.findings : Entry → Nat
  | .count step => step.amount.findings
  | _ => 0

/-- A finding that is recorded is one finding more. -/
theorem findings_record (s : ParseState) (e : Entry) :
    (s.record e).outcome.findings = s.outcome.findings + e.findings := by
  cases e with
  | count step =>
    cases step with
    | newRun => rfl
    | _ => exact Outcome.findings_add ..
  | _ => rfl

end ParseState

/-! ## For one statement -/

/-- A parser that the transcript can be handed to finds no more than it takes lines. -/
def Nested.Thrifty (nested : Nested ν) : Prop :=
  ∀ (verbose : Bool) (ls : List Line),
    (nested.parse verbose ls).state.outcome.findings + (nested.parse verbose ls).unread.length
      ≤ ls.length

namespace Reaction

/-- **A reaction finds only so much**, besides what is found by the parsers that it hands the
transcript to, and these find no more than they take lines. -/
def Thrifty : Nat → Reaction ν α → Prop
  | _, done _ => True
  | n, emit _ next => next.Thrifty n
  | n, record entry next => entry.findings ≤ n ∧ next.Thrifty (n - entry.findings)
  | n, inspect next => ∀ state, (next state).Thrifty n
  | n, lookAhead next => ∀ line, (next line).Thrifty n
  | n, delegate nested next => nested.Thrifty ∧ ∀ d, (next d).Thrifty n

/-- After a reaction that finds nothing, another one may find something. -/
theorem Thrifty.bind {n : Nat} {r : Reaction ν α} {f : α → Reaction ν β} (hr : r.Thrifty 0)
    (hf : ∀ a, (f a).Thrifty n) : (r.bind f).Thrifty n := by
  induction r with
  | done result => exact hf result
  | emit message next ih => exact ih hr
  | record entry next ih =>
    have hnone : entry.findings = 0 := Nat.le_zero.1 hr.1
    have hnext := hr.2
    rw [hnone] at hnext
    refine ⟨hnone.trans_le (Nat.zero_le n), ?_⟩
    rw [hnone]
    exact ih hnext
  | inspect next ih => exact fun state => ih state (hr state)
  | lookAhead next ih => exact fun line => ih line (hr line)
  | delegate nested next ih => exact ⟨hr.1, fun d => ih d (hr.2 d)⟩

/-- **What a reaction finds**, with the lines that it leaves, is no more than what there was before,
and what it may find. The induction is on the reaction; where another parser is called, its findings
are paid for by the lines that it takes. -/
theorem Thrifty.run_le {n : Nat} {r : Reaction ν α} (h : r.Thrifty n) (verbose : Bool)
    (s : Scope (List Line)) :
    (r.run verbose s).2.state.outcome.findings + (r.run verbose s).2.unread.length
      ≤ s.state.outcome.findings + s.unread.length + n := by
  induction r generalizing n s with
  | done result => exact Nat.le_add_right ..
  | emit message next ih => exact ih h (s.emit message)
  | record entry next ih =>
    have hnext := ih h.2 (s.record entry)
    have hrecord : (s.record entry).state.outcome.findings
        = s.state.outcome.findings + entry.findings := s.state.findings_record entry
    have hunread : (s.record entry).unread = s.unread := rfl
    rw [hrecord, hunread] at hnext
    have hentry := h.1
    exact hnext.trans (by omega)
  | inspect next ih => exact ih s.state (h s.state) s
  | lookAhead next ih =>
    have hline : (Line.take s.unread).2.length ≤ s.unread.length :=
      (LineSource.Reads.nothing (r := s.unread)).line.lines_suffix.length_le
    have hnext := ih (Line.take s.unread).1 (h _) (s.withUnread (Line.take s.unread).2)
    exact hnext.trans (Nat.add_le_add_right (Nat.add_le_add_left hline _) n)
  | delegate nested next ih =>
    -- the findings of the other parser are absorbed, and the lines that it took pay for them
    let d := nested.parse verbose s.unread
    have hnested : d.state.outcome.findings + d.unread.length ≤ s.unread.length :=
      h.1 verbose s.unread
    have hnext := ih d.toDelegated (h.2 _) (s.takeOver d)
    have htake : (s.takeOver d).state.outcome.findings
        = s.state.outcome.findings + d.state.outcome.findings :=
      s.state.findings_record (.count (.absorb d.state.outcome))
    have hunread : (s.takeOver d).unread = d.unread := rfl
    rw [htake, hunread] at hnext
    exact hnext.trans (by omega)

end Reaction

namespace Grammar

/-- **A grammar is thrifty**: there is one finding in a statement, at most, and none in the end
of the transcript. -/
structure Thrifty (g : Grammar σ ι ν) : Prop where
  react : ∀ found statement memory, (g.react found statement memory).Thrifty 1
  atEnd : ∀ memory, (g.atEnd memory).Thrifty 0

/-- **What grows by one for a statement** grows by one for a line, since each statement takes one at
least. -/
theorem consume_le {g : Grammar σ ι ν} {verbose : Bool} (μ : σ → ParseState → Nat)
    (h : ∀ (statement : Text) (p : Position (List Line) σ),
      μ (g.dispatch verbose statement p).memory (g.dispatch verbose statement p).scope.state
          + (g.dispatch verbose statement p).scope.unread.length
        ≤ μ p.memory p.scope.state + p.scope.unread.length + 1)
    (p : Position (List Line) σ) :
    μ (g.consume verbose p).memory (g.consume verbose p).scope.state
        + (g.consume verbose p).scope.unread.length
      ≤ μ p.memory p.scope.state + p.scope.unread.length := by
  fun_induction consume g verbose p with
  | case1 p hd => exact Nat.le_refl _
  | case2 p hd source hn =>
    have hnone : source = [] := (LineSource.lines_of_takeStatement_none hn).2
    show μ p.memory p.scope.state + source.length ≤ _
    rw [hnone]
    exact Nat.add_le_add_left (Nat.zero_le _) _
  | case3 p hd statement source hn ih =>
    have hline : source.length < p.scope.unread.length := LineSource.lines_length_lt hn
    exact (ih.trans (h statement (p.withUnread source))).trans (Nat.add_le_add_left hline _)

variable {g : Grammar σ ι ν}

/-- A statement leads to one finding at most, beside those of the lines that it takes. -/
theorem Thrifty.dispatch_le (h : g.Thrifty) (verbose : Bool) (statement : Text)
    (p : Position (List Line) σ) :
    (g.dispatch verbose statement p).scope.state.outcome.findings
        + (g.dispatch verbose statement p).scope.unread.length
      ≤ p.scope.state.outcome.findings + p.scope.unread.length + 1 := by
  unfold dispatch
  split
  · next found _ => exact (h.react found statement p.memory).run_le verbose p.scope
  · split
    · exact Nat.le_succ _
    · exact Nat.le_succ _

/-- **A parse finds no more than it takes lines.** The statement that a reaction is to was taken
before, and it pays for one finding. -/
theorem Thrifty.parse_le (h : g.Thrifty) (verbose : Bool) (ls : List Line) :
    (g.parse verbose (g.begin ls)).scope.state.outcome.findings
        + (g.parse verbose (g.begin ls)).scope.unread.length ≤ ls.length := by
  have hconsume := consume_le (fun _ state => state.outcome.findings) (h.dispatch_le verbose)
    (g.begin ls)
  have hbegin : ls.length = Outcome.clean.findings + ls.length := (Nat.zero_add _).symm
  rw [hbegin]
  unfold parse
  dsimp only
  split
  · exact hconsume
  · exact ((h.atEnd _).run_le verbose _).trans hconsume

/-- A thrifty parser can be called. -/
theorem Thrifty.nested (h : g.Thrifty) (close : σ → ρ) : (g.nested close).Thrifty :=
  fun verbose ls => h.parse_le verbose ls

/-- The report of a thrifty parser has no more findings than there are lines. -/
theorem Thrifty.report_le (h : g.Thrifty) (verbose : Bool) (ls : List Line) :
    (g.report verbose ls).outcome.findings ≤ ls.length :=
  (Nat.le_add_right _ _).trans (h.parse_le verbose ls)

end Grammar

/-! ## The tools -/

section

open Reaction

/-- BibTeX finds one thing in a statement at most. -/
theorem Bibliography.bibtex_thrifty : (bibtex : Grammar Unit BibtexFinding ν).Thrifty where
  react found statement memory := by
    cases found with
    | remark => exact trivial
    | warning => exact ⟨Nat.le_refl 1, trivial⟩
    | error => exact ⟨Nat.le_refl 1, trivial⟩
    | finished => exact ⟨Nat.zero_le 1, trivial⟩
  atEnd memory := trivial

/-- Biber finds one thing in a statement at most. -/
theorem Bibliography.biber_thrifty : (biber : Grammar (Option Text) BiberFinding ν).Thrifty where
  react found statement announced := by
    cases found with
    | remark => exact trivial
    | logfile name => exact trivial
    | warning => exact ⟨Nat.le_refl 1, trivial⟩
    | error => exact ⟨Nat.le_refl 1, trivial⟩
    | fatal => exact ⟨Nat.le_refl 1, Nat.le_refl 0, trivial⟩
    | output path => exact ⟨Nat.zero_le 1, trivial⟩
  atEnd announced := trivial

/-- Makeindex finds one thing in a statement at most. -/
theorem Index.thrifty (extensions : List Text) :
    (grammar extensions : Grammar Unit Finding ν).Thrifty where
  react found statement memory := by
    cases found with
    | transcript description path => exact ⟨Nat.zero_le 1, trivial⟩
    | _ => exact trivial
  atEnd memory := trivial

/-- The glossary maker finds one thing in a statement at most, beside what makeindex finds in its
own. -/
theorem Glossary.thrifty : grammar.Thrifty where
  react found statement memory := by
    cases found with
    | makeindex number => exact ⟨(Index.thrifty indexExtensions).nested id, fun _ => trivial⟩
    | warning => exact ⟨Nat.le_refl 1, trivial⟩
    | error => exact ⟨Nat.le_refl 1, trivial⟩
    | _ => exact trivial
  atEnd memory := trivial

/-- To quote the source finds nothing. -/
theorem Lint.quoteSource_thrifty : (quoteSource : Reaction ν Unit).Thrifty 0 := by
  refine Thrifty.bind (fun _ => trivial) fun source => ?_
  cases source with
  | none => exact trivial
  | some source =>
    show (if hasCaret source then _ else _ : Reaction ν Unit).Thrifty 0
    split
    · exact fun caret => trivial
    · exact trivial

/-- ChkTeX finds one thing in a statement at most. -/
theorem Lint.thrifty : (grammar : Grammar Unit Finding ν).Thrifty where
  react found statement memory := by
    cases found with
    | remark => exact trivial
    | problem severity file line description =>
      cases severity with
      | error => exact ⟨Nat.zero_le 1, Nat.le_refl 1, quoteSource_thrifty⟩
      | warning => exact ⟨Nat.zero_le 1, Nat.le_refl 1, quoteSource_thrifty⟩
    | finished => exact ⟨Nat.zero_le 1, trivial⟩
  atEnd memory := trivial

namespace Typesetting

/-- A warning that looks ahead is one finding, whatever the next line gives. -/
theorem reactToWrapped_thrifty (master statement : Text) :
    (reactToWrapped master statement : Reaction ν Unit).Thrifty 1 := by
  refine Thrifty.bind (fun _ => trivial) fun next => ?_
  cases next with
  | none => exact ⟨Nat.le_refl 1, trivial⟩
  | some next =>
    dsimp only
    split
    · exact fun state => ⟨Nat.zero_le 1, Nat.le_refl 1, trivial⟩
    · exact ⟨Nat.le_refl 1, trivial⟩

/-- An argument that never ended is one finding: what the next line says of it is not counted
again. -/
theorem reactToRunaway_thrifty (statement : Text) :
    (reactToRunaway statement : Reaction ν Unit).Thrifty 1 := by
  refine ⟨Nat.le_refl 1, fun next => ?_⟩
  cases next with
  | none => exact trivial
  | some next =>
    show (if _ then _ else _ : Reaction ν Unit).Thrifty 0
    split
    · exact ⟨Nat.le_refl 0, trivial⟩
    · exact trivial

/-- An engine finds one thing in a statement at most. -/
theorem thrifty (master : Text) : (grammar master : Grammar Unit Finding ν).Thrifty where
  react found statement memory := by
    cases found with
    | fileEntered name => exact ⟨Nat.zero_le 1, trivial⟩
    | warning line => exact fun state => ⟨Nat.zero_le 1, Nat.le_refl 1, trivial⟩
    | wrappedWarning => exact reactToWrapped_thrifty master statement
    | error file line description =>
      refine ⟨Nat.zero_le 1, Nat.le_refl 1, ?_⟩
      show (if _ then _ else _ : Reaction ν Unit).Thrifty 0
      split
      · exact ⟨Nat.le_refl 0, trivial⟩
      · exact trivial
    | runaway => exact reactToRunaway_thrifty statement
    | transcript name => exact ⟨Nat.zero_le 1, trivial⟩
    | alert =>
      show (if _ then _ else _ : Reaction ν Unit).Thrifty 1
      split
      · exact ⟨Nat.le_refl 1, trivial⟩
      · exact ⟨Nat.le_refl 1, trivial⟩
    | fatal => exact ⟨Nat.le_refl 1, Nat.le_refl 0, trivial⟩
    | _ => exact trivial
  atEnd memory := trivial

end Typesetting

/-- Latexmk finds nothing by itself; all that it counts is found in sections. -/
theorem Build.thrifty (master : Text) (watching : Bool) : (grammar master watching).Thrifty where
  react found statement memory := by
    cases found with
    | typesetting =>
      exact ⟨(Typesetting.thrifty master).nested _, fun _ => ⟨Nat.zero_le 1, trivial⟩⟩
    | bibtex => exact ⟨Bibliography.bibtex_thrifty.nested _, fun _ => trivial⟩
    | biber => exact ⟨Bibliography.biber_thrifty.nested _, fun _ => trivial⟩
    | index => exact ⟨(Index.thrifty _).nested _, fun _ => trivial⟩
    | roundEnd =>
      cases watching with
      | true => exact fun state => trivial
      | false => exact ⟨Nat.zero_le 1, trivial⟩
    | chatter => exact trivial
    | newRun =>
      show (beginRun memory).Thrifty 1
      unfold beginRun
      split
      · exact fun state => ⟨Nat.zero_le 1, trivial⟩
      · exact ⟨Nat.zero_le 1, trivial⟩
  atEnd memory := trivial

end

/-- **No tool finds more than there are lines.** -/
theorem parseTranscript_findings_le (tool : Tool) (master : Text) (verbose : Bool)
    (ls : List Line) : (parseTranscript tool master verbose ls).outcome.findings ≤ ls.length := by
  cases tool with
  | latex => exact (Typesetting.thrifty master).report_le verbose ls
  | bibtex => exact Bibliography.bibtex_thrifty.report_le verbose ls
  | biber => exact Bibliography.biber_thrifty.report_le verbose ls
  | makeindex => exact (Index.thrifty _).report_le verbose ls
  | makeglossaries => exact Glossary.thrifty.report_le verbose ls
  | chktex => exact Lint.thrifty.report_le verbose ls
  | latexmk => exact (Build.thrifty master false).report_le verbose ls

/-- **There are no more runs than lines.** Each statement announces one run at most. -/
theorem Build.runs_le (master : Text) (watching verbose : Bool) (ls : List Line) :
    (parse master watching verbose ls).memory.runs ≤ ls.length := by
  have hdispatch (statement : Text) (p : Grammar.Position (List Line) Memory) :
      ((grammar master watching).dispatch verbose statement p).memory.runs
          + ((grammar master watching).dispatch verbose statement p).scope.unread.length
        ≤ p.memory.runs + p.scope.unread.length + 1 := by
    have hruns := (dispatch_counts master watching verbose statement p).1
    have hunread := ((grammar master watching).dispatch_reads verbose statement
      p).lines_suffix.length_le
    simp only [LineSource.lines_list] at hunread
    split at hruns
    · omega
    · omega
  have hconsume := Grammar.consume_le (fun memory _ => memory.runs) hdispatch
    ((grammar master watching).begin ls)
  rw [parse_eq_consume]
  exact (Nat.le_add_right _ _).trans (hconsume.trans_eq (Nat.zero_add _))

/-- There are no more lines than bytes. -/
theorem Line.length_ofBytes_le (bytes : List UInt8) : (ofBytes bytes).length ≤ bytes.length := by
  unfold ofBytes
  rw [List.length_map]
  induction bytes with
  | nil => exact Nat.le_refl 0
  | cons b bytes ih =>
    rw [cut_cons]
    unfold push
    split
    · exact Nat.succ_le_succ ih
    · split
      · exact Nat.succ_le_succ (Nat.zero_le _)
      · next l ls hcut =>
        rw [hcut] at ih
        exact ih.trans (Nat.le_succ _)

/-! ## What is summed up on the way -/

/-- **A message sums up no more** than so many runs and so much of what was found, and not the
whole transcript. -/
def Message.Within (runs : Nat) (total : Outcome) : Message → Prop
  | runSummary run errors warnings =>
    run ≤ runs ∧ errors ≤ total.errors ∧ warnings ≤ total.warnings
  | summary .. => False
  | _ => True

/-- What is within some runs and counts is within more of them. -/
theorem Message.Within.mono {m : Message} {runs runs' : Nat} {total total' : Outcome}
    (h : m.Within runs total) (hruns : runs ≤ runs') (herrors : total.errors ≤ total'.errors)
    (hwarnings : total.warnings ≤ total'.warnings) : m.Within runs' total' := by
  cases m with
  | runSummary run errors warnings =>
    exact ⟨h.1.trans hruns, h.2.1.trans herrors, h.2.2.trans hwarnings⟩
  | summary outcome runs => exact h
  | _ => trivial

/-- The parser of a single tool sums up nothing. -/
theorem Message.within_of_isOfTool {m : Message} (h : m.IsOfTool) (runs : Nat) (total : Outcome) :
    m.Within runs total := by
  cases m with
  | runSummary run errors warnings => exact h.elim
  | summary outcome runs => exact h.elim
  | _ => trivial

/-- What is summed up can be stored, if what there is in the end can. -/
theorem Message.Within.storable {m : Message} {runs : Nat} {total : Outcome}
    (h : m.Within runs total) (hruns : runs ≤ Outcome.maxCount) (htotal : total.Storable) :
    m.Storable := by
  cases m with
  | runSummary run errors warnings =>
    exact ⟨h.1.trans hruns, h.2.1.trans htotal.1, h.2.2.trans htotal.2⟩
  | summary outcome runs => exact h.elim
  | _ => trivial

/-- Nothing on the way is the summary. -/
theorem Message.Within.ne_summary {m : Message} {runs : Nat} {total : Outcome}
    (h : m.Within runs total) (outcome : Outcome) (runs' : Nat) : m ≠ .summary outcome runs' := by
  rintro rfl
  exact h

namespace Build

/-- **What latexmk has summed up** is no more than what it knows. -/
structure SumsUp (memory : Memory) (log : Log) : Prop where
  errors : log.state.tally.run.errors ≤ log.state.tally.total.errors
  warnings : log.state.tally.run.warnings ≤ log.state.tally.total.warnings
  within : ∀ m ∈ log.messages, m.Within memory.runs log.state.tally.total

variable {master : Text} {watching : Bool} {memory memory' : Memory} {log log' : Log}

theorem sumsUp_empty : SumsUp {} {} := ⟨Nat.le_refl 0, Nat.le_refl 0, List.forall_mem_nil _⟩

/-- Of what latexmk remembers, only the runs matter for what it sums up. -/
theorem SumsUp.of_runs (h : SumsUp memory log) (hruns : memory'.runs = memory.runs) :
    SumsUp memory' log :=
  ⟨h.errors, h.warnings, hruns ▸ h.within⟩

/-- A message that sums up no more than there is can be said. -/
theorem SumsUp.emit (h : SumsUp memory log) {m : Message}
    (hm : m.Within memory.runs log.state.tally.total) : SumsUp memory (log.emit m) :=
  ⟨h.errors, h.warnings,
    List.forall_mem_append.2 ⟨h.within, List.forall_mem_singleton.2 hm⟩⟩

/-- A section adds to the run and to the whole alike. -/
theorem SumsUp.enclose (h : SumsUp memory log) {tool : Tool} {nested : Log}
    (hn : IsSection master tool nested) (banner : String) :
    SumsUp memory (log.enclose tool banner nested) := by
  refine ⟨Nat.add_le_add_right h.errors _, Nat.add_le_add_right h.warnings _,
    List.forall_mem_append.2 ⟨fun m hm => ?_, fun m hm => ?_⟩⟩
  · exact (h.within m hm).mono (Nat.le_refl _) (Nat.le_add_right ..) (Nat.le_add_right ..)
  · rcases List.mem_append.1 hm with hm | hm
    · rcases List.mem_cons.1 hm with rfl | hm
      · trivial
      · exact Message.within_of_isOfTool (hn.2.isOfTool m hm) _ _
    · obtain rfl := List.mem_singleton.1 hm
      trivial

/-- **No step of latexmk** sums up more than there is. -/
theorem Step.sumsUp (hstep : Step master watching memory log memory' log')
    (h : SumsUp memory log) : SumsUp memory' log' := by
  cases hstep with
  | echo statement => exact h.emit trivial
  | chatter hs => exact h.emit trivial
  | inSection banner hn => exact (h.enclose hn banner).of_runs rfl
  | newRun =>
    -- the run is summed up, and the next one starts from nothing
    have hmore : ∀ m ∈ log.messages, m.Within (memory.runs + 1) log.state.tally.total :=
      fun m hm => (h.within m hm).mono (Nat.le_succ _) (Nat.le_refl _) (Nat.le_refl _)
    by_cases hr : memory.runs > 0
    · rw [if_pos hr]
      exact ⟨Nat.zero_le _, Nat.zero_le _, List.forall_mem_append.2
        ⟨hmore, List.forall_mem_singleton.2 ⟨Nat.le_succ _, h.errors, h.warnings⟩⟩⟩
    · rw [if_neg hr]
      exact ⟨Nat.zero_le _, Nat.zero_le _, hmore⟩
  | @round statement hw hs =>
    have hsaid : SumsUp memory (log.emit (.latexmk (String.ofList statement))) := h.emit trivial
    exact hsaid.of_runs rfl
  | @lastRound statement hw hs =>
    have hsaid : SumsUp memory (log.emit (.latexmk (String.ofList statement))) := h.emit trivial
    exact ⟨hsaid.errors, hsaid.warnings, hsaid.within⟩

end Build

/-! ## Reports -/

/-- **A report counts up to so many**: there are no more findings, no more runs but for the one
that there always is, and nothing more is summed up. -/
structure Report.CountsUpTo (n : Nat) (r : Report) : Prop where
  findings : r.outcome.findings ≤ n
  runs : r.runs ≤ max n 1
  within : ∀ m ∈ r.messages, m.Within n r.outcome

/-- **Latexmk counts up to the number of lines.** -/
theorem parseBuild_countsUpTo (master : Text) (watching verbose : Bool) (ls : List Line) :
    (parseBuild master watching verbose ls).CountsUpTo ls.length where
  findings := (Build.thrifty master watching).report_le verbose ls
  runs := max_le_max (Build.runs_le master watching verbose ls) (Nat.le_refl 1)
  within m hm := by
    have hkeeps : (Build.grammar master watching).Keeps Build.SumsUp :=
      Build.keeps Build.sumsUp_empty Build.Step.sumsUp
    exact ((hkeeps.parse verbose ls).within m hm).mono
      (Build.runs_le master watching verbose ls) (Nat.le_refl _) (Nat.le_refl _)

/-- **Every tool counts up to the number of lines**; all but latexmk sum up nothing. -/
theorem parseTranscript_countsUpTo (tool : Tool) (master : Text) (verbose : Bool)
    (ls : List Line) : (parseTranscript tool master verbose ls).CountsUpTo ls.length := by
  by_cases ht : tool = .latexmk
  · subst ht
    exact parseBuild_countsUpTo master false verbose ls
  · refine ⟨parseTranscript_findings_le tool master verbose ls, ?_, ?_⟩
    · cases tool with
      | latexmk => exact absurd rfl ht
      | _ => exact Nat.le_max_right ..
    · obtain ⟨log, hcourse, hlog⟩ := parseTranscript_course ht master verbose ls
      rw [hlog.messages]
      exact fun m hm => Message.within_of_isOfTool (hcourse.isOfTool m hm) _ _

/-- **What is counted up to a number that can be stored** can be stored. -/
theorem Report.CountsUpTo.storable {n : Nat} {r : Report} (h : r.CountsUpTo n)
    (hn : n ≤ Outcome.maxCount) :
    ∀ m ∈ r.messages ++ [.summary r.outcome r.runs], m.Storable := by
  have houtcome : r.outcome.Storable :=
    ⟨((Nat.le_add_right _ _).trans h.findings).trans hn,
      ((Nat.le_add_left _ _).trans h.findings).trans hn⟩
  have hruns : r.runs ≤ Outcome.maxCount := h.runs.trans (Nat.max_le.2 ⟨hn, by decide⟩)
  exact List.forall_mem_append.2 ⟨fun m hm => (h.within m hm).storable hn houtcome,
    List.forall_mem_singleton.2 ⟨houtcome, hruns⟩⟩

end TexTranscript
