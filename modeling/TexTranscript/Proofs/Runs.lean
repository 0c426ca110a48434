import Mathlib.Data.List.Infix
import TexTranscript.Proofs.Accounting
import TexTranscript.Proofs.Encoding
import TexTranscript.Proofs.Turns

/-!
# Runs and rounds account for everything

The turns of latexmk that announce a run cut the list of all turns into *legs*: one
before the first run, and one for each run. What a leg comes to can be told from what is
said in it, by whatever parser. Latexmk keeps it in two sets of counts, of which one
starts again with each run, and says it at several places: when a run is followed by
another, at the end of each round that it watches, and in the end.

All that it says there is what the legs come to. The invariant for this speaks of the
turns so far and of both sets of counts (`Build.Accounts`), and every turn keeps it,
whether it announces a run, ends a round, or does neither.

## Main definitions

* `Turn.announcesRun`, `Turn.endsRound` – the turns that matter here.
* `legs`, `latestLeg`, `counted` – what is between announcements, and what it comes to.
* `rounds` – the turns up to the end of each round.
* `Build.Accounts` – what latexmk knows of its runs is what its turns come to.

## Main statements

* `Build.Step.within_or_announces` – a step is within a run or announces one.
* `Build.Accounts.turn` – a turn keeps the accounts.
* `runs_account` – runs and rounds account for everything.
-/

namespace TexTranscript

/-- The run, the errors and the warnings that a message sums up. -/
def Message.runSummary? : Message → Option (Nat × Nat × Nat)
  | runSummary run errors warnings => some (run, errors, warnings)
  | _ => none

/-- The turn announces a run. -/
def Turn.announcesRun (t : Turn) : Bool := Build.announcesRun t.statement

/-- The turn ends a round. -/
def Turn.endsRound (t : Turn) : Bool := decide (Build.finding? t.statement = some .roundEnd)

/-! ## Legs -/

/-- **What is counted in some turns**, by latexmk or a tool that it calls. -/
def counted (ts : List Turn) : Outcome := accounted true (ts.flatMap Turn.said)

/-- **The legs of some turns**: those between the announcements of runs, before the first and
behind the last. -/
def legs (ts : List Turn) : List (List Turn) := ts.splitOnP Turn.announcesRun

/-- The leg since the last announcement, or since the start. -/
def latestLeg (ts : List Turn) : List Turn := (legs ts).getLastD []

/-- What is to be said of the runs that are followed by another, from the first on. -/
def summaries (ts : List Turn) : List (Nat × Nat × Nat) :=
  ((legs ts).tail.dropLast.zipIdx 1).map fun (leg, run) =>
    (run, (counted leg).errors, (counted leg).warnings)

/-- **The turns up to the end of each round.** -/
def rounds (ts : List Turn) : List (List Turn) :=
  ts.inits.filter fun before => before.getLast?.any Turn.endsRound

/-- What is to be reported of the rounds, from the first on: which one it is, the runs so far,
what was counted since the last one was announced, and what was counted altogether. -/
def reported (ts : List Turn) : List (Nat × Nat × Outcome × Outcome) :=
  ((rounds ts).zipIdx 1).map fun (before, round) =>
    (round, before.countP Turn.announcesRun, counted (latestLeg before), counted before)

/-- What turns come to is counted part by part. -/
@[simp] theorem counted_append (ts ts' : List Turn) :
    counted (ts ++ ts') = counted ts + counted ts' := by
  unfold counted
  rw [List.flatMap_append, accounted_append]

variable {t : Turn}

/-- A turn that announces a run begins a new leg. -/
theorem legs_concat_pos (h : t.announcesRun = true) (ts : List Turn) :
    legs (ts ++ [t]) = legs ts ++ [[]] := splitOnP_concat_pos h ts

/-- A turn that announces no run belongs to the latest leg. -/
theorem legs_concat_neg (h : t.announcesRun = false) (ts : List Turn) :
    legs (ts ++ [t]) = (legs ts).dropLast ++ [latestLeg ts ++ [t]] := splitOnP_concat_neg h ts

/-- There is one leg more than there are announced runs. -/
theorem length_legs (ts : List Turn) : (legs ts).length = ts.countP Turn.announcesRun + 1 :=
  length_splitOnP ts

/-- There are as many legs before the latest as there are announced runs. -/
theorem length_dropLast_legs (ts : List Turn) :
    (legs ts).dropLast.length = ts.countP Turn.announcesRun := by
  rw [List.length_dropLast, length_legs]
  rfl

theorem legs_ne_nil (ts : List Turn) : legs ts ≠ [] := List.splitOnP_ne_nil _ ts

theorem latestLeg_concat_pos (h : t.announcesRun = true) (ts : List Turn) :
    latestLeg (ts ++ [t]) = [] := by
  unfold latestLeg
  rw [legs_concat_pos h, List.getLastD_concat]

/-- A turn that announces no run is added to the latest leg. -/
theorem latestLeg_concat_neg (h : t.announcesRun = false) (ts : List Turn) :
    latestLeg (ts ++ [t]) = latestLeg ts ++ [t] := by
  show (legs (ts ++ [t])).getLastD [] = _
  rw [legs_concat_neg h, List.getLastD_concat]

/-- The legs are those before the latest, and the latest. -/
theorem legs_eq (ts : List Turn) : legs ts = (legs ts).dropLast ++ [latestLeg ts] := by
  unfold latestLeg
  rw [List.getLastD_eq_getLast?, List.getLast?_eq_some_getLast (legs_ne_nil ts)]
  exact (List.dropLast_append_getLast (legs_ne_nil ts)).symm

/-- What stands between the first and the last of a list. -/
theorem tail_dropLast_concat {α : Type} (init : List α) (last : α) :
    (init ++ [last]).tail.dropLast = init.tail := by
  cases init with
  | nil => rfl
  | cons first init => exact List.dropLast_concat

/-- A turn that announces no run sums up none. -/
theorem summaries_concat_neg (h : t.announcesRun = false) (ts : List Turn) :
    summaries (ts ++ [t]) = summaries ts := by
  have hlegs : (legs (ts ++ [t])).tail.dropLast = (legs ts).tail.dropLast := by
    rw [legs_concat_neg h, legs_eq ts, tail_dropLast_concat, tail_dropLast_concat,
      List.dropLast_concat]
  unfold summaries
  rw [hlegs]

/-- A turn that announces a run sums up the one that ends, unless there was none. -/
theorem summaries_concat_pos (h : t.announcesRun = true) (ts : List Turn) :
    summaries (ts ++ [t]) = summaries ts ++
      if ts.countP Turn.announcesRun > 0 then
        [(ts.countP Turn.announcesRun, (counted (latestLeg ts)).errors,
          (counted (latestLeg ts)).warnings)]
      else [] := by
  unfold summaries
  rw [legs_concat_pos h, tail_dropLast_concat, ← length_dropLast_legs, legs_eq ts,
    tail_dropLast_concat, List.dropLast_concat]
  cases (legs ts).dropLast with
  | nil => rfl
  | cons first init =>
    have hpos : (first :: init).length > 0 := Nat.succ_pos init.length
    rw [List.cons_append, List.tail_cons, List.tail_cons, if_pos hpos, List.zipIdx_append,
      List.map_append, List.length_cons, Nat.add_comm init.length]
    rfl

/-- The runs that are summed up are numbered from one, in order. -/
theorem summaries_runs (ts : List Turn) :
    (summaries ts).map (·.1) = List.range' 1 (ts.countP Turn.announcesRun - 1) := by
  have hlength : (legs ts).tail.dropLast.length = ts.countP Turn.announcesRun - 1 := by
    rw [List.length_dropLast, List.length_tail, length_legs]
    rfl
  unfold summaries
  rw [List.map_map, ← hlength]
  exact List.zipIdx_map_snd 1 _

/-- The counts in the summaries are those of the legs. -/
theorem summaries_counts (f : Nat × Nat → Nat) (ts : List Turn) :
    (summaries ts).map (fun summary => f summary.2)
      = (legs ts).tail.dropLast.map
          fun leg => f ((counted leg).errors, (counted leg).warnings) := by
  unfold summaries
  rw [List.map_map]
  show ((legs ts).tail.dropLast.zipIdx 1).map
    ((fun leg => f ((counted leg).errors, (counted leg).warnings)) ∘ Prod.fst) = _
  rw [← List.map_map, List.zipIdx_map_fst]

/-- A turn adds a round just if it ends one. -/
theorem rounds_concat (ts : List Turn) (t : Turn) :
    rounds (ts ++ [t]) = rounds ts ++ if t.endsRound then [ts ++ [t]] else [] :=
  inits_filter_concat Turn.endsRound ts t

/-- A turn that ends no round adds no report. -/
theorem reported_concat_neg (h : t.endsRound = false) (ts : List Turn) :
    reported (ts ++ [t]) = reported ts := by
  unfold reported
  rw [rounds_concat, if_neg (Bool.eq_false_iff.1 h), List.append_nil]

/-- A turn that ends a round adds the report of all turns up to it. -/
theorem reported_concat_pos (h : t.endsRound = true) (ts : List Turn) :
    reported (ts ++ [t]) = reported ts ++
      [((rounds ts).length + 1, (ts ++ [t]).countP Turn.announcesRun,
        counted (latestLeg (ts ++ [t])), counted (ts ++ [t]))] := by
  unfold reported
  rw [rounds_concat, if_pos h, List.zipIdx_append, List.map_append, Nat.add_comm]
  rfl

/-! ## What the legs come to -/

section

variable {f : Outcome → Nat} (hadd : ∀ o p : Outcome, f (o + p) = f o + f p)
  (hclean : f .clean = 0)

include hadd hclean

/-- The whole is the sum of the legs if announcements count nothing, since only these are in no
leg. -/
theorem counted_eq_sum {ts : List Turn}
    (h : ∀ t ∈ ts, t.announcesRun = true → counted [t] = .clean) :
    f (counted ts) = ((legs ts).map fun leg => f (counted leg)).sum := by
  induction ts using List.reverseRecOn with
  | nil => exact (Nat.add_zero _).symm
  | append_singleton ts t ih =>
    have hts := ih fun t' ht' => h t' (List.mem_append_left [t] ht')
    rw [counted_append]
    cases ht : t.announcesRun with
    | true =>
      have hsilent : counted [t] = .clean := h t (List.mem_append_right ts List.mem_cons_self) ht
      rw [hsilent, Outcome.add_clean, legs_concat_pos ht, List.map_append, List.sum_append, hts]
      show _ = _ + (f .clean + 0)
      rw [hclean]
      rfl
    | false =>
      rw [legs_eq ts, List.map_append, List.sum_append] at hts
      rw [hadd, hts, legs_concat_neg ht, List.map_append, List.sum_append]
      show _ + (f (counted (latestLeg ts)) + 0) + _ = _ + (f (counted (latestLeg ts ++ [t])) + 0)
      rw [counted_append, hadd]
      omega

/-- **The whole is what was counted before the first run**, if there is one, what is to be said of
the runs that are followed by another, and what was counted since. The legs are the first, those in
the middle and the latest. -/
theorem counted_eq_add {ts : List Turn}
    (h : ∀ t ∈ ts, t.announcesRun = true → counted [t] = .clean) :
    f (counted ts) =
      (if ts.countP Turn.announcesRun = 0 then 0 else f (counted ((legs ts).headD []))) +
        ((legs ts).tail.dropLast.map fun leg => f (counted leg)).sum +
        f (counted (latestLeg ts)) := by
  rw [counted_eq_sum hadd hclean h, ← length_dropLast_legs, legs_eq ts, tail_dropLast_concat,
    List.dropLast_concat, List.map_append, List.sum_append]
  show _ + (f (counted (latestLeg ts)) + 0) = _
  cases (legs ts).dropLast with
  | nil => rfl
  | cons first init =>
    have hne : (first :: init).length ≠ 0 := Nat.succ_ne_zero init.length
    rw [if_neg hne]
    rfl

end

/-! ## One step -/

/-- The parser of a tool sums up no run. -/
theorem Message.runSummary?_of_isOfTool {m : Message} (h : m.IsOfTool) : m.runSummary? = none := by
  cases m with
  | runSummary run errors warnings => exact h.elim
  | _ => rfl

namespace Build

open Grammar (Position)

variable {master : Text} {watching verbose : Bool} {memory memory' : Memory} {log log' : Log}

/-- **A step within a run**: what is said sums up no run, and both sets of counts have what it
comes to. -/
structure WithinRun (memory memory' : Memory) (log log' : Log) : Prop where
  runs : memory'.runs = memory.runs
  said : ∃ ms, log'.messages = log.messages ++ ms ∧ ms.filterMap Message.runSummary? = [] ∧
    log'.state.tally.run = log.state.tally.run + accounted true ms

/-- Nothing that is done stays within the run. -/
theorem WithinRun.of_nothing (hruns : memory'.runs = memory.runs) :
    WithinRun memory memory' log log :=
  ⟨hruns, [], (List.append_nil _).symm, rfl, (Outcome.add_clean _).symm⟩

/-- One message that sums up no run and counts nothing stays within the run. -/
theorem WithinRun.of_emit {m : Message} (hm : m.runSummary? = none)
    (hclean : accounted true [m] = .clean) (hruns : memory'.runs = memory.runs)
    (hmessages : log'.messages = log.messages ++ [m])
    (hrun : log'.state.tally.run = log.state.tally.run) : WithinRun memory memory' log log' := by
  refine ⟨hruns, [m], hmessages, ?_, ?_⟩
  · rw [List.filterMap_cons, hm]
    rfl
  · rw [hclean, Outcome.add_clean, hrun]

/-- A section stays within the run: no run is summed up in it, and what it comes to is absorbed. -/
theorem WithinRun.of_isSection {tool : Tool} {nested : Log} (h : IsSection master tool nested)
    (banner : String) (hruns : memory'.runs = memory.runs) :
    WithinRun memory memory' log (log.enclose tool banner nested) := by
  refine ⟨hruns, _, rfl, List.filterMap_eq_nil_iff.2 fun m hm => ?_, ?_⟩
  · rcases List.mem_append.1 hm with hm | hm
    · rcases List.mem_cons.1 hm with rfl | hm
      · rfl
      · exact Message.runSummary?_of_isOfTool (h.2.isOfTool m hm)
    · obtain rfl := List.mem_singleton.1 hm
      rfl
  · rw [accounted_section, ← h.balanced]
    rfl

/-- **A step is within a run or announces one.** Then the run that ends is summed up, if there was
one, and its counts are dropped. -/
theorem Step.within_or_announces (h : Step master watching memory log memory' log') :
    WithinRun memory memory' log log' ∨
      memory'.runs = memory.runs + 1 ∧ log'.state.tally.run = .clean ∧
        log'.messages = log.messages ++
          if memory.runs > 0 then
            [.runSummary memory.runs log.state.tally.run.errors log.state.tally.run.warnings]
          else [] := by
  cases h with
  | echo statement => exact .inl (.of_emit rfl rfl rfl rfl rfl)
  | chatter hs => exact .inl (.of_emit rfl rfl rfl rfl rfl)
  | inSection banner hn => exact .inl (.of_isSection hn banner rfl)
  | newRun =>
    refine .inr ⟨rfl, ?_, ?_⟩
    · split
      · rfl
      · rfl
    · split
      · rfl
      · exact (List.append_nil _).symm
  | round hw hs => exact .inl (.of_emit rfl rfl rfl rfl rfl)
  | lastRound hw hs => exact .inl (.of_emit rfl rfl rfl rfl rfl)

/-! ## One turn -/

variable {R : Type} [LineSource R] {statement : Text} {p : Position R Memory}

/-- A statement adds a run if it announces one, and a round if it ends one. -/
theorem dispatch_counts (master : Text) (watching verbose : Bool) (statement : Text)
    (p : Position R Memory) :
    ((grammar master watching).dispatch verbose statement p).memory.runs
        = p.memory.runs + (if finding? statement = some .newRun then 1 else 0) ∧
      ((grammar master watching).dispatch verbose statement p).memory.rounds
        = p.memory.rounds + if finding? statement = some .roundEnd then 1 else 0 := by
  unfold Grammar.dispatch
  rw [show finding? statement = (grammar master watching).classify statement from rfl]
  rcases (grammar master watching).classify statement with _ | found
  · cases verbose with
    | true => exact ⟨rfl, rfl⟩
    | false => exact ⟨rfl, rfl⟩
  · cases found with
    | newRun =>
      show ((beginRun p.memory).run verbose p.scope).1.runs = _ ∧
        ((beginRun p.memory).run verbose p.scope).1.rounds = _
      unfold beginRun
      by_cases hr : p.memory.runs > 0
      · rw [if_pos hr]
        exact ⟨rfl, rfl⟩
      · rw [if_neg hr]
        exact ⟨rfl, rfl⟩
    | roundEnd =>
      cases watching with
      | true => exact ⟨rfl, rfl⟩
      | false => exact ⟨rfl, rfl⟩
    | _ => exact ⟨rfl, rfl⟩

/-- What is said in a turn is added to what was said before. -/
theorem messages_dispatch (master : Text) (watching verbose : Bool) (statement : Text)
    (p : Position R Memory) :
    ((grammar master watching).dispatch verbose statement p).scope.log.messages
      = p.scope.log.messages ++ ((grammar master watching).turn verbose statement p).said := by
  have hprefix : p.scope.log.messages <+:
      ((grammar master watching).dispatch verbose statement p).scope.log.messages := by
    rcases dispatch_step master watching verbose statement p with heq | hstep
    · rw [heq]
    · exact hstep.extends.1
  exact (List.prefix_iff_eq_append.1 hprefix).symm

/-- A turn that announces no run is within one. -/
theorem dispatch_withinRun (master : Text) (watching verbose : Bool)
    (h : finding? statement ≠ some .newRun) (p : Position R Memory) :
    WithinRun p.memory ((grammar master watching).dispatch verbose statement p).memory p.scope.log
      ((grammar master watching).dispatch verbose statement p).scope.log := by
  have hruns := (dispatch_counts master watching verbose statement p).1
  rw [if_neg h] at hruns
  rcases dispatch_step master watching verbose statement p with heq | hstep
  · rw [heq]
    exact .of_nothing rfl
  · rcases hstep.within_or_announces with hwithin | ⟨hannounced, -⟩
    · exact hwithin
    · omega

/-- A turn that announces one sums up the run that ends. -/
theorem dispatch_newRun (master : Text) (watching verbose : Bool)
    (h : finding? statement = some .newRun) (p : Position R Memory) :
    ((grammar master watching).dispatch verbose statement p).scope.state.tally.run = .clean ∧
      ((grammar master watching).turn verbose statement p).said =
        if p.memory.runs > 0 then
          [.runSummary p.memory.runs p.scope.state.tally.run.errors
            p.scope.state.tally.run.warnings]
        else [] := by
  have hruns := (dispatch_counts master watching verbose statement p).1
  rw [if_pos h] at hruns
  rcases dispatch_step master watching verbose statement p with heq | hstep
  · rw [heq] at hruns
    omega
  · rcases hstep.within_or_announces with hwithin | ⟨-, hrun, hmessages⟩
    · have := hwithin.runs
      omega
    · rw [messages_dispatch] at hmessages
      exact ⟨hrun, List.append_cancel_left hmessages⟩

/-! ## All turns -/

/-- **What latexmk knows of its runs** is what its turns come to: what was said, both sets of
counts, how many runs there were, and how they were summed up. -/
structure KnowsRuns (ts : List Turn) (memory : Memory) (log : Log) : Prop where
  messages : log.messages = ts.flatMap Turn.said
  balanced : log.Balanced true
  runs : memory.runs = ts.countP Turn.announcesRun
  run : log.state.tally.run = counted (latestLeg ts)
  /-- Announcements count nothing. -/
  silent : ∀ t ∈ ts, t.announcesRun = true → counted [t] = .clean
  summaries : log.messages.filterMap Message.runSummary? = summaries ts

/-- The total of all runs is what all turns come to. -/
theorem KnowsRuns.total {ts : List Turn} (h : KnowsRuns ts memory log) :
    log.state.tally.total = counted ts := by
  unfold counted
  rw [← h.messages]
  exact h.balanced

/-- A statement leaves the log balanced. -/
theorem balanced_dispatch (h : p.scope.log.Balanced true) :
    ((grammar master watching).dispatch verbose statement p).scope.log.Balanced true := by
  rcases dispatch_step master watching verbose statement p with heq | hstep
  · rw [heq]
    exact h
  · exact hstep.balanced h

/-- What a turn says comes behind what the others said. -/
theorem flatMap_said_concat (ts : List Turn) (t : Turn) :
    (ts ++ [t]).flatMap Turn.said = ts.flatMap Turn.said ++ t.said := by
  rw [List.flatMap_append, List.flatMap_singleton]

theorem counted_singleton (t : Turn) : counted [t] = accounted true t.said :=
  congrArg (accounted true) (List.append_nil t.said)

/-- **A turn within a run** keeps what is known: it is added to the latest leg, as to the counts of
the run. -/
theorem KnowsRuns.within {before : List Turn} (h : KnowsRuns before p.memory p.scope.log)
    (hfinding : finding? statement ≠ some .newRun) :
    KnowsRuns (before ++ [(grammar master watching).turn verbose statement p])
      ((grammar master watching).dispatch verbose statement p).memory
      ((grammar master watching).dispatch verbose statement p).scope.log := by
  have hsaid := messages_dispatch master watching verbose statement p
  have ht : ((grammar master watching).turn verbose statement p).announcesRun = false :=
    Bool.eq_false_iff.2 fun ht => hfinding (finding?_newRun_iff.2 ht)
  obtain ⟨hruns, ms, hmessages, hsummary, hrun⟩ :=
    dispatch_withinRun master watching verbose hfinding p
  obtain rfl := List.append_cancel_left (hmessages.symm.trans hsaid)
  generalize (grammar master watching).turn verbose statement p = t at hsaid ht hsummary hrun ⊢
  constructor
  · rw [hsaid, h.messages, flatMap_said_concat]
  · exact balanced_dispatch h.balanced
  · rw [hruns, h.runs, List.countP_append, List.countP_singleton, ht]
    rfl
  · rw [hrun, h.run, latestLeg_concat_neg ht, counted_append, counted_singleton]
  · refine List.forall_mem_append.2 ⟨h.silent, List.forall_mem_singleton.2 fun hpos => ?_⟩
    exact absurd (ht.symm.trans hpos) Bool.false_ne_true
  · rw [hsaid, List.filterMap_append, hsummary, List.append_nil, h.summaries,
      summaries_concat_neg ht]

/-- **A turn that announces a run** keeps what is known: the run that ends is summed up with the
counts of the latest leg, and a new leg begins. -/
theorem KnowsRuns.announced {before : List Turn} (h : KnowsRuns before p.memory p.scope.log)
    (hfinding : finding? statement = some .newRun) :
    KnowsRuns (before ++ [(grammar master watching).turn verbose statement p])
      ((grammar master watching).dispatch verbose statement p).memory
      ((grammar master watching).dispatch verbose statement p).scope.log := by
  have hmessages := messages_dispatch master watching verbose statement p
  have hruns := (dispatch_counts master watching verbose statement p).1
  have ht : ((grammar master watching).turn verbose statement p).announcesRun = true :=
    finding?_newRun_iff.1 hfinding
  obtain ⟨hrun, hsaid⟩ := dispatch_newRun master watching verbose hfinding p
  -- from here on the turn matters only for what is said in it
  generalize (grammar master watching).turn verbose statement p = t at hmessages ht hsaid ⊢
  have hsummary : t.said.filterMap Message.runSummary? =
      if p.memory.runs > 0 then
        [(p.memory.runs, p.scope.state.tally.run.errors, p.scope.state.tally.run.warnings)]
      else [] := by
    rw [hsaid]
    split
    · rfl
    · rfl
  have hsilent : counted [t] = .clean := by
    rw [counted_singleton, hsaid]
    split
    · rfl
    · rfl
  constructor
  · rw [hmessages, h.messages, flatMap_said_concat]
  · exact balanced_dispatch h.balanced
  · rw [hruns, if_pos hfinding, h.runs, List.countP_append, List.countP_singleton, ht]
    rfl
  · rw [latestLeg_concat_pos ht]
    exact hrun
  · exact List.forall_mem_append.2 ⟨h.silent, List.forall_mem_singleton.2 fun _ => hsilent⟩
  · have hstate : p.scope.state.tally.run = counted (latestLeg before) := h.run
    rw [hmessages, List.filterMap_append, h.summaries, summaries_concat_pos ht, hsummary, hstate,
      h.runs]

/-- **What latexmk knows of its rounds** as well is what its turns come to. -/
structure Accounts (watching : Bool) (ts : List Turn) (memory : Memory) (log : Log) : Prop
    extends KnowsRuns ts memory log where
  rounds : memory.rounds = (TexTranscript.rounds ts).length
  reports : memory.reports.map (fun r => (r.round, r.runs, r.outcome, r.total))
    = if watching then reported ts else []

theorem accounts_empty (watching : Bool) : Accounts watching [] {} {} where
  messages := rfl
  balanced := Log.balanced_empty true
  runs := rfl
  run := rfl
  silent := List.forall_mem_nil _
  summaries := rfl
  rounds := rfl
  reports := by cases watching <;> rfl

/-- What is reported at the end of a round. -/
theorem reports_endsRound {before : List Turn} {t : Turn}
    (h : Accounts watching before p.memory p.scope.log) (hends : EndsRound statement)
    (ht : t.endsRound = true)
    (hknows : KnowsRuns (before ++ [t])
      ((grammar master watching).dispatch verbose statement p).memory
      ((grammar master watching).dispatch verbose statement p).scope.log) :
    ((grammar master watching).dispatch verbose statement p).memory.reports.map
      (fun r => (r.round, r.runs, r.outcome, r.total))
        = if watching then reported (before ++ [t]) else [] := by
  cases watching with
  | false =>
    rw [dispatch_roundEnd_plain hends]
    exact h.reports
  | true =>
    have hruns := hknows.runs
    have hrun := hknows.run
    have htotal := hknows.total
    rw [dispatch_roundEnd_watching hends] at hruns hrun htotal ⊢
    have hreports := h.reports
    rw [if_pos rfl] at hreports ⊢
    rw [reported_concat_pos ht, List.map_append, hreports, ← h.rounds, ← hruns, ← hrun, ← htotal]
    rfl

/-- **A turn keeps the accounts**, whether it announces a run, ends a round or neither. -/
theorem Accounts.turn {before : List Turn} (statement : Text)
    (h : Accounts watching before p.memory p.scope.log) :
    Accounts watching (before ++ [(grammar master watching).turn verbose statement p])
      ((grammar master watching).dispatch verbose statement p).memory
      ((grammar master watching).dispatch verbose statement p).scope.log := by
  have hknows : KnowsRuns (before ++ [(grammar master watching).turn verbose statement p])
      ((grammar master watching).dispatch verbose statement p).memory
      ((grammar master watching).dispatch verbose statement p).scope.log := by
    by_cases hfinding : finding? statement = some .newRun
    · exact h.toKnowsRuns.announced hfinding
    · exact h.toKnowsRuns.within hfinding
  have hrounds := (dispatch_counts master watching verbose statement p).2
  by_cases hends : finding? statement = some .roundEnd
  · have ht : ((grammar master watching).turn verbose statement p).endsRound = true :=
      decide_eq_true hends
    refine ⟨hknows, ?_, reports_endsRound h hends ht hknows⟩
    rw [hrounds, if_pos hends, h.rounds, rounds_concat, if_pos ht, List.length_append]
    rfl
  · have ht : ((grammar master watching).turn verbose statement p).endsRound = false :=
      decide_eq_false hends
    refine ⟨hknows, ?_, ?_⟩
    · rw [hrounds, if_neg hends, h.rounds, rounds_concat, if_neg (Bool.eq_false_iff.1 ht),
        List.append_nil]
      rfl
    · rw [dispatch_reports hends, reported_concat_neg ht]
      exact h.reports

/-- **A whole parse keeps the accounts**, of the turns that it consists of. Each turn keeps them,
from the beginning on. -/
theorem accounts_parse (master : Text) (watching verbose : Bool) (source : R) :
    Accounts watching
      ((grammar master watching).turns verbose ((grammar master watching).begin source))
      (parse master watching verbose source).memory
      (parse master watching verbose source).scope.log := by
  rw [parse_eq_consume]
  have hbegin : Accounts watching [] ((grammar master watching).begin source).memory
      ((grammar master watching).begin source).scope.log := accounts_empty watching
  exact Grammar.keeps_turns Accounts.turn hbegin

end Build

variable {R : Type} [LineSource R]

/-- **Runs and rounds account for everything.** In every parse of latexmk, watching or not, verbose
or not, of every source, with `R` the turns that announce a run: there were `R` runs, and one at
least is reported. The runs that are summed up are numbered from `1` to `R - 1`, and each summary
has what was counted in its leg. What was counted in the end is what was counted before the first
run, in the summaries, and since the last run began. And while latexmk keeps watching, each round is
reported with its number, the runs so far, what was counted since the last run began, and what was
counted altogether. All parts are read off the accounts of the turns of the parse. -/
theorem runs_account (master : Text) (verbose : Bool) (source : R) :
    (∀ watching : Bool,
      let ts := (Build.grammar master watching).turns verbose
        ((Build.grammar master watching).begin source)
      let p := Build.parse master watching verbose source
      let report := parseBuild master watching verbose source
      let summedUp := report.messages.filterMap Message.runSummary?
      report.messages = ts.flatMap Turn.said ∧
      p.memory.runs = ts.countP Turn.announcesRun ∧
      report.runs = max (ts.countP Turn.announcesRun) 1 ∧
      summedUp.map (·.1) = List.range' 1 (ts.countP Turn.announcesRun - 1) ∧
      (legs ts).length = ts.countP Turn.announcesRun + 1 ∧
      summedUp = (((legs ts).tail.dropLast.zipIdx 1).map fun (leg, run) =>
        (run, (counted leg).errors, (counted leg).warnings)) ∧
      p.scope.state.tally.run = counted (latestLeg ts) ∧
      report.outcome = counted ts ∧
      report.outcome.errors
        = (if ts.countP Turn.announcesRun = 0 then 0 else (counted ((legs ts).headD [])).errors) +
          (summedUp.map (·.2.1)).sum + p.scope.state.tally.run.errors ∧
      report.outcome.warnings
        = (if ts.countP Turn.announcesRun = 0 then 0 else (counted ((legs ts).headD [])).warnings) +
          (summedUp.map (·.2.2)).sum + p.scope.state.tally.run.warnings) ∧
    parseTranscript .latexmk master verbose source = parseBuild master false verbose source ∧
    (parseBuild master true verbose source).rounds.map
        (fun r => (r.round, r.runs, r.outcome, r.total))
      = ((rounds ((Build.grammar master true).turns verbose
            ((Build.grammar master true).begin source))).zipIdx 1).map fun (before, round) =>
          (round, before.countP Turn.announcesRun, counted (latestLeg before), counted before) := by
  refine ⟨fun watching => ?_, rfl, (Build.accounts_parse master true verbose source).reports⟩
  have h := Build.accounts_parse master watching verbose source
  intro ts p report summedUp
  have hsummedUp : summedUp = summaries ts := h.summaries
  have hrun : p.scope.state.tally.run = counted (latestLeg ts) := h.run
  have htotal : report.outcome = counted ts := h.total
  refine ⟨h.messages, h.runs, congrArg (max · 1) h.runs, ?_, length_legs ts, hsummedUp, hrun,
    htotal, ?_, ?_⟩
  · rw [hsummedUp, summaries_runs]
  · rw [hsummedUp, summaries_counts Prod.fst, hrun, htotal]
    exact counted_eq_add Outcome.errors_add rfl h.silent
  · rw [hsummedUp, summaries_counts Prod.snd, hrun, htotal]
    exact counted_eq_add Outcome.warnings_add rfl h.silent

/-- Not every statement that begins like an announcement announces a run: if it has the banner of
Biber in it, Biber's rule comes first. -/
theorem banner_in_announcement :
    let line : Line := ⟨Utf8.encode "Run number 1 This is Biber".toList, true⟩
    let ts := (Build.grammar [] false).turns false ((Build.grammar [] false).begin [line])
    ts.countP (fun t => Text.startsWith "Run number".toList t.statement) = 1 ∧
      (Build.parse [] false false [line]).memory.runs = 0 := by
  intro line ts
  have hnext : LineSource.takeStatement [line] =
      (some "Run number 1 This is Biber".toList, ([] : List Line)) :=
    congrArg (fun t => (some t, ([] : List Line)))
      (Utf8.decodeLossy_encode "Run number 1 This is Biber".toList)
  let p := (Build.grammar [] false).begin [line]
  let q := (Build.grammar [] false).dispatch false "Run number 1 This is Biber".toList
    (p.withUnread ([] : List Line))
  have hnone : q.scope.unread = [] :=
    List.suffix_nil.1 (Grammar.dispatch_reads (Build.grammar [] false) false
      "Run number 1 This is Biber".toList (p.withUnread ([] : List Line))).lines_suffix
  have hts : ts = [(Build.grammar [] false).turn false "Run number 1 This is Biber".toList
      (p.withUnread ([] : List Line))] := by
    have hend : LineSource.takeStatement q.scope.unread = (none, ([] : List Line)) := by
      rw [hnone]
      rfl
    have hrest : (Build.grammar [] false).turns false q = [] := Grammar.turns_of_none hend
    show (Build.grammar [] false).turns false p = _
    rw [Grammar.turns_of_some (by decide) hnext, hrest]
  have hruns := (Build.accounts_parse [] false false [line]).runs
  change _ = ts.countP Turn.announcesRun at hruns
  rw [hts] at hruns
  rw [hts]
  exact ⟨rfl, hruns.trans rfl⟩

end TexTranscript
