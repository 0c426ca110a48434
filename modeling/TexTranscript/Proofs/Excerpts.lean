import TexTranscript.Proofs.Encoding
import TexTranscript.Proofs.Matches
import TexTranscript.Proofs.PhysicalLines

/-!
# Lines that the linter quotes

Behind a finding of the linter stands the line of source that it is about, and behind that a line
with a caret. The parser takes both as they are, so that what they say cannot be mistaken for
another finding or for the tally at the end. Where the line of source is too short to point at
anything, no line with a caret is expected: the line of source is used up without being quoted, and
the line behind it is a statement again.

So the lines that a finding uses up depend on what follows it (`Lint.quoted`), and with them
what every later statement is. A whole parse is therefore told along the lines
(`Lint.Lints`): at each step, the next statement and what it leads to.

A line is too short if it has a single byte. A single character of another script has more
of them; such a line is quoted, together with whatever follows it.

## Main definitions

* `Lint.IsLong`, `Lint.quoted` – the lines that a finding uses up, and what is quoted of them.
* `Lint.IsTally` – statements that begin with a tally.
* `Lint.Lints` – what comes of lines.

## Main statements

* `Lint.excerpts_arise` – what comes of the lines of a transcript.
* `Lint.tally_quoted` – how a short line makes the parser miss the tally.
-/

namespace TexTranscript

namespace Lint

/-! ## Lines that are quoted -/

/-- **A line is long** if it has more than one character, or a single one that is not ASCII. -/
def IsLong (text : Text) : Prop := 1 < text.length ∨ ∃ c ∈ text.head?, 0x80 ≤ c.toNat

instance (text : Text) : Decidable (IsLong text) :=
  decidable_of_iff
    (1 < text.length ∨ text.head?.any (fun c => decide (0x80 ≤ c.toNat)) = true) <| by
    unfold IsLong
    simp only [Option.any_eq_true, decide_eq_true_iff, Option.mem_def]

/-- Only an ASCII character is written by a single byte. -/
theorem one_lt_length_iff {v : Nat} {bytes : List UInt8} (h : Utf8.Writes v bytes) :
    1 ≤ bytes.length ∧ (1 < bytes.length ↔ 0x80 ≤ v) := by
  cases h with
  | one hv => exact ⟨Nat.le_refl 1, iff_of_false (Nat.lt_irrefl 1) (Nat.not_le.2 hv)⟩
  | two hx hy hleast => exact ⟨Nat.le_add_left 1 _, iff_of_true (Nat.le_add_left 2 _) hleast⟩
  | three hx hy hz hleast hsurrogate =>
    exact ⟨Nat.le_add_left 1 _, iff_of_true (Nat.le_add_left 2 _) (by omega)⟩
  | four hx hy hz hu hleast hlast =>
    exact ⟨Nat.le_add_left 1 _, iff_of_true (Nat.le_add_left 2 _) (by omega)⟩

/-- The lines that have a caret below them are the long ones. The code counts bytes, of which a
character has more than one if it is not ASCII. -/
theorem hasCaret_iff {text : Text} : hasCaret text = true ↔ IsLong text := by
  have hwrites (c : Char) := one_lt_length_iff (Utf8.writes_utf8EncodeChar c)
  unfold hasCaret
  rw [decide_eq_true_iff]
  match text with
  | [] =>
    refine iff_of_false (Nat.not_lt_zero 1) ?_
    rintro (hlt | ⟨c, hc, -⟩)
    · exact Nat.not_lt_zero 1 hlt
    · exact Option.some_ne_none c hc.symm
  | [c] =>
    show 1 < (String.utf8EncodeChar c ++ []).length ↔ _
    rw [List.append_nil, (hwrites c).2]
    constructor
    · exact fun hc => .inr ⟨c, rfl, hc⟩
    · rintro (hlt | ⟨d, hd, hc⟩)
      · exact absurd hlt (Nat.lt_irrefl 1)
      · obtain rfl := Option.some.inj hd
        exact hc
  | c :: d :: text =>
    refine iff_of_true ?_ (.inl (Nat.lt_add_of_pos_left (Nat.succ_pos _)))
    show 1 < (String.utf8EncodeChar c ++ (String.utf8EncodeChar d ++ _)).length
    rw [List.length_append, List.length_append]
    have hc := (hwrites c).1
    have hd := (hwrites d).1
    omega

/-- **What a finding leads to** in the lines behind it: what is quoted, and the lines that are
left. A line that is missing below a long one is quoted as an empty one. -/
def quoted : List Line → List Message × List Line
  | [] => ([], [])
  | l :: ls =>
    if IsLong l.text then
      ([.excerpt [String.ofList l.text, String.ofList ((ls.head?.map Line.text).getD [])]], ls.tail)
    else ([], ls)

variable {R : Type} [LineSource R] {ν : Type}

/-- **Below a finding the parser does what `quoted` says**: it emits this excerpt at most, and
leaves these lines. -/
theorem quoteSource_run (verbose : Bool) (s : Scope R) :
    ((quoteSource : Reaction ν Unit).run verbose s).2.log
        = ⟨s.log.state, s.log.messages ++ (quoted (LineSource.lines s.unread)).1⟩ ∧
      LineSource.lines ((quoteSource : Reaction ν Unit).run verbose s).2.unread
        = (quoted (LineSource.lines s.unread)).2 := by
  have hsame : s.log = ⟨s.log.state, s.log.messages ++ []⟩ := by rw [List.append_nil]
  have hrun : (quoteSource : Reaction ν Unit).run verbose s = _ :=
    Reaction.run_nextLine_bind verbose _ s
  have hleft := (LineSource.takeLine_spec s.unread).2
  rw [hrun]
  cases hls : LineSource.lines s.unread with
  | nil =>
    rw [hls] at hleft
    exact ⟨hsame, hleft⟩
  | cons l ls =>
    rw [hls] at hleft
    obtain ⟨hcaret, hbehind⟩ := LineSource.takeLine_spec (LineSource.takeLine s.unread).2
    rw [hleft] at hcaret hbehind
    dsimp only [List.head?_cons, Option.map_some]
    by_cases hlong : IsLong l.text
    · have hquoted : quoted (l :: ls) = ([.excerpt [String.ofList l.text,
          String.ofList ((ls.head?.map Line.text).getD [])]], ls.tail) := if_pos hlong
      rw [if_pos (hasCaret_iff.2 hlong), hquoted]
      exact ⟨hcaret ▸ Scope.log_emit _ _, hbehind⟩
    · have hquoted : quoted (l :: ls) = ([], ls) := if_neg hlong
      rw [if_neg (mt hasCaret_iff.1 hlong), hquoted]
      exact ⟨hsame, hleft⟩

/-! ## The tally -/

/-- A word with an `s` behind it, or without. -/
def IsCounted (word : String) (t : Text) : Prop := t = word.toList ∨ t = word.toList ++ ['s']

/-- **A statement begins with a tally** of errors and of warnings. -/
def IsTally (statement : Text) : Prop :=
  ∃ n errors m warnings rest, IsNumber n ∧ IsCounted " error" errors ∧ IsNumber m ∧
    IsCounted " warning" warnings ∧
    statement = n ++ errors ++ " printed; ".toList ++ m ++ warnings ++ " printed".toList ++ rest

/-- The pattern of a tally. -/
def tallyPattern : Pattern :=
  .group (.several .digit) ++ countable " error" ++ .lit " printed; " ++
    .group (.several .digit) ++ countable " warning" ++ .lit " printed"

/-- A word can be matched with an `s` behind it or without. -/
theorem matches_countable {word : String} {t : Text} {groups : List Text} {rest : Text} :
    (countable word).Matches t groups rest ↔ IsCounted word t ∧ groups = [] := by
  constructor
  · rintro ⟨_, _, _, _, rfl, rfl, ⟨rfl, rfl⟩, ⟨rfl, rfl⟩ | ⟨rfl, rfl⟩⟩
    · exact ⟨.inr rfl, rfl⟩
    · exact ⟨.inl (List.append_nil _), rfl⟩
  · rintro ⟨rfl | rfl, rfl⟩
    · exact ⟨word.toList, [], [], [], (List.append_nil _).symm, rfl, ⟨rfl, rfl⟩, .inr ⟨rfl, rfl⟩⟩
    · exact ⟨word.toList, ['s'], [], [], rfl, rfl, ⟨rfl, rfl⟩, .inl ⟨rfl, rfl⟩⟩

/-- The pattern of a tally matches just those statements that begin with one. -/
theorem matchesStart_tallyPattern {statement : Text} :
    tallyPattern.matchesStart statement = true ↔ IsTally statement := by
  rw [Pattern.matchesStart_iff]
  constructor
  · rintro ⟨_, _, rest, rfl, _, _, _, _, rfl, -, ⟨_, warnings, _, _, rfl, -, ⟨_, m, _, _, rfl, -,
      ⟨_, _, _, _, rfl, -, ⟨n, errors, _, _, rfl, -, ⟨_, -, hn, -⟩, herrors⟩, rfl, -⟩,
      ⟨_, -, hm, -⟩⟩, hwarnings⟩, rfl, -⟩
    exact ⟨n, errors, m, warnings, rest, hn, (matches_countable.1 herrors).1, hm,
      (matches_countable.1 hwarnings).1, rfl⟩
  · rintro ⟨n, errors, m, warnings, rest, hn, herrors, hm, hwarnings, rfl⟩
    refine ⟨_, _, rest, rfl, _, " printed".toList, _, _, rfl, rfl, ⟨_, warnings, _, _, rfl, rfl,
      ⟨_, m, _, _, rfl, rfl, ⟨_, " printed; ".toList, _, _, rfl, rfl, ⟨n, errors, _, _, rfl, rfl,
      ⟨_, rfl, hn, rfl⟩, matches_countable.2 ⟨herrors, rfl⟩⟩, rfl, rfl⟩,
      ⟨_, rfl, hm, rfl⟩⟩, matches_countable.2 ⟨hwarnings, rfl⟩⟩, rfl, rfl⟩

/-- The parser of the linter. -/
abbrev linter : Grammar Unit Finding Unit := grammar

/-- The pattern of a problem matches nothing that does not begin with the word for it. -/
theorem matchesStart_problemPattern {kind : String} {statement : Text}
    (h : Text.startsWith kind.toList statement = false) :
    (problemPattern kind).matchesStart statement = false := by
  have hnone : Text.after? kind.toList statement = none :=
    Option.isNone_iff_eq_none.1 (Option.isSome_eq_false_iff.1 h)
  unfold Pattern.matchesStart
  rw [Pattern.captures?_eq_search]
  show ((Text.after? kind.toList statement).bind _).isSome = false
  rw [hnone]
  rfl

/-- What begins with a digit does not begin with a letter. -/
theorem startsWith_of_isTally {statement : Text} (h : IsTally statement) {c : Char} {word : Text}
    (hc : Text.isDigit c = false) : Text.startsWith (c :: word) statement = false := by
  obtain ⟨n, _, _, _, _, ⟨hne, hn⟩, -, -, -, rfl⟩ := h
  obtain ⟨d, n, rfl⟩ := List.exists_cons_of_ne_nil hne
  rw [← Bool.not_eq_true, Text.startsWith_iff]
  rintro ⟨rest, hrest⟩
  obtain rfl : d = c := (List.cons.inj hrest).1
  exact Bool.false_ne_true (hc.symm.trans (hn d List.mem_cons_self))

theorem readProblem_ne_finished (severity : Severity) (groups : List Text) :
    readProblem severity groups ≠ some .finished := by
  unfold readProblem
  split
  · exact nofun
  · exact nofun

/-- **The parser is done** with the tally, whatever follows that. A tally begins with a digit, and
so none of the rules before matches it, all of which begin with a letter. -/
theorem classify_finished_iff {statement : Text} :
    linter.classify statement = some .finished ↔ IsTally statement := by
  constructor
  · intro h
    obtain ⟨rule, hrule, hmatch, groups, hread⟩ := Grammar.exists_rule_of_classify h
    change rule ∈ rules at hrule
    simp only [rules, List.mem_cons, List.not_mem_nil, or_false] at hrule
    rcases hrule with rfl | rfl | rfl | rfl
    · exact absurd hread nofun
    · exact absurd hread (readProblem_ne_finished _ _)
    · exact absurd hread (readProblem_ne_finished _ _)
    · exact matchesStart_tallyPattern.1 hmatch
  · intro h
    have hfirst : ∀ rule ∈ linter.rules.take 3, rule.pattern.matchesStart statement = false := by
      refine List.forall_mem_cons.2
        ⟨?_, List.forall_mem_cons.2 ⟨?_, List.forall_mem_singleton.2 ?_⟩⟩
      · rw [Rule.sign, Pattern.matchesStart_lit]
        exact startsWith_of_isTally h (by decide)
      · exact matchesStart_problemPattern (startsWith_of_isTally h (by decide))
      · exact matchesStart_problemPattern (startsWith_of_isTally h (by decide))
    rw [Grammar.classify_eq_drop hfirst]
    show [Rule.sign tallyPattern Finding.finished].findSome? (·.reading? statement) = _
    rw [List.findSome?_singleton, Rule.reading?_sign, matchesStart_tallyPattern.2 h]
    rfl

/-- A finding is no tally. -/
theorem not_isTally {statement file line description : Text} {severity : Severity}
    (h : linter.classify statement = some (.problem severity file line description)) :
    ¬IsTally statement := fun htally =>
  Finding.noConfusion (Option.some.inj (h.symm.trans (classify_finished_iff.2 htally)))

/-! ## What comes of the lines -/

/-- **What comes of lines**, from a log on: the turns that the parser takes, the lines that it
leaves, and the log that it comes to. -/
inductive Lints : List Line → Log → List Turn → List Line → Log → Prop
  /-- No line is left. -/
  | nothing (log : Log) : Lints [] log [] [] log
  /-- The next statement begins with a tally, and everything behind it is left. -/
  | tally {ls behind : List Line} {statement : Text} (log : Log)
      (hn : Statement.next? ls = some (statement, behind)) (htally : IsTally statement) :
      Lints ls log [⟨statement, []⟩] behind (log.perform .finish)
  /-- The next statement is a finding. It is reported, what stands below it is quoted, and the
  parser goes on behind that. -/
  | finding {ls behind left : List Line} {statement file line description : Text}
      {severity : Severity} {log log' : Log} {turns : List Turn}
      (hn : Statement.next? ls = some (statement, behind))
      (hc : linter.classify statement = some (.problem severity file line description))
      (rest :
        let report := log.perform
          (.problem severity (Text.trim description) (some (locationOf file line)) false)
        Lints (quoted behind).2 ⟨report.state, report.messages ++ (quoted behind).1⟩ turns left
          log') :
      Lints ls log
        (⟨statement, (Deed.problem severity (Text.trim description) (some (locationOf file line))
          false).message?.toList ++ (quoted behind).1⟩ :: turns) left log'
  /-- The next statement is something else. It is passed on at most. -/
  | other {ls behind left : List Line} {statement : Text} {said : List Message} {log log' : Log}
      {turns : List Turn} (hn : Statement.next? ls = some (statement, behind))
      (htally : ¬IsTally statement)
      (hc : ∀ severity file line description,
        linter.classify statement ≠ some (.problem severity file line description))
      (hsaid : said ∈ [[], [.info (String.ofList statement)], [.verbatim (String.ofList statement)]])
      (rest : Lints behind ⟨log.state, log.messages ++ said⟩ turns left log') :
      Lints ls log (⟨statement, said⟩ :: turns) left log'

/-- A report that reads no line, and what is quoted below it. The report comes first and the excerpt
is put behind it. -/
theorem run_quoting {report : Reaction ν Unit} {verbose : Bool} {s : Scope R} {d : Deed}
    (hlog : (report.run verbose s).2.log = s.log.perform d)
    (hunread : (report.run verbose s).2.unread = s.unread) :
    ((report.bind fun _ => quoteSource).run verbose s).2.log
        = ⟨(s.log.perform d).state,
          (s.log.perform d).messages ++ (quoted (LineSource.lines s.unread)).1⟩ ∧
      LineSource.lines ((report.bind fun _ => quoteSource).run verbose s).2.unread
        = (quoted (LineSource.lines s.unread)).2 := by
  have hquote := quoteSource_run (ν := ν) verbose (report.run verbose s).2
  rw [hlog, hunread] at hquote
  rw [Reaction.run_bind]
  exact hquote

/-- **A finding is reported**, and what stands below it is quoted. -/
theorem dispatch_problem {statement file line description : Text} {severity : Severity}
    (hc : linter.classify statement = some (.problem severity file line description))
    (verbose : Bool) (p : Grammar.Position R Unit) :
    let report := p.scope.log.perform
      (.problem severity (Text.trim description) (some (locationOf file line)) false)
    (linter.dispatch verbose statement p).scope.log
        = ⟨report.state, report.messages ++ (quoted (LineSource.lines p.scope.unread)).1⟩ ∧
      LineSource.lines (linter.dispatch verbose statement p).scope.unread
        = (quoted (LineSource.lines p.scope.unread)).2 := by
  unfold Grammar.dispatch
  rw [hc]
  cases severity with
  | warning => exact run_quoting (Reaction.log_run_locatedWarning verbose _ _ p.scope) rfl
  | error => exact run_quoting (Reaction.log_run_locatedError verbose _ _ p.scope) rfl

/-- The parser does nothing at a tally but finish. -/
theorem dispatch_finished {statement : Text} (hc : linter.classify statement = some .finished)
    (verbose : Bool) (p : Grammar.Position R Unit) :
    (linter.dispatch verbose statement p).scope.log = p.scope.log.perform .finish ∧
      (linter.dispatch verbose statement p).scope.unread = p.scope.unread := by
  unfold Grammar.dispatch
  rw [hc, Log.perform_finish]
  exact ⟨rfl, rfl⟩

/-- Anything else is passed on at most. That is all that the last rule does, and the echo of a
statement. -/
theorem exists_dispatch_other {statement : Text} (htally : ¬IsTally statement)
    (hc : ∀ severity file line description,
      linter.classify statement ≠ some (.problem severity file line description))
    (verbose : Bool) (p : Grammar.Position R Unit) :
    ∃ said ∈ [[], [.info (String.ofList statement)], [.verbatim (String.ofList statement)]],
      (linter.dispatch verbose statement p).scope.log
          = ⟨p.scope.log.state, p.scope.log.messages ++ said⟩ ∧
        (linter.dispatch verbose statement p).scope.unread = p.scope.unread := by
  rcases hfound : linter.classify statement with _ | found
  · unfold Grammar.dispatch
    rw [hfound]
    cases verbose with
    | false => exact ⟨[], by simp, by rw [List.append_nil]; rfl, rfl⟩
    | true => exact ⟨_, by simp, Scope.log_emit p.scope (.verbatim (String.ofList statement)), rfl⟩
  · cases found with
    | remark =>
      unfold Grammar.dispatch
      rw [hfound]
      exact ⟨_, by simp, Scope.log_emit p.scope (.info (String.ofList statement)), rfl⟩
    | problem severity file line description => exact absurd hfound (hc _ _ _ _)
    | finished => exact absurd (classify_finished_iff.1 hfound) htally

/-- **What comes of the lines** that are left, in a parse that is not done. The induction follows
the parser, and the cases are those of `Lints`: a tally, a finding with what it takes from below, or
anything else. -/
theorem lints_consume (verbose : Bool) (p : Grammar.Position R Unit)
    (hdone : p.scope.state.done = false) :
    Lints (LineSource.lines p.scope.unread) p.scope.log (linter.turns verbose p)
      (LineSource.lines (linter.consume verbose p).scope.unread)
      (linter.consume verbose p).scope.log := by
  fun_induction linter.consume verbose p with
  | case1 p h => exact absurd (hdone.symm.trans h) Bool.false_ne_true
  | case2 p h source hn =>
    obtain ⟨hlines, hleft⟩ := LineSource.lines_of_takeStatement_none hn
    rw [Grammar.turns_of_none hn, hlines]
    show Lints [] p.scope.log [] (LineSource.lines source) p.scope.log
    rw [hleft]
    exact .nothing _
  | case3 p h statement source hn ih =>
    have hnext := LineSource.next?_of_takeStatement_some hn
    have hturn {said : List Message}
        (hsaid : (linter.dispatch verbose statement (p.withUnread source)).scope.log.messages
          = p.scope.log.messages ++ said) :
        linter.turn verbose statement (p.withUnread source) = ⟨statement, said⟩ :=
      congrArg (Turn.mk statement) (Grammar.said_eq hsaid)
    rw [Grammar.turns_of_some h hn]
    -- a tally ends the parse, and a finding takes the lines that it quotes
    by_cases htally : IsTally statement
    · obtain ⟨hlog, hunread⟩ :=
        dispatch_finished (classify_finished_iff.2 htally) verbose (p.withUnread source)
      have hend :
          (linter.dispatch verbose statement (p.withUnread source)).scope.state.done = true :=
        (congrArg (·.state.done) hlog).trans (Bool.or_true _)
      have hquiet := hturn (congrArg Log.messages hlog)
      rw [Grammar.turns_of_done hend, Grammar.consume_of_done _ verbose hend, hlog, hunread, hquiet]
      exact .tally _ hnext htally
    by_cases hc : ∃ severity file line description,
        linter.classify statement = some (.problem severity file line description)
    · obtain ⟨severity, file, line, description, hc⟩ := hc
      obtain ⟨hlog, hleft⟩ := dispatch_problem hc verbose (p.withUnread source)
      have hopen :
          (linter.dispatch verbose statement (p.withUnread source)).scope.state.done = false :=
        (congrArg (·.state.done) hlog).trans ((Bool.or_false _).trans hdone)
      have hrest := ih hopen
      rw [hlog, hleft] at hrest
      rw [hturn ((congrArg Log.messages hlog).trans (List.append_assoc ..))]
      exact .finding hnext hc hrest
    · have hc : ∀ severity file line description,
          linter.classify statement ≠ some (.problem severity file line description) :=
        fun _ _ _ _ h => hc ⟨_, _, _, _, h⟩
      obtain ⟨said, hsaid, hlog, hunread⟩ :=
        exists_dispatch_other htally hc verbose (p.withUnread source)
      have hrest := ih ((congrArg (·.state.done) hlog).trans hdone)
      rw [hlog, hunread] at hrest
      rw [hturn (congrArg Log.messages hlog)]
      exact .other hnext htally hc hsaid hrest

namespace Lints

variable {ls left : List Line} {log log' : Log} {turns : List Turn}

/-- What is said in the turns is all that is said. -/
theorem messages_eq (h : Lints ls log turns left log') :
    log'.messages = log.messages ++ turns.flatMap (·.said) := by
  induction h with
  | nothing log => exact (List.append_nil _).symm
  | tally log hn htally => rfl
  | finding hn hc rest ih =>
    rw [List.flatMap_cons, ← List.append_assoc, ← List.append_assoc]
    exact ih
  | other hn htally hc hsaid rest ih =>
    rw [List.flatMap_cons, ← List.append_assoc]
    exact ih

/-- Only what stands below a finding is quoted. -/
theorem classify_of_excerpt (h : Lints ls log turns left log') {t : Turn} (ht : t ∈ turns)
    {quotation : List String} (hsaid : .excerpt quotation ∈ t.said) :
    ∃ severity file line description,
      linter.classify t.statement = some (.problem severity file line description) := by
  induction h with
  | nothing log => exact absurd ht List.not_mem_nil
  | tally log hn htally =>
    obtain rfl := List.mem_singleton.1 ht
    exact absurd hsaid List.not_mem_nil
  | finding hn hc rest ih =>
    rcases List.mem_cons.1 ht with rfl | ht
    · exact ⟨_, _, _, _, hc⟩
    · exact ih ht
  | other hn htally hc hmention rest ih =>
    rcases List.mem_cons.1 ht with rfl | ht
    · simp only [List.mem_cons, List.not_mem_nil, or_false] at hmention
      rcases hmention with rfl | rfl | rfl
      · exact absurd hsaid List.not_mem_nil
      · exact absurd (List.mem_singleton.1 hsaid) nofun
      · exact absurd (List.mem_singleton.1 hsaid) nofun
    · exact ih ht

/-- **A tally is the end.** No turn stands behind one. -/
theorem pairwise_not_isTally (h : Lints ls log turns left log') :
    turns.Pairwise fun earlier _ => ¬IsTally earlier.statement := by
  induction h with
  | nothing log => exact .nil
  | tally log hn htally => exact List.pairwise_singleton _ _
  | finding hn hc rest ih => exact List.pairwise_cons.2 ⟨fun _ _ => not_isTally hc, ih⟩
  | other hn htally hc hsaid rest ih => exact List.pairwise_cons.2 ⟨fun _ _ => htally, ih⟩

/-- The parse is done if there is a tally, and only then. -/
theorem done_iff (h : Lints ls log turns left log') (hlog : log.state.done = false) :
    log'.state.done = true ↔ ∃ t ∈ turns, IsTally t.statement := by
  induction h with
  | nothing log =>
    refine iff_of_false (fun hdone => Bool.false_ne_true (hlog.symm.trans hdone)) ?_
    exact fun ⟨_, ht, _⟩ => List.not_mem_nil ht
  | tally log hn htally => exact iff_of_true (Bool.or_true _) ⟨_, List.mem_singleton_self _, htally⟩
  | finding hn hc rest ih =>
    simp only [List.mem_cons, exists_eq_or_imp, ih ((Bool.or_false _).trans hlog)]
    exact (or_iff_right (not_isTally hc)).symm
  | other hn htally hc hsaid rest ih =>
    simp only [List.mem_cons, exists_eq_or_imp, ih hlog]
    exact (or_iff_right htally).symm

end Lints

/-- **Excerpts arise from findings.** Of any transcript that is parsed as the linter's, the parser
makes what `Lints` says of its lines: below each finding one line is used up as the line of source;
if it is long, another one is used up, and the two are quoted directly behind the finding; if it is
not, nothing is quoted, and the line behind it begins the next statement. What is used up is in no
statement of its own, and so it is not dispatched, not counted, and not taken for the tally. All
that is said is said in some turn, and nothing is quoted but in the turn of a finding. The parser is
done with the first statement that begins with a tally, and with nothing else. All parts but the
first are read off the turns by induction on `Lints`, so that they hold of everything that has this
shape. -/
theorem excerpts_arise (verbose : Bool) (source : R) :
    let turns := linter.turns verbose (linter.begin source)
    let result := linter.parse verbose (linter.begin source)
    Lints (LineSource.lines source) {} turns (LineSource.lines result.scope.unread)
        result.scope.log ∧
      result.scope.log.messages = turns.flatMap (·.said) ∧
      (∀ t ∈ turns, ∀ quotation, .excerpt quotation ∈ t.said → ∃ severity file line description,
        linter.classify t.statement = some (.problem severity file line description)) ∧
      (turns.Pairwise fun earlier _ => ¬IsTally earlier.statement) ∧
      (result.scope.state.done = true ↔ ∃ t ∈ turns, IsTally t.statement) := by
  intro turns result
  have hresult : result = linter.consume verbose (linter.begin source) :=
    Grammar.parse_eq_consume (fun _ => rfl) _
  have hlints : Lints (LineSource.lines source) {} turns (LineSource.lines result.scope.unread)
      result.scope.log := by
    rw [hresult]
    exact lints_consume verbose (linter.begin source) rfl
  exact ⟨hlints, hlints.messages_eq, fun t ht quotation => hlints.classify_of_excerpt ht,
    hlints.pairwise_not_isTally, hlints.done_iff rfl⟩

/-- **A short line can hide the tally.** The line of source has a single character, but this is
not ASCII. It is quoted, and the tally is quoted below it, so that the parser misses that. -/
theorem tally_quoted :
    let source := Line.ofBytes (Utf8.encode
      "Warning 8 in a.tex line 1: Wrong length.\né\n0 errors printed; 1 warning printed\n".toList)
    let result := linter.parse false (linter.begin source)
    (source[1]?.map Line.text).map List.length = some 1 ∧
      result.scope.log.messages = [.warning "Wrong length." (some ⟨"a.tex", 1⟩),
        .excerpt ["é", "0 errors printed; 1 warning printed"]] ∧
      result.scope.state.done = false := by
  decide +kernel

end Lint

end TexTranscript
