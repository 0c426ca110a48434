import TexTranscript.Proofs.Deeds
import TexTranscript.Proofs.PhysicalLines
import TexTranscript.Proofs.SourceNames

/-!
# What Biber says, from end to end

Biber is done when it names the file it wrote to. It does so by `Output to `, which may stand
anywhere in a statement; but what looks like its banner, like the announcement of its own
transcript or like a report is taken as that, whatever else it contains. So the statements can be
told apart without looking at the rules: those that *name the output*, and the others. The first
one that does is the last one that is taken up.

What the parser knows by then depends on the statements in front of it only: how many of them
report what, and which transcript was announced last.

The announced name ends in front of the last quote of its statement, and the name of the output
begins behind the last `Output to `. Both are found by a greedy repetition, which goes on to the
last occurrence of what follows it, since no statement holds a line feed.

## Main definitions

* `Text.aroundLast?` – what stands around the last occurrence of a text.
* `Statement.all` – the statements of some lines.
* `Bibliography.announcedName?`, `Bibliography.outputName?` – the names that are captured.
* `Bibliography.namesOutput` – the statement names the output, and is nothing else.
* `Bibliography.reported` – what statements of Biber report.

## Main statements

* `Text.aroundLast?_eq_some_iff` – the last occurrence is the one with the least behind it.
* `Bibliography.classify_biber` – what is read off a statement.
* `Bibliography.Heard.consume` – a run of Biber, from anywhere in the middle.
* `Bibliography.biber_parse` – a whole parse of the output of Biber.
-/

namespace TexTranscript

/-! ## The last occurrence of a text -/

namespace Text

/-- **What stands around the last occurrence** of a text: in front of it, and behind it. -/
def aroundLast? (part : Text) : Text → Option (Text × Text)
  | [] => (after? part []).map ([], ·)
  | c :: t =>
    ((aroundLast? part t).map (Prod.map (c :: ·) id)).or ((after? part (c :: t)).map ([], ·))

variable {part t front behind front' behind' : Text}

/-- There is a last occurrence if there is any. -/
theorem isSome_aroundLast? (part t : Text) : (aroundLast? part t).isSome = hasPart part t := by
  induction t with
  | nil => exact Option.isSome_map
  | cons c t ih =>
    unfold aroundLast? hasPart
    rw [Option.isSome_or, Option.isSome_map, Option.isSome_map, ih, Bool.or_comm]
    rfl

/-- Where a text has a part, the part has a last occurrence in it. -/
theorem aroundLast?_ne_none (ht : t = front ++ part ++ behind) : aroundLast? part t ≠ none := by
  rw [← Option.isSome_iff_ne_none, isSome_aroundLast?]
  exact hasPart_iff.2 ⟨front, behind, ht⟩

/-- What is found stands there. -/
theorem eq_of_aroundLast? (h : aroundLast? part t = some (front, behind)) :
    t = front ++ part ++ behind := by
  have hhere {front t : Text} (h : (after? part t).map (([] : Text), ·) = some (front, behind)) :
      t = front ++ part ++ behind := by
    obtain ⟨rest, hrest, heq⟩ := Option.map_eq_some_iff.1 h
    obtain ⟨rfl, rfl⟩ := Prod.mk.inj heq
    exact after?_eq_some_iff.1 hrest
  induction t generalizing front with
  | nil => exact hhere h
  | cons c t ih =>
    rcases Option.or_eq_some_iff.1 h with h | ⟨-, h⟩
    · obtain ⟨⟨front', rest⟩, hlater, heq⟩ := Option.map_eq_some_iff.1 h
      obtain ⟨rfl, rfl⟩ := Prod.mk.inj heq
      exact congrArg (c :: ·) (ih hlater)
    · exact hhere h

/-- No other occurrence has less behind it. Occurrences further behind are tried first. -/
theorem length_le_of_aroundLast? (h : aroundLast? part t = some (front, behind))
    (ht : t = front' ++ part ++ behind') : behind.length ≤ behind'.length := by
  induction t generalizing front front' with
  | nil =>
    have hlength := congrArg List.length (eq_of_aroundLast? h)
    simp only [List.length_append, List.length_nil] at hlength
    omega
  | cons c t ih =>
    cases front' with
    | nil =>
      have hlength := congrArg List.length (ht.symm.trans (eq_of_aroundLast? h))
      simp only [List.length_append, List.length_nil] at hlength
      omega
    | cons d front' =>
      rcases Option.or_eq_some_iff.1 h with h | ⟨hnone, -⟩
      · obtain ⟨⟨front'', rest⟩, hlater, heq⟩ := Option.map_eq_some_iff.1 h
        obtain ⟨-, rfl⟩ := Prod.mk.inj heq
        exact ih hlater (List.cons.inj ht).2
      · exact absurd (Option.map_eq_none_iff.1 hnone) (aroundLast?_ne_none (List.cons.inj ht).2)

/-- **The last occurrence** is the one with the least behind it. -/
theorem aroundLast?_eq_some_iff : aroundLast? part t = some (front, behind) ↔
    t = front ++ part ++ behind ∧
      ∀ front' behind', t = front' ++ part ++ behind' → behind.length ≤ behind'.length := by
  constructor
  · intro h
    exact ⟨eq_of_aroundLast? h, fun _ _ => length_le_of_aroundLast? h⟩
  · rintro ⟨ht, hleast⟩
    obtain ⟨⟨front', behind'⟩, h⟩ := Option.ne_none_iff_exists'.1 (aroundLast?_ne_none ht)
    have ht' := eq_of_aroundLast? h
    have hlength : behind'.length = behind.length :=
      Nat.le_antisymm (length_le_of_aroundLast? h ht) (hleast front' behind' ht')
    obtain ⟨hfront, hbehind⟩ := List.append_inj' (ht'.symm.trans ht) hlength
    rw [h, List.append_cancel_right hfront, hbehind]

end Text

/-! ## Greedy repetitions -/

namespace Pattern

variable {α : Type} {t : Text}

/-- A run of any characters can be as long as the text is, if that holds no line feed. -/
theorem backoffs_any (h : '\n' ∉ t) : backoffs .any t [] = t.tails.reverse := by
  have hall : ∀ c ∈ t, CharClass.any.contains c = true :=
    CharClass.forall_except_iff (c := '\n').2 h
  rw [backoffs_eq, List.append_nil, stops_eq_tails hall]

/-- A greedy repetition goes on to the end if what follows it can stand there. -/
theorem findSome?_tails_nil {k : Text → Option α} {a : α} (h : k [] = some a) :
    t.tails.reverse.findSome? k = some a := by
  induction t with
  | nil => exact List.findSome?_singleton.trans h
  | cons c t ih =>
    rw [List.tails_cons, List.reverse_cons, List.findSome?_append, ih]
    rfl

/-- **A greedy repetition goes on to the last occurrence** of the text that follows it. A repetition
gives back one character after the other, so the ends that it offers are the tails of the text from
the shortest on, and the first of them that begins with the part is its last occurrence. -/
theorem findSome?_tails_after {part : Text} {k : Text → Text → Option α} {f : Text → Text → α}
    (h : ∀ front behind, t = front ++ part ++ behind →
      k (part ++ behind) behind = some (f front behind)) :
    t.tails.reverse.findSome? (fun rest => (Text.after? part rest).bind (k rest))
      = (Text.aroundLast? part t).map fun x => f x.1 x.2 := by
  have hhere {t : Text} {g : Text → α} (h : ∀ behind, t = part ++ behind →
      k (part ++ behind) behind = some (g behind)) :
      (Text.after? part t).bind (k t) = (Text.after? part t).map g := by
    cases hrest : Text.after? part t with
    | none => rfl
    | some behind =>
      have ht := Text.after?_eq_some_iff.1 hrest
      rw [ht]
      exact h behind ht
  induction t generalizing f with
  | nil =>
    show ([[]] : List Text).findSome? _ = _
    rw [List.findSome?_singleton, hhere (h []), Text.aroundLast?, Option.map_map]
    rfl
  | cons c t ih =>
    have hlater := ih (f := fun front behind => f (c :: front) behind) fun front behind ht =>
      h (c :: front) behind (congrArg (c :: ·) ht)
    rw [List.tails_cons, List.reverse_cons, List.findSome?_append, hlater, List.findSome?_singleton,
      hhere (h []), Text.aroundLast?, Option.map_or, Option.map_map, Option.map_map]
    rfl

end Pattern

/-! ## The statements of some lines -/

namespace Statement

/-- **The statements** that some lines are gathered to. -/
def all (ls : List Line) : List Text :=
  match _h : next? ls with
  | none => []
  | some (statement, rest) => statement :: all rest
termination_by ls.length
decreasing_by exact next?_length_lt _h

@[simp] theorem all_nil : all [] = [] := by
  rw [all]
  split
  · rfl
  · next h => exact absurd h (by simp [next?])

/-- The statements of some lines are the next one and those of the lines behind it. -/
theorem all_of_next? {ls rest : List Line} {statement : Text}
    (h : next? ls = some (statement, rest)) : all ls = statement :: all rest := by
  rw [all]
  split
  · next h' => rw [h] at h'; exact absurd h' (Option.some_ne_none _)
  · next h' =>
    rw [h, Option.some.injEq, Prod.mk.injEq] at h'
    rw [h'.1, h'.2]

/-- No line feed comes into the bytes of a statement if there is none in the lines. -/
theorem lineFeed_notMem_gather {l : Line} {ls : List Line}
    (h : ∀ m ∈ l :: ls, lineFeed ∉ m.bytes) : lineFeed ∉ (gather l ls).1 := by
  induction ls generalizing l with
  | nil => exact h l List.mem_cons_self
  | cons m ls ih =>
    obtain ⟨hl, hls⟩ := List.forall_mem_cons.1 h
    unfold gather
    split
    · intro hm
      rcases List.mem_append.1 hm with hm | hm
      · exact hl hm
      · exact ih hls hm
    · exact hl

/-- **The next statement of lines without line feeds** has none, and neither have the others.
Decoding makes no line feed out of other bytes, and the lines of a reader have none in them. -/
theorem lineFeed_notMem_next? {ls rest : List Line} {statement : Text}
    (h : next? ls = some (statement, rest)) (hls : ∀ l ∈ ls, lineFeed ∉ l.bytes) :
    '\n' ∉ statement ∧ ∀ l ∈ rest, lineFeed ∉ l.bytes := by
  cases ls with
  | nil => exact absurd h (Option.some_ne_none _).symm
  | cons l ls =>
    obtain ⟨rfl, rfl⟩ := Prod.mk.inj (Option.some.inj h)
    exact ⟨Utf8.lineFeed_notMem_decodeLossy (lineFeed_notMem_gather hls),
      fun m hm => hls m (List.mem_cons_of_mem l ((gather_suffix l ls).subset hm))⟩

end Statement

/-- The message names a transcript. -/
def Message.isTranscript : Message → Bool
  | transcript _ => true
  | _ => false

/-! ## What is read off a statement of Biber -/

namespace Bibliography

/-- **The name of its own transcript** that Biber announces in a statement. -/
def announcedName? (statement : Text) : Option Text :=
  (Text.after? "INFO - Logfile is '".toList statement).bind fun behind =>
    (Text.aroundLast? "'".toList behind).map Prod.fst

/-- **The name of the file** that Biber wrote to, as a statement has it. -/
def outputName? (statement : Text) : Option Text :=
  (Text.aroundLast? "Output to ".toList statement).map Prod.snd

/-- What a statement begins with that is the banner or a report, whatever else it contains. -/
def openings : List Text :=
  ["INFO - This is Biber".toList, "WARN".toList, "ERROR".toList, "FATAL".toList]

/-- **The statement names the output**, and is nothing else. -/
def namesOutput (statement : Text) : Bool :=
  Text.hasPart "Output to ".toList statement && !openings.any (Text.startsWith · statement) &&
    (announcedName? statement).isNone

/-- **What statements of Biber report.** What is fatal counts as an error as well. -/
def reported (statements : List Text) : Outcome where
  fatal := statements.any (Text.startsWith "FATAL".toList)
  errors := statements.countP fun statement =>
    Text.startsWith "ERROR".toList statement || Text.startsWith "FATAL".toList statement
  warnings := statements.countP (Text.startsWith "WARN".toList)

variable {ν : Type} {statement : Text}

/-- The rule for the announcement captures what stands before the last quotation mark. -/
theorem captures?_logfile (h : '\n' ∉ statement) :
    (.lit "INFO - Logfile is '" ++ .group (.many .any) ++ .lit "'" : Pattern).captures? statement
      = (announcedName? statement).map ([·]) := by
  rw [Pattern.captures?_eq_search]
  show (Text.after? "INFO - Logfile is '".toList statement).bind (fun behind =>
    (Pattern.backoffs .any behind []).findSome? fun rest => (Text.after? "'".toList rest).bind
      fun _ => some [Pattern.Span.text ⟨behind, rest⟩]) = _
  unfold announcedName?
  cases hbehind : Text.after? "INFO - Logfile is '".toList statement with
  | none => rfl
  | some behind =>
    have hfeed : '\n' ∉ behind := fun hm =>
      h ((Text.after?_eq_some_iff.1 hbehind) ▸ List.mem_append_right _ hm)
    rw [Option.bind_some, Option.bind_some, Pattern.backoffs_any hfeed,
      Pattern.findSome?_tails_after (f := fun front _ => [front]), Option.map_map]
    · rfl
    · rintro front rest rfl
      rw [List.append_assoc, Pattern.Span.text_append]

/-- The rule for the output captures what stands behind the last `Output to`. -/
theorem captures?_output (h : '\n' ∉ statement) :
    (.many .any ++ .lit "Output to " ++ .group (.many .any) ++ .atEnd : Pattern).captures? statement
      = (outputName? statement).map ([·]) := by
  rw [Pattern.captures?_eq_search]
  show (Pattern.backoffs .any statement []).findSome? (fun rest =>
    (Text.after? "Output to ".toList rest).bind fun behind =>
      (Pattern.backoffs .any behind []).findSome? fun last =>
        if last.isEmpty then some [Pattern.Span.text ⟨behind, last⟩] else none) = _
  unfold outputName?
  rw [Pattern.backoffs_any h, Pattern.findSome?_tails_after (f := fun _ behind => [behind]),
    Option.map_map]
  · rfl
  · -- the longest run behind it leads to the end
    rintro front behind rfl
    have hfeed : '\n' ∉ behind := fun hm => h (List.mem_append_right _ hm)
    rw [Pattern.backoffs_any hfeed]
    refine Pattern.findSome?_tails_nil ?_
    have htext := Pattern.Span.text_append behind []
    rw [List.append_nil] at htext
    show some [Pattern.Span.text ⟨behind, []⟩] = some [behind]
    rw [htext]

/-- A name of the output is captured where it stands. -/
theorem outputName?_eq_none_iff :
    outputName? statement = none ↔ Text.hasPart "Output to ".toList statement = false := by
  unfold outputName?
  rw [Option.map_eq_none_iff, ← Text.isSome_aroundLast?, Option.isSome_eq_false_iff,
    Option.isNone_iff_eq_none]

/-- A statement names the output if it says so and none of the rules before that one matches it. -/
theorem namesOutput_iff : namesOutput statement = true ↔
    Text.hasPart "Output to ".toList statement = true ∧
      Text.startsWith "INFO - This is Biber".toList statement = false ∧
      Text.startsWith "WARN".toList statement = false ∧
      Text.startsWith "ERROR".toList statement = false ∧
      Text.startsWith "FATAL".toList statement = false ∧
      announcedName? statement = none := by
  unfold namesOutput openings
  simp only [List.any_cons, List.any_nil, Bool.or_false, Bool.and_eq_true, Bool.not_eq_true',
    Bool.or_eq_false_iff, Option.isNone_iff_eq_none, and_assoc]

/-- Nothing is reported by a statement that does not begin like a report. -/
theorem reported_of_no_opening (hwarning : Text.startsWith "WARN".toList statement = false)
    (herror : Text.startsWith "ERROR".toList statement = false)
    (hfatal : Text.startsWith "FATAL".toList statement = false) :
    reported [statement] = .clean := by
  unfold reported
  simp only [List.any_cons, List.any_nil, List.countP_cons, List.countP_nil, hwarning, herror,
    hfatal]
  rfl

/-- **What is read off a statement** of Biber. The rules are tried in their order, and each is
replaced by what it looks for in the text. -/
theorem classify_biber (h : '\n' ∉ statement) :
    (biber : Grammar _ _ ν).classify statement =
      if Text.startsWith "INFO - This is Biber".toList statement then some .remark
      else ((announcedName? statement).map .logfile).or <|
        if Text.startsWith "WARN".toList statement then some .warning
        else if Text.startsWith "ERROR".toList statement then some .error
        else if Text.startsWith "FATAL".toList statement then some .fatal
        else (outputName? statement).map .output := by
  unfold Grammar.classify
  show biberRules.findSome? _ = _
  simp only [biberRules, List.findSome?_cons, List.findSome?_nil, Rule.reading?_sign,
    Pattern.matchesStart_lit]
  simp only [Rule.reading?, captures?_logfile h, captures?_output h]
  split_ifs
  all_goals cases announcedName? statement <;> cases outputName? statement <;> rfl

theorem reported_append (statements statements' : List Text) :
    reported (statements ++ statements') = reported statements + reported statements' := by
  ext
  · exact List.any_append
  · exact List.countP_append
  · exact List.countP_append

/-- What names the output reports nothing. -/
theorem reported_of_namesOutput (h : namesOutput statement = true) :
    reported [statement] = .clean := by
  obtain ⟨-, -, hwarning, herror, hfatal, -⟩ := namesOutput_iff.1 h
  exact reported_of_no_opening hwarning herror hfatal

/-! ## What a statement does -/

variable {R : Type} {p q : Grammar.Position R (Option Text)} {heard : List Text}

/-- **What a statement does that does not name the output**: it may announce a transcript, it is
counted if it is a report, and at most one message is emitted, which names no transcript. -/
structure Heeds (statement : Text) (p q : Grammar.Position R (Option Text)) : Prop where
  memory : q.memory = (announcedName? statement).or p.memory
  unread : q.scope.unread = p.scope.unread
  done : q.scope.state.done = p.scope.state.done
  outcome : q.scope.state.outcome = p.scope.state.outcome + reported [statement]
  said : ∃ m : Option Message, q.scope.log.messages = p.scope.log.messages ++ m.toList ∧
    ∀ x ∈ m, x.isTranscript = false

/-- **What a statement does that names the output**: the transcript is named that was announced,
or else the one that belongs to the output, and the parser is done. -/
def concluded (p : Grammar.Position R (Option Text)) (path : Text) :
    Grammar.Position R (Option Text) :=
  ⟨none, (p.scope.emit (.transcript (String.ofList
    (p.memory.getD (transcriptOf path))))).record .finish⟩

/-- **What has been heard of Biber** so far, and did not name the output. -/
structure Heard (heard : List Text) (p : Grammar.Position R (Option Text)) : Prop where
  /-- The transcript that was announced last is remembered. -/
  memory : p.memory = (heard.filterMap announcedName?).getLast?
  going : p.scope.state.done = false
  outcome : p.scope.state.outcome = reported heard
  silent : ∀ m ∈ p.scope.log.messages, m.isTranscript = false
  others : ∀ statement ∈ heard, namesOutput statement = false

theorem Heard.begin (source : R) : Heard [] ((biber : Grammar _ _ ν).begin source) :=
  ⟨rfl, rfl, rfl, List.forall_mem_nil _, List.forall_mem_nil _⟩

/-- One more statement is heard. Every field of what was heard is a sum or a last one over the
statements, so one more adds to each of them. -/
theorem Heard.concat (h : Heard heard p) (hs : namesOutput statement = false)
    (hq : Heeds statement p q) : Heard (heard ++ [statement]) q where
  memory := by
    have hone : ([statement].filterMap announcedName?).getLast? = announcedName? statement := by
      cases hname : announcedName? statement with
      | none => rw [List.filterMap_cons_none hname]; rfl
      | some name => rw [List.filterMap_cons_some hname]; rfl
    rw [hq.memory, h.memory, List.filterMap_append, List.getLast?_append, hone]
  going := hq.done.trans h.going
  outcome := by rw [hq.outcome, h.outcome, reported_append]
  silent := by
    obtain ⟨m, hmessages, hm⟩ := hq.said
    rw [hmessages]
    exact List.forall_mem_append.2 ⟨h.silent, fun x hx => hm x (Option.mem_toList.1 hx)⟩
  others := List.forall_mem_append.2 ⟨h.others, List.forall_mem_singleton.2 hs⟩

variable [LineSource R]

/-- A statement that does not name the output is heeded, whichever rule matches it, or none. -/
theorem heeds_dispatch (verbose : Bool) (p : Grammar.Position R (Option Text))
    (hfeed : '\n' ∉ statement) (h : namesOutput statement = false) :
    Heeds statement p ((biber : Grammar _ _ ν).dispatch verbose statement p) := by
  have hsilent {m : Message} (hm : m.isTranscript = false) : ∀ x ∈ some m, x.isTranscript = false :=
    fun _ hx => Option.some.inj hx ▸ hm
  have hnothing {o : Outcome} : o = o + .clean := (Outcome.add_clean o).symm
  unfold Grammar.dispatch
  rw [classify_biber hfeed]
  by_cases hbanner : Text.startsWith "INFO - This is Biber".toList statement
  · rw [if_pos hbanner]
    obtain ⟨rest, rfl⟩ := Text.startsWith_iff.1 hbanner
    exact ⟨rfl, rfl, rfl, hnothing, some _, Array.toList_push, hsilent rfl⟩
  rw [if_neg hbanner]
  rcases hname : announcedName? statement with _ | name
  · rw [Option.map_none, Option.none_or]
    by_cases hwarning : Text.startsWith "WARN".toList statement
    · rw [if_pos hwarning]
      obtain ⟨rest, rfl⟩ := Text.startsWith_iff.1 hwarning
      exact ⟨rfl, rfl, rfl, rfl, some _, Array.toList_push, hsilent rfl⟩
    rw [if_neg hwarning]
    by_cases herror : Text.startsWith "ERROR".toList statement
    · rw [if_pos herror]
      obtain ⟨rest, rfl⟩ := Text.startsWith_iff.1 herror
      exact ⟨rfl, rfl, rfl, rfl, some _, Array.toList_push, hsilent rfl⟩
    rw [if_neg herror]
    by_cases hfatal : Text.startsWith "FATAL".toList statement
    · rw [if_pos hfatal]
      obtain ⟨rest, rfl⟩ := Text.startsWith_iff.1 hfatal
      exact ⟨rfl, rfl, rfl, Outcome.add_assoc _ _ _, some _, Array.toList_push, hsilent rfl⟩
    rw [if_neg hfatal]
    rw [Bool.not_eq_true] at hbanner hwarning herror hfatal
    have hnone : outputName? statement = none := by
      -- all that could keep it from naming the output is that it does not
      rw [outputName?_eq_none_iff, ← Bool.not_eq_true]
      intro hpart
      rw [namesOutput_iff.2 ⟨hpart, hbanner, hwarning, herror, hfatal, hname⟩] at h
      exact Bool.noConfusion h
    have hreported := reported_of_no_opening hwarning herror hfatal
    have hmemory : p.memory = (announcedName? statement).or p.memory := by
      rw [hname, Option.none_or]
    rw [hnone]
    cases verbose with
    | true =>
      exact ⟨hmemory, rfl, rfl, hreported ▸ hnothing, some _, Array.toList_push, hsilent rfl⟩
    | false =>
      exact ⟨hmemory, rfl, rfl, hreported ▸ hnothing, none, (List.append_nil _).symm,
        fun _ hx => absurd hx.symm (Option.some_ne_none _)⟩
  · obtain ⟨behind, hbehind, -⟩ := Option.bind_eq_some_iff.1 hname
    have hreported : reported [statement] = .clean := by
      rw [Text.after?_eq_some_iff.1 hbehind]
      rfl
    refine ⟨by rw [hname]; rfl, rfl, rfl, ?_, some _, Array.toList_push, hsilent rfl⟩
    rw [hreported]
    exact hnothing

/-- A statement that names the output concludes the run. -/
theorem dispatch_eq_concluded (verbose : Bool) (p : Grammar.Position R (Option Text))
    (hfeed : '\n' ∉ statement) (h : namesOutput statement = true) :
    ∃ path, outputName? statement = some path ∧
      (biber : Grammar _ _ ν).dispatch verbose statement p = concluded p path := by
  obtain ⟨hpart, hbanner, hwarning, herror, hfatal, hname⟩ := namesOutput_iff.1 h
  have hsome : outputName? statement ≠ none := fun hnone =>
    Bool.false_ne_true ((outputName?_eq_none_iff.1 hnone).symm.trans hpart)
  obtain ⟨path, hpath⟩ := Option.ne_none_iff_exists'.1 hsome
  refine ⟨path, hpath, ?_⟩
  unfold Grammar.dispatch
  rw [classify_biber hfeed, hbanner, hwarning, herror, hfatal, hname, hpath]
  rfl

/-! ## What a run does -/

/-- **A run of Biber**, from where some statements have been heard: it ends with the first statement
that names the output, or all of them are heard. The induction follows the parser from statement to
statement and carries what has been heard along; it can only stop at a statement that names the
output, for no other finishes. -/
theorem Heard.consume (verbose : Bool) (h : Heard heard p)
    (hlines : ∀ l ∈ LineSource.lines p.scope.unread, lineFeed ∉ l.bytes) :
    let q := (biber : Grammar _ _ ν).consume verbose p
    (∃ more last before path, Statement.all (LineSource.lines p.scope.unread)
        = more ++ last :: Statement.all (LineSource.lines before.scope.unread) ∧
      Heard (heard ++ more) before ∧ namesOutput last = true ∧ outputName? last = some path ∧
      q = concluded before path) ∨
    (Heard (heard ++ Statement.all (LineSource.lines p.scope.unread)) q ∧
      LineSource.lines q.scope.unread = []) := by
  fun_induction Grammar.consume biber verbose p generalizing heard with
  | case1 p hd => exact absurd (h.going.symm.trans hd) Bool.false_ne_true
  | case2 p hd source hn =>
    obtain ⟨hnothing, hleft⟩ := LineSource.lines_of_takeStatement_none hn
    refine .inr ⟨?_, hleft⟩
    rw [hnothing, Statement.all_nil, List.append_nil]
    exact ⟨h.memory, h.going, h.outcome, h.silent, h.others⟩
  | case3 p hd statement source hn ih =>
    have hnext := LineSource.next?_of_takeStatement_some hn
    obtain ⟨hfeed, hrest⟩ := Statement.lineFeed_notMem_next? hnext hlines
    rw [Statement.all_of_next? hnext]
    have hread : Heard heard (p.withUnread source) :=
      ⟨h.memory, h.going, h.outcome, h.silent, h.others⟩
    -- any other statement is heard, and the parse goes on with one more
    rcases hs : namesOutput statement with _ | _
    · have hheeds := heeds_dispatch (ν := ν) verbose (p.withUnread source) hfeed hs
      have hunread : LineSource.lines ((biber : Grammar _ _ ν).dispatch verbose statement
          (p.withUnread source)).scope.unread = LineSource.lines source :=
        congrArg LineSource.lines hheeds.unread
      have hmore := ih (hread.concat hs hheeds) (by rwa [hunread])
      rw [hunread] at hmore
      rcases hmore with ⟨more, last, before, path, hall, hbefore, hrun⟩ | hall
      · rw [← List.append_cons] at hbefore
        exact .inl ⟨statement :: more, last, before, path, congrArg (statement :: ·) hall, hbefore,
          hrun⟩
      · rw [List.append_cons]
        exact .inr hall
    · obtain ⟨path, hpath, hdispatch⟩ :=
        dispatch_eq_concluded (ν := ν) verbose (p.withUnread source) hfeed hs
      refine .inl ⟨[], statement, p.withUnread source, path, rfl, ?_, hs, hpath, ?_⟩
      · rwa [List.append_nil]
      · rw [hdispatch]
        exact Grammar.consume_of_done _ verbose rfl

/-- **All that Biber says**, from end to end. Let the statements be those of the lines of a reader,
whatever comes of its bytes. If one of them names the output, the parse ends behind the first one
that does. The last of its messages is the only one that names a transcript: the one that was
announced last in front of that statement, up to the last quote, or, if none was announced, the
name of the output, which is what stands behind the last `Output to `, trimmed and with another
extension. If none of them names the output, the parser is not done, it has read all and has named
no transcript. What is counted is what the statements report that were read. -/
theorem biber_parse (verbose : Bool) (reader : LineReader) :
    let g : Grammar (Option Text) BiberFinding ν := biber
    let p := g.parse verbose (g.begin reader)
    let statements := Statement.all reader.lines
    (∃ heard last later path said, statements = heard ++ last :: later ∧
      (∀ statement ∈ heard, namesOutput statement = false) ∧ namesOutput last = true ∧
      p.scope.state.done = true ∧ Statement.all p.scope.unread.lines = later ∧
      outputName? last = some path ∧
      p.scope.messages.toList = said ++ [.transcript (String.ofList
        (((heard.filterMap announcedName?).getLast?).getD
          (FilePath.withExtension (Text.trim path) "blg".toList)))] ∧
      (∀ m ∈ said, m.isTranscript = false) ∧
      p.scope.state.outcome = reported (heard ++ [last])) ∨
    ((∀ statement ∈ statements, namesOutput statement = false) ∧
      p.scope.state.done = false ∧ p.scope.unread.lines = [] ∧
      (∀ m ∈ p.scope.messages.toList, m.isTranscript = false) ∧
      p.scope.state.outcome = reported statements) := by
  intro g p statements
  have hp : p = g.consume verbose (g.begin reader) := Grammar.parse_eq_consume (fun _ => rfl) _
  have hrun := (Heard.begin (ν := ν) reader).consume (ν := ν) verbose fun l hl =>
    LineReader.lineFeed_notMem_bytes hl
  simp only [List.nil_append] at hrun
  rw [hp]
  rcases hrun with ⟨heard, last, before, path, hall, hheard, hlast, hpath, hq⟩ | ⟨hheard, hread⟩
  · refine .inl ⟨heard, last, _, path, before.scope.log.messages, hall, hheard.others, hlast, ?_⟩
    have hcounted : before.scope.state.outcome = reported (heard ++ [last]) := by
      rw [hheard.outcome, reported_append, reported_of_namesOutput hlast,
        Outcome.add_clean]
    have hsaid : (concluded before path).scope.messages.toList
        = before.scope.log.messages ++ [.transcript (String.ofList
          (((heard.filterMap announcedName?).getLast?).getD (transcriptOf path)))] := by
      rw [← hheard.memory]
      exact Array.toList_push
    rw [hq]
    exact ⟨rfl, rfl, hpath, hsaid, hheard.silent, hcounted⟩
  · exact .inr ⟨hheard.others, hheard.going, hread, hheard.silent, hheard.outcome⟩

end Bibliography

end TexTranscript
