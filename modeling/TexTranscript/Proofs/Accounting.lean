import TexTranscript.Proofs.Sections

/-!
# Accounting

The outcome of a parse can be recomputed from its messages. Warnings and errors
are counted; a fatal message is an error as well, unless its text begins with an
arrow, for then the error was reported before it. The whole is fatal when there
is a fatal message, or an error with a location that says so. The linter is an
exception: none of its findings is ever fatal.

This is a conservation law. What messages come to (`accounted`) adds up over
lists of them, each deed adds the same to both sides, and a section of latexmk
adds what it comes to by itself.

## Main definitions

* `accounted` – what messages come to.

## Main statements

* `Permits.amount_eq` – a deed counts what its message comes to.
* `Build.Step.balanced` – no step of latexmk loses anything or counts it twice.
* `parseTranscript_accounting` – the outcome is what the messages come to.
-/

namespace TexTranscript

namespace Message

/-- The message is a warning. -/
def isWarning : Message → Bool
  | warning .. => true
  | _ => false

/-- The message is an error. -/
def isError : Message → Bool
  | error .. => true
  | _ => false

/-- The message is fatal, and its text does not begin with an arrow. -/
def isFreshFatal : Message → Bool
  | fatal text => !Text.startsWith "==>".toList text.toList
  | _ => false

/-- The message says that all is lost. -/
def isFinal : Message → Bool
  | fatal _ => true
  | error text (some _) => Text.hasPart "Fatal error".toList text.toList
  | _ => false

/-- A final message is a fatal one, or an error with a location whose text says so. -/
theorem isFinal_iff {m : Message} :
    m.isFinal = true ↔ (∃ text, m = .fatal text) ∨
      ∃ text location, m = .error text (some location) ∧
        Text.hasPart "Fatal error".toList text.toList = true := by
  unfold isFinal
  split
  · next text => simp
  · next text location => simp
  · next hf he =>
    simp only [Bool.false_eq_true, false_iff, not_or, not_exists, not_and]
    exact ⟨fun text h => hf text h, fun text location h => absurd h (he text location)⟩

end Message

/-! ## What messages come to -/

/-- **What messages come to**; whether any of them can be final depends on the tool. -/
def accounted (final : Bool) (messages : List Message) : Outcome where
  fatal := final && messages.any Message.isFinal
  errors := messages.countP Message.isError + messages.countP Message.isFreshFatal
  warnings := messages.countP Message.isWarning

@[simp] theorem accounted_nil (final : Bool) : accounted final [] = .clean := by
  simp [accounted, Outcome.clean]

/-- **Accounts add up.** Counts are sums, and whether anything is final is a disjunction. -/
@[simp] theorem accounted_append (final : Bool) (ms ms' : List Message) :
    accounted final (ms ++ ms') = accounted final ms + accounted final ms' := by
  ext
  · simp [accounted, Bool.and_or_distrib_left]
  · simp only [accounted, List.countP_append, Outcome.errors_add]
    omega
  · simp [accounted]

section

variable (final : Bool)

/-- What a single message comes to. -/
theorem accounted_singleton (m : Message) : accounted final [m]
    = ⟨final && m.isFinal,
        (if m.isError then 1 else 0) + (if m.isFreshFatal then 1 else 0),
        if m.isWarning then 1 else 0⟩ := by
  simp [accounted, List.countP_singleton]

theorem accounted_warning (text : String) (location : Option Location) :
    accounted final [.warning text location] = ⟨false, 0, 1⟩ := by
  rw [accounted_singleton]
  show Outcome.mk (final && false) 0 1 = _
  rw [Bool.and_false]

theorem accounted_error (text : String) (location : Option Location) :
    accounted final [.error text location]
      = ⟨final && (location.isSome && Text.hasPart "Fatal error".toList text.toList), 1, 0⟩ := by
  rw [accounted_singleton]
  cases location with
  | none => rfl
  | some location => rfl

theorem accounted_fatal (text : String) : accounted final [.fatal text]
    = ⟨final, if !Text.startsWith "==>".toList text.toList then 1 else 0, 0⟩ := by
  rw [accounted_singleton]
  show Outcome.mk (final && true) (0 + _) 0 = _
  rw [Bool.and_true, Nat.zero_add]
  rfl

/-- Other messages come to nothing. -/
theorem accounted_other {m : Message} (hfinal : m.isFinal = false) (herror : m.isError = false)
    (hfresh : m.isFreshFatal = false) (hwarning : m.isWarning = false) :
    accounted final [m] = .clean := by
  rw [accounted_singleton, hfinal, herror, hfresh, hwarning, Bool.and_false]
  rfl

/-- What is only mentioned comes to nothing. -/
theorem accounted_mention {m : Message} (h : m.IsMention) : accounted final [m] = .clean := by
  cases m with
  | warning text location => exact h.elim
  | error text location => exact h.elim
  | fatal text => exact h.elim
  | _ => exact accounted_other final rfl rfl rfl rfl

end

/-- The log's outcome is what its messages come to. -/
def Log.Balanced (final : Bool) (log : Log) : Prop :=
  log.state.outcome = accounted final log.messages

/-! ## Deeds -/

/-- **A deed counts what its message comes to.** There is one case for each kind of deed, and in
each of them the counts of the deed and those of its message are the same literal outcome; only the
linter has to be told apart, whose messages end nothing. -/
theorem Permits.amount_eq {master : Text} {tool : Tool} {state : ParseState} {d : Deed}
    (h : Permits master tool state d) :
    accounted (tool != .chktex) d.message?.toList = d.amount := by
  cases h with
  | mention hm => exact accounted_mention _ hm
  | @unlocated _ _ severity text ht =>
    cases severity with
    | warning => exact accounted_warning _ _ _
    | error =>
      show accounted _ [.error _ none] = _
      rw [accounted_error]
      exact congrArg (Outcome.mk · 1 0) (Bool.and_false _)
  | attributed => exact accounted_warning _ _ _
  | @fileLineError _ text location =>
    have htext : (String.ofList text).toList = text := String.toList_ofList
    show accounted true [.error (String.ofList text) (some location)] = _
    rw [accounted_error, htext]
    rfl
  | @finding _ severity text location =>
    -- the linter's findings are not final, whatever they say
    cases severity with
    | warning => exact accounted_warning _ _ _
    | error => exact accounted_error false _ _
  | @fatal _ _ text ht =>
    have hfinal : (tool != .chktex) = true := by
      cases tool with
      | chktex => exact Bool.noConfusion ht
      | _ => rfl
    have htext : (String.ofList text).toList = text := String.toList_ofList
    show accounted _ [.fatal (String.ofList text)] = _
    rw [hfinal, accounted_fatal, htext]
    rfl
  | enterFile => exact accounted_other _ rfl rfl rfl rfl
  | finish => exact accounted_nil _

/-- **A course stays balanced.** What has to be shown of a single deed is that both sides of the
balance grow by the same amount. -/
theorem Log.Course.balanced {master : Text} {tool : Tool} {log log' : Log}
    (h : log.Course (Permits master tool) log') (hb : log.Balanced (tool != .chktex)) :
    log'.Balanced (tool != .chktex) :=
  h.keeps hb fun {log d} hp hb => by
    show log.state.outcome + d.amount = accounted _ (log.messages ++ d.message?.toList)
    rw [accounted_append, hp.amount_eq, ← hb]

/-- An empty log is balanced. -/
theorem Log.balanced_empty (final : Bool) : Log.Balanced final {} := (accounted_nil final).symm

/-! ## Steps of latexmk -/

/-- A message of latexmk itself comes to nothing. -/
theorem Log.Balanced.emit {log : Log} (h : log.Balanced true) {m : Message}
    (hm : accounted true [m] = .clean) : (log.emit m).Balanced true := by
  show log.state.outcome = accounted true (log.messages ++ [m])
  rw [accounted_append, hm, Outcome.add_clean]
  exact h

/-- The messages around a section come to nothing. -/
theorem accounted_section (tool : Tool) (banner : String) (ms : List Message) :
    accounted true (.toolStarted tool banner :: ms ++ [.toolFinished tool]) = accounted true ms := by
  have hstart : accounted true [.toolStarted tool banner] = .clean := rfl
  have hfinish : accounted true [.toolFinished tool] = .clean := rfl
  show accounted true ([.toolStarted tool banner] ++ ms ++ [.toolFinished tool]) = _
  rw [accounted_append, accounted_append, hstart, hfinish, Outcome.clean_add, Outcome.add_clean]

/-- **A section adds what it comes to by itself.** -/
theorem Log.Balanced.enclose {log nested : Log} (h : log.Balanced true)
    (hn : nested.Balanced true) (tool : Tool) (banner : String) :
    (log.enclose tool banner nested).Balanced true := by
  show log.state.outcome + nested.state.outcome
    = accounted true (log.messages ++ (.toolStarted tool banner :: nested.messages ++
        [.toolFinished tool]))
  rw [accounted_append, accounted_section, ← h, ← hn]

/-- The log of a section is balanced, for latexmk does not call the linter. -/
theorem Build.IsSection.balanced {master : Text} {tool : Tool} {nested : Log}
    (h : IsSection master tool nested) : nested.Balanced true := by
  have hfinal : (tool != .chktex) = true := by
    rw [bne_iff_ne]
    rintro rfl
    simp [IsSection] at h
  have hnested := h.2.balanced (Log.balanced_empty _)
  rwa [hfinal] at hnested

/-- **No step of latexmk** loses anything or counts it twice. A section is taken over as a whole, so
that its own balance is all that counts, and what latexmk says itself weighs nothing. -/
theorem Build.Step.balanced {master : Text} {watching : Bool} {memory memory' : Memory}
    {log log' : Log} (h : Step master watching memory log memory' log')
    (hb : log.Balanced true) : log'.Balanced true := by
  cases h with
  | echo statement => exact hb.emit rfl
  | chatter h => exact hb.emit rfl
  | @inSection tool banner nested hn => exact hb.enclose hn.balanced tool banner
  | newRun =>
    -- only the counts of the run are dropped
    split
    · exact hb.emit rfl
    · exact hb
  | round hw h => exact hb.emit rfl
  | lastRound hw h => exact hb.emit rfl

/-! ## Reports -/

variable {R : Type} [LineSource R]

/-- **The outcome of every report is what its messages come to.** Six tools go through a course of
deeds, and latexmk through steps, each of which may enclose such a course. -/
theorem parseTranscript_balanced (tool : Tool) (master : Text) (verbose : Bool) (source : R) :
    (parseTranscript tool master verbose source).outcome
      = accounted (tool != .chktex) (parseTranscript tool master verbose source).messages := by
  by_cases ht : tool = .latexmk
  · subst ht
    have hkeeps : (Build.grammar master false).Keeps fun _ log => log.Balanced true :=
      Build.keeps (Log.balanced_empty true) Build.Step.balanced
    obtain ⟨_, log, hb, hlog, -⟩ := parseBuild_keeps hkeeps verbose source
    show (parseBuild master false verbose source).outcome
      = accounted true (parseBuild master false verbose source).messages
    rw [hlog.outcome, hlog.messages]
    exact hb
  · obtain ⟨log, hcourse, hlog⟩ := parseTranscript_course ht master verbose source
    rw [hlog.outcome, hlog.messages]
    exact hcourse.balanced (Log.balanced_empty _)

/-- **The outcome is what the messages come to**, for every tool and every transcript. Warnings are
the warnings; errors are the errors and those fatal messages that do not begin with an arrow; and
unless the tool is the linter, a transcript is fatal when it has a fatal message or an error with a
location that says so. The equation of the two outcomes is read off field by field. -/
theorem parseTranscript_accounting (tool : Tool) (master : Text) (verbose : Bool) (source : R) :
    (parseTranscript tool master verbose source).outcome.warnings
        = (parseTranscript tool master verbose source).messages.countP Message.isWarning ∧
    (parseTranscript tool master verbose source).outcome.errors
        = (parseTranscript tool master verbose source).messages.countP Message.isError +
          (parseTranscript tool master verbose source).messages.countP Message.isFreshFatal ∧
    ((parseTranscript tool master verbose source).outcome.fatal = true ↔
      tool ≠ .chktex ∧
        ((∃ text, .fatal text ∈ (parseTranscript tool master verbose source).messages) ∨
          ∃ text location,
            .error text (some location) ∈ (parseTranscript tool master verbose source).messages ∧
            Text.hasPart "Fatal error".toList text.toList = true)) := by
  rw [parseTranscript_balanced]
  refine ⟨rfl, rfl, ?_⟩
  generalize (parseTranscript tool master verbose source).messages = messages
  show ((tool != .chktex) && messages.any Message.isFinal) = true ↔ _
  rw [Bool.and_eq_true, bne_iff_ne, List.any_eq_true]
  refine and_congr_right fun _ => ?_
  constructor
  · rintro ⟨m, hm, hfinal⟩
    rcases Message.isFinal_iff.1 hfinal with ⟨text, rfl⟩ | ⟨text, location, rfl, ht⟩
    · exact Or.inl ⟨text, hm⟩
    · exact Or.inr ⟨text, location, hm, ht⟩
  · rintro (⟨text, hm⟩ | ⟨text, location, hm, ht⟩)
    · exact ⟨_, hm, rfl⟩
    · exact ⟨_, hm, ht⟩

end TexTranscript
