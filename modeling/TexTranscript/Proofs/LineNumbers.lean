import TexTranscript.Proofs.Attribution
import TexTranscript.Proofs.Excerpts
import TexTranscript.Proofs.Levels
import TexTranscript.Proofs.Lookahead
import TexTranscript.Proofs.Spelling

/-!
# Line numbers

Wherever a message or a mark is located, the number of its line comes from digits that a rule has
captured: of the statement, or of the line behind a warning that is too long. These may be digits
of any script, and any number of them. If they are ASCII digits, however many zeros there are in
front, and what they write in base ten fits into 32 bits, this is the number of the line. If not,
the number is 1. So no number wraps around, and a line is numbered 0 only if nothing but zeros was
printed.

Which parser it was that captured the digits is told by the levels of a parse. A message that is
located is said in a turn of one of the parsers that are at work, and this parser deals with the
statement alone.

## Main definitions

* `MeansLine` – the line that a text of digits means, independently of how it is read.
* `Dialect.captured?` – the digits that are captured of a statement, or of the line behind it.
* `Dialect.TakesUp` – a statement is taken up in the course of a parse, at some level.
* `Dialect.CapturesFor` – digits are captured for a message.

## Main statements

* `meansLine_lineNumber` – digits are read as the line that they mean.
* `Dialect.lines_said` – what is located in a turn has the line that was captured.
* `Dialect.exists_turn` – what is located in a parse is said in a turn.
* `line_numbers_captured` – the lines of all locations and marks.
-/

namespace TexTranscript

/-! ## What digits mean -/

/-- The text is written in ASCII digits. -/
def Text.IsAscii (digits : Text) : Prop := ∀ c ∈ digits, '0' ≤ c ∧ c ≤ '9'

instance (digits : Text) : Decidable (Text.IsAscii digits) :=
  inferInstanceAs (Decidable (∀ _ ∈ _, _))

/-- The digits write a number in base ten that fits into 32 bits. -/
def Text.Fits (digits : Text) : Prop := digits.IsAscii ∧ Nat.ofDigitChars 10 digits 0 < 2 ^ 32

instance (digits : Text) : Decidable digits.Fits := inferInstanceAs (Decidable (_ ∧ _))

/-- **The line that a text of digits means**: the number that it writes if this fits, and 1 if it
does not. -/
structure MeansLine (digits : Text) (line : UInt32) : Prop where
  isNumber : IsNumber digits
  value : digits.Fits → line.toNat = Nat.ofDigitChars 10 digits 0
  one : ¬digits.Fits → line = 1

variable {digits : Text} {line : UInt32}

/-- No value is read if a character is no ASCII digit. -/
theorem Text.asciiNumberFrom_eq_none (h : ¬digits.IsAscii) (value : Nat) :
    asciiNumberFrom value digits = none := by
  induction digits generalizing value with
  | nil => exact absurd (List.forall_mem_nil _) h
  | cons c digits ih =>
    unfold asciiNumberFrom asciiDigit?
    by_cases hc : '0' ≤ c ∧ c ≤ '9'
    · rw [if_pos hc]
      exact ih (fun hdigits => h (List.forall_mem_cons.2 ⟨hc, hdigits⟩)) _
    · rw [if_neg hc]
      rfl

/-- Digits that fit are read as the number that they mean. -/
theorem toNat_lineNumber (hne : digits ≠ []) (h : digits.Fits) :
    (lineNumber digits).toNat = Nat.ofDigitChars 10 digits 0 := by
  obtain ⟨c, rest, rfl⟩ := List.exists_cons_of_ne_nil hne
  have hread : Text.asciiNumber? (c :: rest) = some (Nat.ofDigitChars 10 (c :: rest) 0) :=
    Json.asciiNumberFrom_eq h.1 0
  have hlt : Nat.ofDigitChars 10 (c :: rest) 0 < UInt32.size := h.2
  unfold lineNumber
  rw [hread]
  dsimp only
  rw [if_pos hlt, UInt32.toNat_ofNat_of_lt' hlt]

/-- Digits that do not fit count as line 1. -/
theorem lineNumber_eq_one (hne : digits ≠ []) (h : ¬digits.Fits) : lineNumber digits = 1 := by
  obtain ⟨c, rest, rfl⟩ := List.exists_cons_of_ne_nil hne
  by_cases hascii : Text.IsAscii (c :: rest)
  · have hread : Text.asciiNumber? (c :: rest) = some (Nat.ofDigitChars 10 (c :: rest) 0) :=
      Json.asciiNumberFrom_eq hascii 0
    unfold lineNumber
    rw [hread]
    exact if_neg fun hlt => h ⟨hascii, hlt⟩
  · have hread : Text.asciiNumber? (c :: rest) = none := Text.asciiNumberFrom_eq_none hascii 0
    unfold lineNumber
    rw [hread]

/-- **Digits are read as the line that they mean.** The two cases are those of the reader. -/
theorem meansLine_lineNumber (h : IsNumber digits) : MeansLine digits (lineNumber digits) :=
  ⟨h, toNat_lineNumber h.1, lineNumber_eq_one h.1⟩

/-- What is written in base ten is 0 only in zeros. -/
theorem eq_zero_of_ofDigitChars (h : digits.IsAscii) {value : Nat}
    (hzero : Nat.ofDigitChars 10 digits value = 0) : value = 0 ∧ ∀ c ∈ digits, c = '0' := by
  induction digits generalizing value with
  | nil => exact ⟨hzero, List.forall_mem_nil _⟩
  | cons c digits ih =>
    obtain ⟨hc, hdigits⟩ := List.forall_mem_cons.1 h
    rw [Nat.ofDigitChars_cons] at hzero
    obtain ⟨hvalue, hzeros⟩ := ih hdigits hzero
    have hle : '0'.toNat ≤ c.toNat := hc.1
    have hchar : c = '0' := Char.toNat_inj.1 (by omega)
    exact ⟨by omega, List.forall_mem_cons.2 ⟨hchar, hzeros⟩⟩

/-- **A line is numbered 0 just if only zeros were printed.** What does not fit counts as line 1,
and what fits is 0 in zeros only. -/
theorem MeansLine.eq_zero_iff (h : MeansLine digits line) :
    line = 0 ↔ ∀ c ∈ digits, c = '0' := by
  constructor
  · rintro rfl
    by_cases hfits : digits.Fits
    · exact (eq_zero_of_ofDigitChars hfits.1 (h.value hfits).symm).2
    · exact absurd (h.one hfits) (by decide)
  · intro hzeros
    obtain ⟨n, rfl⟩ : ∃ n, digits = List.replicate n '0' := ⟨_, List.eq_replicate_of_mem hzeros⟩
    have hvalue : Nat.ofDigitChars 10 (List.replicate n '0') 0 = 0 := by
      rw [Nat.ofDigitChars_replicate_zero, Nat.mul_zero]
    have hascii : Text.IsAscii (List.replicate n '0') :=
      fun c hc => by rw [hzeros c hc]; decide
    have hfits : Text.Fits (List.replicate n '0') := ⟨hascii, by rw [hvalue]; decide⟩
    exact UInt32.toNat_inj.1 ((h.value hfits).trans hvalue)

/-- **Zeros in front do not matter**: a number that fits is meant, however it is padded. -/
theorem MeansLine.toNat_of_padded {n zeros : Nat} (hn : n < 2 ^ 32)
    (h : MeansLine (List.replicate zeros '0' ++ Nat.toDigits 10 n) line) : line.toNat = n := by
  have hvalue : Nat.ofDigitChars 10 (List.replicate zeros '0' ++ Nat.toDigits 10 n) 0 = n := by
    rw [Nat.ofDigitChars_append, Nat.ofDigitChars_replicate_zero, Nat.mul_zero,
      Nat.ofDigitChars_ten_toDigits]
  have hascii : Text.IsAscii (List.replicate zeros '0' ++ Nat.toDigits 10 n) := by
    refine List.forall_mem_append.2 ⟨fun c hc => ?_, fun c hc => Json.mem_toDigits hc⟩
    rw [List.eq_of_mem_replicate hc]
    decide
  exact (h.value ⟨hascii, hvalue.symm ▸ hn⟩).trans hvalue

/-! ## Captured digits -/

namespace Typesetting

/-- The number that a line gives for the input, as it is printed. -/
def inputDigits? (text : Text) : Option Text :=
  match inputLine.captures? text with
  | some [digits] => some digits
  | _ => none

/-- The line of the input is read from its digits. -/
theorem inputLine?_eq (text : Text) : inputLine? text = (inputDigits? text).map lineNumber := by
  unfold inputLine? inputDigits?
  rcases inputLine.captures? text with _ | _ | ⟨digits, _ | _⟩ <;> rfl

end Typesetting

/-- The digits that an engine captures of a statement: those of the rule that decides, or those that
the line behind gives if the warning is too long. -/
def Typesetting.captured? (master statement : Text) (next? : Option Text) : Option Text :=
  match (engine master).classify statement with
  | some (.warning digits) => some digits
  | some (.error _ digits _) => some digits
  | some .wrappedWarning => next?.bind inputDigits?
  | _ => none

/-- The digits that the linter captures of a statement. -/
def Lint.captured? (statement : Text) : Option Text :=
  match linter.classify statement with
  | some (.problem _ _ digits _) => some digits
  | _ => none

/-- **The digits that are captured** where a tool takes up a statement, given the line behind it.
The other tools locate nothing. -/
def Dialect.captured? (d : Dialect) (statement : Text) (next? : Option Text) : Option Text :=
  match d with
  | .latex master => Typesetting.captured? master statement next?
  | .chktex => Lint.captured? statement
  | _ => none

/-- **A number stands in a text.** -/
def StandsIn (digits text : Text) : Prop := IsNumber digits ∧ digits <:+: text

/-- A rule takes numbers from the statement, if what it reads gives one. -/
def Rule.Takes {ι : Type} (digits? : ι → Option Text) (rule : Rule ι) : Prop :=
  ∀ statement found digits, rule.reading? statement = some found → digits? found = some digits →
    StandsIn digits statement

/-- A rule takes numbers from the statement if what it reads never gives one. -/
theorem Rule.takes_of_none {ι : Type} {digits? : ι → Option Text} {rule : Rule ι}
    (h : ∀ groups found, rule.read groups = some found → digits? found = none) :
    rule.Takes digits? := by
  intro statement found digits hreading hdigits
  obtain ⟨groups, -, hread⟩ := Option.bind_eq_some_iff.1 hreading
  rw [h groups found hread] at hdigits
  exact absurd hdigits.symm (Option.some_ne_none digits)

/-- A sign takes no number, if what it stands for gives none. -/
theorem Rule.takes_sign {ι : Type} {digits? : ι → Option Text} {p : Pattern} {found : ι}
    (h : digits? found = none) : (Rule.sign p found).Takes digits? :=
  takes_of_none fun _ _ hread => Option.some.inj hread ▸ h

namespace Typesetting

variable {statement text : Text} {found : Finding}

/-- The number that a line gives stands in it. -/
theorem standsIn_of_inputDigits? (h : inputDigits? text = some digits) :
    StandsIn digits text := by
  unfold inputDigits? at h
  split at h
  · next line hgroups =>
    obtain rfl := Option.some.inj h
    obtain ⟨line', hline, before, _, rfl, ⟨hnumber, rest, rfl, -⟩, -⟩ :=
      exists_of_captures_inputLine hgroups
    obtain rfl := (List.cons.inj hline).1
    exact ⟨hnumber, before ++ "input line ".toList, rest, by simp⟩
  · exact absurd h.symm (Option.some_ne_none _)

/-- The number that a finding gives. -/
def Finding.digits? : Finding → Option Text
  | warning digits => some digits
  | error _ digits _ => some digits
  | _ => none

/-- A rule that reads one text takes no number, if what it reads has none. -/
theorem takes_readOne {p : Pattern} {found : Text → Finding} (h : ∀ t, (found t).digits? = none) :
    (Rule.mk p (readOne found)).Takes Finding.digits? := by
  refine Rule.takes_of_none fun groups found' hread => ?_
  obtain ⟨t, rfl⟩ : ∃ t, found' = found t := by
    change readOne found groups = some found' at hread
    unfold readOne at hread
    split at hread
    · exact ⟨_, (Option.some.inj hread).symm⟩
    · exact absurd hread.symm (Option.some_ne_none _)
  exact h t

/-- The rule for warnings takes the number from the statement. -/
theorem takes_warning :
    (Rule.mk (.lit "LaTeX Warning:" ++ inputLine) (readOne .warning)).Takes Finding.digits? := by
  intro statement found digits hreading hdigits
  obtain ⟨groups, hgroups, hread⟩ := Option.bind_eq_some_iff.1 hreading
  obtain ⟨_, rest, rfl, _, _, _, _, rfl, rfl, ⟨rfl, rfl⟩, _, stop, _, _, rfl, rfl, ⟨_, line, _, _,
    rfl, rfl, ⟨front, words, _, _, rfl, rfl, ⟨-, rfl⟩, -, rfl⟩, _, rfl, hnumber, rfl⟩, hend⟩ :=
    Pattern.exists_matches_of_captures hgroups
  have hnothing : _ = [] := hend.elim And.right fun h => h.2
  subst hnothing
  obtain rfl := Option.some.inj hread
  obtain rfl : line = digits := Option.some.inj hdigits
  exact ⟨hnumber, "LaTeX Warning:".toList ++ (front ++ words), stop ++ rest, by simp⟩

/-- What is read as an error are three texts. -/
theorem exists_of_readError {groups : List Text} (h : readError groups = some found) :
    ∃ file digits description, groups = [file, digits, description] ∧
      found = .error file digits description := by
  unfold readError at h
  split at h
  · exact ⟨_, _, _, rfl, (Option.some.inj h).symm⟩
  · exact absurd h.symm (Option.some_ne_none _)

/-- An error has the number of the position that stands in front of what it says. The three rules
differ in the name and in the words behind the number only. -/
theorem takes_error {p : Pattern} (name : Pattern) (s : String)
    (hp : ∀ {u groups rest}, p.Matches u groups rest → ∃ v behind inner said, u = v ++ behind ∧
      groups = inner ++ [said] ∧ (position name ++ .lit s).Matches v inner (behind ++ rest)) :
    (Rule.mk p readError).Takes Finding.digits? := by
  intro statement found digits hreading hdigits
  obtain ⟨groups, hgroups, hread⟩ := Option.bind_eq_some_iff.1 hreading
  obtain ⟨_, rest, rfl, hmatches⟩ := Pattern.exists_matches_of_captures hgroups
  obtain ⟨_, behind, _, said, rfl, rfl, hposition⟩ := hp hmatches
  obtain ⟨file, inner, line, rfl, rfl, hnumber, -⟩ := matches_position_lit.1 hposition
  obtain ⟨file', digits', description, htexts, rfl⟩ := exists_of_readError hread
  obtain rfl : digits' = digits := Option.some.inj hdigits
  -- the groups of the position and what is said are the last three
  have hlast : inner ++ [file, line, said] = [] ++ [file', digits', description] := by
    simpa using htexts
  obtain ⟨-, hlast⟩ := List.append_inj' hlast rfl
  obtain rfl : line = digits' := (List.cons.inj (List.cons.inj hlast).2).1
  exact ⟨hnumber, file ++ [':'], s.toList ++ (behind ++ rest), by simp⟩

/-- **Every rule of an engine takes the number from the statement.** Most of them give no number at
all; the one for warnings and the three for errors have a group for it. -/
theorem rules_take (ext : Text) : ∀ rule ∈ rules ext, rule.Takes Finding.digits? := by
  have hnone {p : Pattern} {found : Finding} (h : found.digits? = none) :
      (Rule.sign p found).Takes Finding.digits? := Rule.takes_sign h
  have hfileLine : (Rule.mk (fileLineError ext) readError).Takes Finding.digits? := by
    refine takes_error (printedName ext) ":" ?_
    rintro _ _ rest ⟨_, said, _, _, rfl, rfl, ⟨v, blank, inner, _, rfl, rfl, hposition, -, rfl⟩, _,
      rfl, -, rfl⟩
    refine ⟨v, blank ++ said, inner, said, List.append_assoc .., by simp, ?_⟩
    rw [List.append_assoc]
    exact hposition
  have hlatex : (Rule.mk latexError readError).Takes Finding.digits? := by
    refine takes_error anyName ": LaTeX Error:" ?_
    rintro _ _ rest ⟨v, said, inner, _, rfl, rfl, hposition, _, rfl, -, rfl⟩
    exact ⟨v, said, inner, said, rfl, rfl, hposition⟩
  have hstop : (Rule.mk emergencyStop readError).Takes Finding.digits? := by
    refine takes_error anyName ": " ?_
    rintro _ _ rest ⟨v, said, inner, _, rfl, rfl, hposition, _, rfl, -, rfl⟩
    exact ⟨v, said, inner, said, rfl, rfl, hposition⟩
  refine List.forall_iff_forall_mem.1 ⟨hnone rfl, takes_readOne fun _ => rfl,
    takes_readOne fun _ => rfl, hnone rfl, takes_warning, hnone rfl, hnone rfl, hnone rfl,
    hnone rfl, hnone rfl, hfileLine, hlatex, hstop, hnone rfl, ?_, hnone rfl, hnone rfl⟩
  refine Rule.takes_of_none fun groups found hread => ?_
  dsimp only at hread
  split at hread
  · exact Option.some.inj hread ▸ rfl
  · exact absurd hread.symm (Option.some_ne_none _)

end Typesetting

namespace Lint

/-- The number that a finding of the linter gives. -/
def Finding.digits? : Finding → Option Text
  | problem _ _ digits _ => some digits
  | _ => none

/-- What is read as a problem are three texts. -/
theorem exists_of_readProblem {severity : Severity} {groups : List Text} {found : Finding}
    (h : readProblem severity groups = some found) :
    ∃ file digits description, groups = [file, digits, description] ∧
      found = .problem severity file digits description := by
  unfold readProblem at h
  split at h
  · exact ⟨_, _, _, rfl, (Option.some.inj h).symm⟩
  · exact absurd h.symm (Option.some_ne_none _)

/-- The rules of the linter take the number from the statement. -/
theorem takes_problem (kind : String) (severity : Severity) :
    (Rule.mk (problemPattern kind) (readProblem severity)).Takes Finding.digits? := by
  intro statement found digits hreading hdigits
  obtain ⟨groups, hgroups, hread⟩ := Option.bind_eq_some_iff.1 hreading
  -- the number and what is said are the last two groups, with a colon between them
  obtain ⟨_, rest, rfl, _, said, _, _, rfl, rfl, ⟨_, colon, _, _, rfl, rfl, ⟨before, line, inner, _,
    rfl, rfl, -, _, rfl, hnumber, rfl⟩, -, rfl⟩, _, rfl, -, rfl⟩ :=
    Pattern.exists_matches_of_captures hgroups
  obtain ⟨file, digits', description, htexts, rfl⟩ := exists_of_readProblem hread
  obtain rfl : digits' = digits := Option.some.inj hdigits
  have hlast : inner ++ [line, said] = [file] ++ [digits', description] := by
    simpa using htexts
  obtain ⟨-, hlast⟩ := List.append_inj' hlast rfl
  obtain rfl : line = digits' := (List.cons.inj hlast).1
  exact ⟨hnumber, before, colon ++ said ++ rest, by simp⟩

theorem rules_take : ∀ rule ∈ rules, rule.Takes Finding.digits? :=
  List.forall_iff_forall_mem.1
    ⟨Rule.takes_sign rfl, takes_problem _ _, takes_problem _ _, Rule.takes_sign rfl⟩

end Lint

/-- **Captured digits are a number** that stands in the statement, or in the line behind it. It is
in the line behind only for a warning that goes on there. -/
theorem Dialect.standsIn_of_captured? {d : Dialect} {statement : Text} {next? : Option Text}
    (h : d.captured? statement next? = some digits) :
    StandsIn digits statement ∨ ∃ next, next? = some next ∧ StandsIn digits next := by
  cases d with
  | latex master =>
    have hfound {found : Typesetting.Finding}
        (hc : (Typesetting.engine master).classify statement = some found)
        (hdigits : found.digits? = some digits) : StandsIn digits statement := by
      obtain ⟨rule, hrule, hread⟩ := List.exists_of_findSome?_eq_some hc
      exact Typesetting.rules_take _ rule hrule _ _ _ hread hdigits
    change Typesetting.captured? master statement next? = some digits at h
    unfold Typesetting.captured? at h
    split at h
    · next hc => exact .inl (hfound hc h)
    · next hc => exact .inl (hfound hc h)
    · obtain ⟨next, rfl, hnext⟩ := Option.bind_eq_some_iff.1 h
      exact .inr ⟨next, rfl, Typesetting.standsIn_of_inputDigits? hnext⟩
    · exact absurd h.symm (Option.some_ne_none _)
  | chktex =>
    change Lint.captured? statement = some digits at h
    unfold Lint.captured? at h
    split at h
    · next hc =>
      obtain ⟨rule, hrule, hread⟩ := List.exists_of_findSome?_eq_some hc
      exact .inl (Lint.rules_take rule hrule _ _ _ hread h)
    · exact absurd h.symm (Option.some_ne_none _)
  | _ => exact absurd h.symm (Option.some_ne_none _)

/-! ## What is located in a turn -/

/-- The lines of the messages that are located. -/
def linesOf (messages : List Message) : List UInt32 :=
  (messages.filterMap Message.mark?).map Mark.line

/-- One log adds messages to another that are located at these lines. -/
def Log.AddsLines (lines : List UInt32) (log log' : Log) : Prop :=
  ∃ ms, log'.messages = log.messages ++ ms ∧ linesOf ms = lines

variable {R σ ι ν α : Type} [LineSource R] {verbose : Bool} {statement : Text}

/-- Messages without marks add no lines. -/
theorem Log.AddsLines.of_unmarked {log log' : Log} {ms : List Message}
    (h : log'.messages = log.messages ++ ms) (hms : ∀ m ∈ ms, m.mark? = none) :
    log.AddsLines [] log' :=
  ⟨ms, h, congrArg (List.map Mark.line) (List.filterMap_eq_nil_iff.2 hms)⟩

/-- What a turn adds is what it says. -/
theorem Grammar.linesOf_said {g : Grammar σ ι ν} {p : Grammar.Position R σ} {lines : List UInt32}
    (h : p.scope.log.AddsLines lines (g.dispatch verbose statement p).scope.log) :
    linesOf (g.turn verbose statement p).said = lines := by
  obtain ⟨ms, hms, hlines⟩ := h
  rw [said_eq hms, hlines]

/-- Nothing is located by an echo. -/
theorem Grammar.addsLines_of_none {g : Grammar σ ι ν} (h : g.classify statement = none)
    (verbose : Bool) (p : Grammar.Position R σ) :
    p.scope.log.AddsLines [] (g.dispatch verbose statement p).scope.log := by
  obtain ⟨ms, hms, hM⟩ := (continues_dispatch_of_none verbose (M := fun m => m.mark? = none)
    (fun _ => rfl) h p).messages
  exact .of_unmarked hms hM

/-- Nothing is located by a tool that locates nothing. -/
theorem Log.Course.addsLines {master : Text} {tool : Tool} {log log' : Log}
    (h : log.Course (Permits master tool) log') (hlatex : tool ≠ .latex)
    (hchktex : tool ≠ .chktex) : log.AddsLines [] log' := by
  obtain ⟨ms, hms, hnone⟩ :
      ∃ ms, log'.messages = log.messages ++ ms ∧ ∀ m ∈ ms, m.mark? = none := by
    refine h.keeps (I := fun log' => ∃ ms, log'.messages = log.messages ++ ms ∧
      ∀ m ∈ ms, m.mark? = none) ⟨[], (List.append_nil _).symm, List.forall_mem_nil _⟩ ?_
    rintro log' d hp ⟨ms, hms, hnone⟩
    have hdeed : ∀ m ∈ d.message?.toList, m.mark? = none := by
      cases hp with
      | mention hm => exact List.forall_mem_singleton.2 (Message.mark?_of_isMention hm)
      | @unlocated _ _ severity => cases severity with
        | warning => exact List.forall_mem_singleton.2 rfl
        | error => exact List.forall_mem_singleton.2 rfl
      | attributed => exact absurd rfl hlatex
      | fileLineError => exact absurd rfl hlatex
      | finding => exact absurd rfl hchktex
      | fatal => exact List.forall_mem_singleton.2 rfl
      | enterFile => exact absurd rfl hlatex
      | finish => exact List.forall_mem_nil _
    refine ⟨ms ++ d.message?.toList, ?_, List.forall_mem_append.2 ⟨hnone, hdeed⟩⟩
    show log'.messages ++ _ = _
    rw [hms, List.append_assoc]
  exact .of_unmarked hms hnone

/-- A statement of a tool that locates nothing adds no lines. -/
theorem Grammar.Performs.addsLines {g : Grammar σ ι ν} {master : Text} {tool : Tool}
    (h : g.Performs (Permits master tool)) (hlatex : tool ≠ .latex) (hchktex : tool ≠ .chktex)
    (verbose : Bool) (statement : Text) (p : Grammar.Position R σ) :
    p.scope.log.AddsLines [] (g.dispatch verbose statement p).scope.log := by
  rcases hc : g.classify statement with _ | found
  · exact addsLines_of_none hc verbose p
  · unfold Grammar.dispatch
    rw [hc]
    exact (Reaction.run_ensures verbose (h.react p.memory hc p.scope.log)).addsLines hlatex hchktex

/-- What latexmk says by itself is not located. -/
theorem Message.mark?_of_isOwnOfBuild {m : Message} (h : m.isOwnOfBuild = true) :
    m.mark? = none := by
  cases m with
  | warning text location => exact Bool.noConfusion h
  | error text location => exact Bool.noConfusion h
  | _ => rfl

/-- The line behind, as it is printed. -/
def LineSource.nextLine? (source : R) : Option Text := (LineSource.lines source).head?.map Line.text

/-- **The linter** locates a problem at the line that was captured, and nothing else. Findings are
the only thing that the linter locates, and each of them has one location. -/
theorem Lint.addsLines (verbose : Bool) (statement : Text) (p : Grammar.Position R Unit) :
    p.scope.log.AddsLines ((captured? statement).map lineNumber).toList
      (linter.dispatch verbose statement p).scope.log := by
  unfold captured?
  rcases hc : linter.classify statement with _ | found
  · exact Grammar.addsLines_of_none hc verbose p
  cases found with
  | remark =>
    unfold Grammar.dispatch
    rw [hc]
    exact ⟨[_], Array.toList_push, rfl⟩
  | finished =>
    unfold Grammar.dispatch
    rw [hc]
    exact ⟨[], (List.append_nil _).symm, rfl⟩
  | problem severity file digits description =>
    have hquoted (ls : List Line) : linesOf (quoted ls).1 = [] := by
      unfold quoted
      split
      · rfl
      · split <;> rfl
    rw [(dispatch_problem hc verbose p).1]
    refine ⟨_, List.append_assoc .., ?_⟩
    cases severity with
    | warning => exact congrArg (lineNumber digits :: ·) (hquoted _)
    | error => exact congrArg (lineNumber digits :: ·) (hquoted _)

/-- A reaction says something that is located at these lines, whatever the line behind is. -/
def Reaction.SaysLines (lines : List UInt32) (r : Reaction ν α) : Prop :=
  ∀ log, r.Ensures (fun _ log' => log.AddsLines lines log') log

namespace Typesetting

/-- What an engine says of a finding is located at the line that the finding gives, unless it looks
for one behind the statement. -/
theorem react_saysLines (master statement : Text) {found : Finding} (h : found ≠ .wrappedWarning) :
    (react master found statement () : Reaction ν Unit).SaysLines
      (found.digits?.map lineNumber).toList := by
  intro log
  cases found with
  | wrappedWarning => exact absurd rfl h
  | transcript name => exact ⟨[_], rfl, rfl⟩
  | error file digits description =>
    show (if _ then _ else _ : Reaction ν Unit).Ensures _ _
    split
    · exact ⟨[_], rfl, rfl⟩
    · exact ⟨[_], rfl, rfl⟩
  | runaway =>
    refine Reaction.ensures_bind.2 (show Reaction.Ensures _ _ _ from fun next => ?_)
    cases next with
    | none => exact ⟨[_], rfl, rfl⟩
    | some next =>
      show (if _ then _ else _ : Reaction ν Unit).Ensures _ _
      split
      · exact ⟨[_, _], List.append_assoc .., rfl⟩
      · exact ⟨[_, _], List.append_assoc .., rfl⟩
  | alert =>
    show (if _ then _ else _ : Reaction ν Unit).Ensures _ _
    split
    · exact ⟨[_], rfl, rfl⟩
    · exact ⟨[_], rfl, rfl⟩
  | _ => exact ⟨[_], rfl, rfl⟩

/-- A warning that is too long is located at the line that stands behind it. -/
theorem reactToWrapped_addsLines (master statement : Text) (verbose : Bool) (s : Scope R) :
    s.log.AddsLines (((LineSource.nextLine? s.unread).bind inputLine?).toList)
      ((reactToWrapped master statement : Reaction ν Unit).run verbose s).2.log := by
  have hrun : (reactToWrapped master statement : Reaction ν Unit).run verbose s = _ :=
    Reaction.run_nextLine_bind verbose _ s
  rw [hrun]
  unfold LineSource.nextLine?
  rcases (LineSource.lines s.unread).head?.map Line.text with _ | next
  · exact ⟨[_], Array.toList_push, rfl⟩
  · rw [Option.bind_some]
    dsimp only
    rcases inputLine? next with _ | line
    · exact ⟨[_], Array.toList_push, rfl⟩
    · exact ⟨[_], Array.toList_push, rfl⟩

/-- **An engine** locates a problem at the line that was captured, and nothing else. The one finding
that is not located at its own number is the warning that goes on in the next line. -/
theorem addsLines (master : Text) (verbose : Bool) (statement : Text)
    (p : Grammar.Position R Unit) :
    p.scope.log.AddsLines
      ((captured? master statement (LineSource.nextLine? p.scope.unread)).map lineNumber).toList
      ((engine master).dispatch verbose statement p).scope.log := by
  unfold captured?
  rcases hc : (engine master).classify statement with _ | found
  · exact Grammar.addsLines_of_none hc verbose p
  have hdispatch : (engine master).dispatch verbose statement p
      = p.follow verbose (react master found statement () : Reaction Unit Unit) := by
    unfold Grammar.dispatch
    rw [hc]
    rfl
  have hplain (hne : found ≠ .wrappedWarning) :=
    Reaction.run_ensures verbose (react_saysLines (ν := Unit) master statement hne p.scope.log)
  rw [hdispatch]
  cases found with
  | wrappedWarning =>
    have hlines (next? : Option Text) :
        (next?.bind inputDigits?).map lineNumber = next?.bind inputLine? := by
      cases next? with
      | none => rfl
      | some next => exact (inputLine?_eq next).symm
    dsimp only
    rw [hlines]
    exact reactToWrapped_addsLines master statement verbose p.scope
  | _ => exact hplain nofun

end Typesetting

/-- **What is located in a turn has the line that was captured**, if the tool deals with the
statement alone. The other five tools locate nothing, whatever they say. -/
theorem Dialect.lines_said {d : Dialect} (hd : d.isTool = true)
    (hands : d.handsTo? statement = none) (verbose : Bool) (p : Grammar.Position R d.grammar.σ) :
    linesOf (d.grammar.rules.turn verbose statement p).said =
      ((d.captured? statement (LineSource.nextLine? p.scope.unread)).map lineNumber).toList := by
  refine Grammar.linesOf_said ?_
  cases d with
  | latex master => exact Typesetting.addsLines master verbose statement p
  | chktex => exact Lint.addsLines verbose statement p
  | bibtex => exact (Bibliography.bibtex_performs []).addsLines nofun nofun verbose statement p
  | biber => exact (Bibliography.biber_performs []).addsLines nofun nofun verbose statement p
  | makeindex extensions =>
    exact (Index.performs [] extensions).addsLines nofun nofun verbose statement p
  | makeglossaries query => exact (Glossary.performs []).addsLines nofun nofun verbose statement p
  | latexmk master watching =>
    have hbanner : Build.bannerOf? statement = none := by
      unfold Build.bannerOf?
      rcases hf : Build.finding? statement with _ | found
      · rfl
      · cases found with
        | roundEnd | chatter | newRun => rfl
        | _ => simp [handsTo?, hf] at hands
    obtain ⟨ms, hown, hms, -⟩ := Build.dispatch_own master watching verbose hbanner p
    exact .of_unmarked hms fun m hm => Message.mark?_of_isOwnOfBuild (hown m hm)
  | custom rules atEnd => exact Bool.noConfusion hd

/-! ## What is located in a parse -/

/-- **A reaction only adds messages.** So of any reaction it is known that the messages before it
stay where they are. -/
theorem Reaction.confined_true (r : Reaction ν α) : r.Confined (fun _ => True) True := by
  induction r with
  | done result => trivial
  | emit message next ih => exact ⟨trivial, ih⟩
  | record entry next ih => exact ⟨fun _ => trivial, ih⟩
  | inspect next ih => exact fun state => ih state
  | lookAhead next ih => exact fun line => ih line
  | delegate nested next ih => exact ⟨fun _ _ _ _ _ => trivial, fun d => ih d⟩

/-- What a statement adds to the messages is said in its turn. -/
theorem Grammar.messages_dispatch (g : Grammar σ ι ν) (verbose : Bool) (statement : Text)
    (p : Grammar.Position R σ) :
    (g.dispatch verbose statement p).scope.log.messages
      = p.scope.log.messages ++ (g.turn verbose statement p).said := by
  have hconfined : g.Confined (fun _ _ => True) fun _ => True :=
    fun _ _ _ => Reaction.confined_true _
  have hcontinues : p.scope.log.Continues (fun _ => True) True
      (g.dispatch verbose statement p).scope.log := by
    rcases hc : g.classify statement with _ | found
    · obtain ⟨hmessages, -⟩ := continues_dispatch_of_none verbose (M := fun _ => True)
        (fun _ => trivial) hc p
      exact ⟨hmessages, fun _ => .inr trivial⟩
    · exact hconfined.dispatch verbose hc p
  obtain ⟨ms, hms, -⟩ := hcontinues.messages
  rw [said_eq hms, hms]

namespace Dialect

variable {d d' e : Dialect} {source source' behind : R}

/-- Whoever is at work for a parser that is at work is at work itself. -/
theorem AtWork.trans (h : d.AtWork verbose source d' source')
    (h' : d'.AtWork verbose source' e behind) : d.AtWork verbose source e behind := by
  induction h' with
  | outermost => exact h
  | called _ hp hd hn hands ih => exact .called ih hp hd hn hands

/-- **A statement is taken up in the course of a parse**: a parser that is at work takes it up at a
position that it passes, and this is what it leaves behind. -/
def TakesUp (d : Dialect) (verbose : Bool) (source : R) (e : Dialect)
    (p : Grammar.Position R e.grammar.σ) (statement : Text) (behind : R) : Prop :=
  ∃ source', d.AtWork verbose source e source' ∧ e.Passes verbose source' p ∧
    p.scope.state.done = false ∧
    LineSource.takeStatement p.scope.unread = (some statement, behind)

/-- **Where the transcript is handed over**, all that is located is said by the parser that is
called. Around the messages of the parser that is called there is a banner and an end, if there is
anything. -/
theorem messages_handed {statement : Text} (h : d.handsTo? statement = some d') (verbose : Bool)
    (p : Grammar.Position R d.grammar.σ) :
    ∃ before after, (∀ m ∈ before ++ after, m.mark? = none) ∧
      (d.grammar.rules.dispatch verbose statement p).scope.messages.toList
        = p.scope.messages.toList ++ before ++
          (d'.parse verbose p.scope.unread).scope.messages.toList ++ after := by
  have hdispatch {found : d.grammar.ι} (hc : d.grammar.rules.classify statement = some found) :
      d.grammar.rules.dispatch verbose statement p
        = p.follow verbose (d.grammar.rules.react found statement p.memory) := by
    unfold Grammar.dispatch
    rw [hc]
  -- a section is opened, and closed again
  have hsection {inner : Array Message} {tool : Tool} {banner : String} :
      (((p.scope.messages.push (.toolStarted tool banner)) ++ inner).push
        (.toolFinished tool)).toList
      = p.scope.messages.toList ++ [.toolStarted tool banner] ++ inner.toList
        ++ [.toolFinished tool] := by
    rw [Array.toList_push, Array.toList_append, Array.toList_push]
  have hedges {tool : Tool} {banner : String} :
      ∀ m ∈ [Message.toolStarted tool banner] ++ [.toolFinished tool], m.mark? = none :=
    List.forall_mem_cons.2 ⟨rfl, List.forall_mem_singleton.2 rfl⟩
  cases d with
  | latexmk master watching =>
    unfold handsTo? at h
    dsimp only at h
    split at h
    · next hf =>
      obtain rfl := Option.some.inj h
      rw [hdispatch hf]
      exact ⟨_, _, hedges, hsection⟩
    · next hf =>
      obtain rfl := Option.some.inj h
      rw [hdispatch hf]
      exact ⟨_, _, hedges, hsection⟩
    · next hf =>
      obtain rfl := Option.some.inj h
      rw [hdispatch hf]
      exact ⟨_, _, hedges, hsection⟩
    · next hf =>
      obtain rfl := Option.some.inj h
      rw [hdispatch hf]
      exact ⟨_, _, hedges, hsection⟩
    · exact nomatch h
  | makeglossaries query =>
    unfold handsTo? at h
    dsimp only at h
    split at h
    · next number hf =>
      obtain rfl := Option.some.inj h
      rw [hdispatch hf]
      refine ⟨[.toolVersion .makeindex (String.ofList number)], [],
        List.forall_mem_singleton.2 rfl, ?_⟩
      rw [List.append_nil, ← Array.toList_push]
      exact Array.toList_append
    · exact nomatch h
  | _ => exact nomatch h

/-- What a tool says at an early end is not located. -/
theorem messages_parse (hd : d.isTool = true) (verbose : Bool) (source : R) :
    ∃ p after, d.Passes verbose source p ∧ (∀ m ∈ after, m.mark? = none) ∧
      (d.parse verbose source).scope.messages.toList = p.scope.messages.toList ++ after := by
  obtain ⟨p, hp, -, hlog, -⟩ :=
    d.grammar.rules.exists_passes_consume verbose (d.grammar.rules.begin source)
  have hconsume :
      (d.grammar.rules.consume verbose (d.grammar.rules.begin source)).scope.log.messages
        = p.scope.messages.toList := congrArg Log.messages hlog
  refine ⟨p, ?_⟩
  unfold Dialect.parse Grammar.parse
  dsimp only
  split
  · exact ⟨[], hp, List.forall_mem_nil _, hconsume.trans (List.append_nil _).symm⟩
  · have hend (memory : d.grammar.σ) :
        (d.grammar.rules.atEnd memory).Confined (fun m => m.mark? = none) False := by
      cases d with
      | latex master => exact ⟨rfl, trivial⟩
      | custom rules atEnd => exact Bool.noConfusion hd
      | _ => exact trivial
    obtain ⟨after, hafter, hnone⟩ := (Reaction.run_ensures verbose ((hend _).ensures
      (d.grammar.rules.consume verbose (d.grammar.rules.begin source)).scope.log)).messages
    exact ⟨after, hp, hnone, hafter.trans (by rw [hconsume])⟩

/-- **What is located in a parse is said in a turn** of a parser that is at work, of a statement
that it deals with alone. What is located was said in a turn of this parser, or it was said by one
that it called, which has fewer lines. -/
theorem exists_turn (hd : d.isTool = true) (verbose : Bool) (source : R) {m : Message}
    (hm : m ∈ (d.parse verbose source).scope.messages.toList) (hmark : m.mark? ≠ none) :
    ∃ (e : Dialect) (p : Grammar.Position R e.grammar.σ) (statement : Text) (behind : R),
      d.TakesUp verbose source e p statement behind ∧ e.isTool = true ∧
        e.handsTo? statement = none ∧
        m ∈ (e.grammar.rules.turn verbose statement (p.withUnread behind)).said := by
  -- a parser that is called has fewer lines ahead of it than its caller
  generalize hlen : (LineSource.lines source).length = n
  induction n using Nat.strongRecOn generalizing d source with
  | _ n ih =>
    subst hlen
    obtain ⟨q, after, hq, hafter, hmessages⟩ := messages_parse hd verbose source
    rw [hmessages, List.mem_append] at hm
    replace hm := hm.resolve_right fun hm => hmark (hafter m hm)
    clear hmessages
    unfold Dialect.Passes at hq
    induction hq with
    | here => exact absurd hm List.not_mem_nil
    | @statement p statement behind hp hdone hn ihp =>
      cases hands : d.handsTo? statement with
      | none =>
        have hsaid := d.grammar.rules.messages_dispatch verbose statement (p.withUnread behind)
        change m ∈ Log.messages (Scope.log _) at hm
        rw [hsaid, List.mem_append] at hm
        rcases hm with hbefore | hturn
        · exact ihp hbefore
        · exact ⟨d, p, statement, behind, ⟨source, .outermost, hp, hdone, hn⟩, hd, hands, hturn⟩
      | some called =>
        obtain ⟨before, between, hnone, hsaid⟩ :=
          messages_handed hands verbose (p.withUnread behind)
        rw [hsaid] at hm
        simp only [List.mem_append] at hm hnone
        rcases hm with ((hm | hm) | hm) | hm
        · exact ihp hm
        · exact absurd (hnone m (.inl hm)) hmark
        · have hlt : (LineSource.lines behind).length < (LineSource.lines source).length :=
            Nat.lt_of_lt_of_le (LineSource.lines_length_lt hn) hp.reads.lines_suffix.length_le
          obtain ⟨e, p', statement', behind', ⟨source', hwork, htaken⟩, hsaid⟩ :=
            ih _ hlt (isTool_of_handsTo? hands) behind hm rfl
          have hcalled : d.AtWork verbose source called behind :=
            .called .outermost hp hdone hn hands
          exact ⟨e, p', statement', behind', ⟨source', hcalled.trans hwork, htaken⟩, hsaid⟩
        · exact absurd (hnone m (.inr hm)) hmark

/-- **Digits are captured for a message** in the course of a parse: it is said in the turn of a
statement that is taken up, and they are captured of this statement or of the line behind it. -/
def CapturesFor (d : Dialect) (verbose : Bool) (source : R) (m : Message) (digits : Text) : Prop :=
  ∃ (e : Dialect) (p : Grammar.Position R e.grammar.σ) (statement : Text) (behind : R),
    d.TakesUp verbose source e p statement behind ∧
      e.captured? statement (LineSource.nextLine? behind) = some digits ∧
      m ∈ (e.grammar.rules.turn verbose statement (p.withUnread behind)).said

/-- **What is located in a parse has a line that was captured for it.** The turn has just the lines
that were captured in it, so the line of the message is among them. -/
theorem exists_captured (hd : d.isTool = true) (verbose : Bool) (source : R) {m : Message}
    (hm : m ∈ (d.parse verbose source).scope.messages.toList) {mark : Mark}
    (hmark : m.mark? = some mark) :
    ∃ digits, d.CapturesFor verbose source m digits ∧ MeansLine digits mark.line := by
  obtain ⟨e, p, statement, behind, htaken, he, hands, hsaid⟩ :=
    exists_turn hd verbose source hm (hmark ▸ Option.some_ne_none mark)
  have hlines := lines_said he hands verbose (p.withUnread behind)
  have hline : mark.line ∈
      linesOf (e.grammar.rules.turn verbose statement (p.withUnread behind)).said :=
    List.mem_map_of_mem (List.mem_filterMap.2 ⟨m, hsaid, hmark⟩)
  rw [hlines, Option.mem_toList, Option.map_eq_some_iff] at hline
  obtain ⟨digits, hdigits, hline⟩ := hline
  have hnumber : IsNumber digits := by
    rcases standsIn_of_captured? hdigits with h | ⟨next, -, h⟩
    · exact h.1
    · exact h.1
  exact ⟨digits, ⟨e, p, statement, behind, htaken, hdigits, hsaid⟩,
    hline ▸ meansLine_lineNumber hnumber⟩

end Dialect

/-! ## Marks -/

/-- The marks of the last section of an engine are those of messages. -/
theorem exists_message_of_mem_engineMarks {messages : List Message} {mark : Mark}
    (h : mark ∈ engineMarks messages) : ∃ m ∈ messages, m.mark? = some mark := by
  obtain ⟨m, hm, hmark⟩ := List.mem_filterMap.1 h
  exact ⟨m, (List.rtakeWhile_suffix _ _).subset hm, hmark⟩

/-- The marks that latexmk has in the end, or reports of a round, are those of messages. -/
theorem exists_message_of_mem_parseBuild (master : Text) (watching verbose : Bool) (source : R)
    {mark : Mark} (h : mark ∈ (parseBuild master watching verbose source).marks ∨
      ∃ report ∈ (parseBuild master watching verbose source).rounds, mark ∈ report.marks) :
    ∃ m ∈ (parseBuild master watching verbose source).messages, m.mark? = some mark := by
  have hkeeps : (Build.grammar master watching).Keeps (Build.Mirrors watching) :=
    Build.keeps (Build.mirrors_empty watching) Build.Step.mirrors
  obtain ⟨memory, log, hmirrors, hlog, hrounds⟩ := parseBuild_keeps hkeeps verbose source
  rw [hlog.messages]
  rcases h with h | ⟨report, hreport, h⟩
  · rw [hlog.marks, hmirrors.marks] at h
    exact exists_message_of_mem_engineMarks h
  · rw [hrounds] at hreport
    have hmarks : report.marks ∈ memory.reports.map (·.marks) := List.mem_map_of_mem hreport
    rw [hmirrors.rounds] at hmarks
    cases watching with
    | true =>
      obtain ⟨before, hbefore, heq⟩ := List.mem_map.1 hmarks
      rw [← heq] at h
      obtain ⟨m, hm, hmark⟩ := exists_message_of_mem_engineMarks h
      have hfront : before <+: log.messages := (List.mem_inits _ _).1 (List.mem_filter.1 hbefore).1
      exact ⟨m, hfront.subset hm, hmark⟩
    | false => exact absurd hmarks List.not_mem_nil

/-- **Every mark is that of a message.** For latexmk this is what it means that marks mirror
messages, and all other tools put each mark where they emit a message. -/
theorem Dialect.exists_message_of_mem_marks {d : Dialect} (hd : d.isTool = true) (verbose : Bool)
    (source : R) {mark : Mark} (h : mark ∈ (d.parse verbose source).scope.state.marks) :
    ∃ m ∈ (d.parse verbose source).scope.messages.toList, m.mark? = some mark := by
  by_cases hbuild : ∃ master watching, d = .latexmk master watching
  · obtain ⟨master, watching, rfl⟩ := hbuild
    exact exists_message_of_mem_parseBuild master watching verbose source (.inl h)
  · obtain ⟨P, hcourse⟩ := exists_course hd
      (fun master watching h => hbuild ⟨master, watching, h⟩) verbose source
    have hmarks : (d.parse verbose source).scope.state.marks
        = (d.parse verbose source).scope.messages.toList.filterMap Message.mark? := hcourse.marks_eq
    rw [hmarks] at h
    exact List.mem_filterMap.1 h

/-- **Line numbers are captured, and never wrap around.** Take a parse of any tool, of any source.
Whatever is located in it – a message, a mark in the end, a mark that latexmk reports of a round –
has the line that digits mean which were captured for it: of the statement that was taken up when it
was said, or of the line behind. Digits of any script mean the number that they write if they are
ASCII digits and it fits into 32 bits, however many zeros stand in front, and 1 otherwise; so the
line is 0 just if they are all zeros. Conversely, where a statement is taken up that is not handed
over, what is located in its turn is at the line of the digits that are captured, and nothing is if
there are none. The first part is about messages; marks, and the marks of rounds, come down to it
since each of them is the mark of a message. The last part is about single statements and needs no
induction. -/
theorem line_numbers_captured {d : Dialect} (hd : d.isTool = true) (verbose : Bool) (source : R) :
    (∀ m ∈ (d.parse verbose source).scope.messages.toList, ∀ mark, m.mark? = some mark →
      ∃ digits, d.CapturesFor verbose source m digits ∧ MeansLine digits mark.line) ∧
    (∀ mark ∈ (d.parse verbose source).scope.state.marks, ∃ m digits, m.mark? = some mark ∧
      d.CapturesFor verbose source m digits ∧ MeansLine digits mark.line) ∧
    (∀ master watching, d = .latexmk master watching →
      ∀ report ∈ (parseBuild master watching verbose source).rounds, ∀ mark ∈ report.marks,
        ∃ m digits, m.mark? = some mark ∧ d.CapturesFor verbose source m digits ∧
          MeansLine digits mark.line) ∧
    (∀ (e : Dialect) (p : Grammar.Position R e.grammar.σ) (statement : Text) (behind : R),
      d.TakesUp verbose source e p statement behind → e.handsTo? statement = none →
        ((e.grammar.rules.turn verbose statement (p.withUnread behind)).said.filterMap
            Message.mark?).map Mark.line
          = ((e.captured? statement (LineSource.nextLine? behind)).map lineNumber).toList ∧
        ∀ digits, e.captured? statement (LineSource.nextLine? behind) = some digits →
          MeansLine digits (lineNumber digits) ∧ (digits <:+: statement ∨
            ∃ next, LineSource.nextLine? behind = some next ∧ digits <:+: next)) ∧
    (∀ digits line, MeansLine digits line → (line = 0 ↔ ∀ c ∈ digits, c = '0')) ∧
    ∀ n zeros line, n < 2 ^ 32 →
      MeansLine (List.replicate zeros '0' ++ Nat.toDigits 10 n) line → line.toNat = n := by
  have hlocated {mark : Mark} (h : ∃ m ∈ (d.parse verbose source).scope.messages.toList,
      m.mark? = some mark) : ∃ m digits, m.mark? = some mark ∧
        d.CapturesFor verbose source m digits ∧ MeansLine digits mark.line := by
    obtain ⟨m, hm, hmark⟩ := h
    obtain ⟨digits, h⟩ := Dialect.exists_captured hd verbose source hm hmark
    exact ⟨m, digits, hmark, h⟩
  refine ⟨fun m hm mark hmark => Dialect.exists_captured hd verbose source hm hmark,
    fun mark hmark => hlocated (Dialect.exists_message_of_mem_marks hd verbose source hmark), ?_,
    ?_, fun _ _ h => h.eq_zero_iff, fun _ _ _ hn h => h.toNat_of_padded hn⟩
  · rintro master watching rfl report hreport mark hmark
    exact hlocated (exists_message_of_mem_parseBuild master watching verbose source
      (.inr ⟨report, hreport, hmark⟩))
  · rintro e p statement behind ⟨source', hwork, htaken⟩ hands
    refine ⟨Dialect.lines_said (hwork.isTool hd) hands verbose (p.withUnread behind),
      fun digits hdigits => ?_⟩
    rcases Dialect.standsIn_of_captured? hdigits with h | ⟨next, hnext, h⟩
    · exact ⟨meansLine_lineNumber h.1, .inl h.2⟩
    · exact ⟨meansLine_lineNumber h.1, .inr ⟨next, hnext, h.2⟩⟩

/-- An error at a line that is padded with zeros, in the transcript of an engine. -/
theorem line_numbers_captured_padded :
    let d := Dialect.latex "main.tex".toList
    let statement := "main.tex:0000000000042: Undefined control sequence.".toList
    let source : List Line := [⟨Utf8.encode statement, true⟩]
    let p := d.grammar.rules.begin source
    d.isTool = true ∧ d.TakesUp false source d p statement [] ∧ d.handsTo? statement = none ∧
      ((d.grammar.rules.turn false statement (p.withUnread ([] : List Line))).said.filterMap
        Message.mark?).map Mark.line = [42] ∧
      MeansLine "0000000000042".toList 42 := by
  intro d statement source p
  have htool : d.isTool = true := rfl
  have htaken : d.TakesUp false source d p statement [] := by
    refine ⟨source, .outermost, .here, rfl, Prod.ext ?_ rfl⟩
    exact congrArg some (Utf8.decodeLossy_encode statement)
  have hands : d.handsTo? statement = none := rfl
  have hcaptured : d.captured? statement (LineSource.nextLine? ([] : List Line))
      = some "0000000000042".toList := by decide +kernel
  obtain ⟨-, -, -, hturn, -⟩ := line_numbers_captured htool false source
  obtain ⟨hlines, hmeans⟩ := hturn d p statement [] htaken hands
  rw [hcaptured] at hlines hmeans
  exact ⟨htool, htaken, hands, hlines, (hmeans _ rfl).1⟩

end TexTranscript
