import TexTranscript.Proofs.Entries
import TexTranscript.Proofs.Matches

/-!
# Errors with a file and a line

In the mode that the engines are run in, an error begins with the name of a source file and the
number of a line, with a colon behind each. Three rules seek that, and they overlap. The first
one is particular about the name and wants nothing but white space behind the number; the others
take any name without a colon and want certain words behind the number.

A statement can be split at its first two colons in one way only (`Typesetting.PointsTo.unique`).
No name holds a colon, unless the extension does, and no digit is one, so that all three rules
find the same split. What is left is to look at what stands in front of the first colon and
behind the second one, and `Typesetting.Describes` says what is then taken for the description
of the error.

## Main definitions

* `Typesetting.PointsTo` – a statement begins with a name and a number.
* `Typesetting.IsSourceName` – the names that the first rule takes.
* `Typesetting.Describes` – the description of an error.

## Main statements

* `Typesetting.PointsTo.unique` – there is one way to split a statement.
* `Typesetting.exists_classify_error`, `Typesetting.exists_of_classify_error` – how the parser reads
  that there is an error.
* `Typesetting.located_errors_recognized` – which statements locate an error, and what is done.
-/

namespace TexTranscript

/-- There is one way to split a text at its first `c`. -/
theorem Text.split_unique {c : Char} {front front' behind behind' : Text}
    (h : front ++ c :: behind = front' ++ c :: behind') (hfront : c ∉ front)
    (hfront' : c ∉ front') : front = front' ∧ behind = behind' := by
  rcases List.append_eq_append_iff.1 h with ⟨more, rfl, hmore⟩ | ⟨more, rfl, hmore⟩
  · cases more with
    | nil => exact ⟨(List.append_nil _).symm, (List.cons.inj hmore).2⟩
    | cons d more =>
      obtain ⟨rfl, -⟩ := List.cons.inj hmore
      exact absurd (List.mem_append_right _ List.mem_cons_self) hfront'
  · cases more with
    | nil => exact ⟨List.append_nil _, (List.cons.inj hmore).2.symm⟩
    | cons d more =>
      obtain ⟨rfl, -⟩ := List.cons.inj hmore
      exact absurd (List.mem_append_right _ List.mem_cons_self) hfront

/-- A colon is no digit. -/
theorem IsNumber.colon_notMem {line : Text} (h : IsNumber line) : ':' ∉ line :=
  fun hc => absurd (h.2 ':' hc) (by decide)

namespace Typesetting

/-! ## What a statement says -/

/-- **A statement points to a line** of a file: in front of its first colon stands a name, and then
a number with another colon behind it. -/
structure PointsTo (statement file line rest : Text) : Prop where
  eq : statement = file ++ ':' :: (line ++ ':' :: rest)
  colon_notMem : ':' ∉ file
  isNumber : IsNumber line

/-- **There is one way** to split a statement that points to a line. The name ends at the first
colon and the number at the one behind it, and neither of them holds one. -/
theorem PointsTo.unique {statement file line rest file' line' rest' : Text}
    (h : PointsTo statement file line rest)
    (h' : PointsTo statement file' line' rest') :
    file = file' ∧ line = line' ∧ rest = rest' := by
  obtain ⟨hfile, hbehind⟩ :=
    Text.split_unique (h.eq.symm.trans h'.eq) h.colon_notMem h'.colon_notMem
  exact ⟨hfile, Text.split_unique hbehind h.isNumber.colon_notMem h'.isNumber.colon_notMem⟩

/-- **The name of a source file as an engine prints it** in front of a line number: it ends in
`.sty`, in `.tex`, or in a dot and the given extension, and in front of that are word characters,
dots, slashes, dashes, and characters beyond ASCII. -/
def IsSourceName (ext file : Text) : Prop :=
  ∃ stem x, file = stem ++ '.' :: x ∧ (x = "sty".toList ∨ x = "tex".toList ∨ x = ext) ∧ stem ≠ [] ∧
    ∀ c ∈ stem, Text.isWord c = true ∨ c = '.' ∨ c = '/' ∨ c = '-' ∨ 0x80 ≤ c.toNat

/-- The text begins with white space. -/
def BeginsBlank (rest : Text) : Prop := ∃ c ∈ rest.head?, Text.isBlank c = true

/-- **The description of an error**, given what stands in front of the first colon and behind the
second one: all that stands there if there is the name of a source file, and otherwise what
follows certain words. -/
inductive Describes (ext file : Text) : Text → Text → Prop
  | plain {rest : Text} (hfile : IsSourceName ext file) (hrest : BeginsBlank rest) :
      Describes ext file rest (Text.trim rest)
  | latexError {rest said : Text} (hfile : ¬IsSourceName ext file)
      (hrest : rest = " LaTeX Error:".toList ++ said) : Describes ext file rest (Text.trim said)
  | emergencyStop {rest more : Text} (hfile : ¬IsSourceName ext file)
      (hrest : rest = " Emergency stop".toList ++ more) :
      Describes ext file rest "Emergency stop".toList

variable {ext file line rest statement text : Text}

/-- An error is described in three cases. -/
theorem exists_describes_iff : (∃ text, Describes ext file rest text) ↔
    (IsSourceName ext file ∧ BeginsBlank rest) ∨
      Text.startsWith " LaTeX Error:".toList rest = true ∨
      Text.startsWith " Emergency stop".toList rest = true := by
  constructor
  · rintro ⟨text, h⟩
    cases h with
    | plain hfile hrest => exact .inl ⟨hfile, hrest⟩
    | latexError hfile hrest => exact .inr (.inl (Text.startsWith_iff.2 ⟨_, hrest⟩))
    | emergencyStop hfile hrest => exact .inr (.inr (Text.startsWith_iff.2 ⟨_, hrest⟩))
  · intro h
    -- the words that are sought begin with a space
    by_cases hfile : IsSourceName ext file
    · rcases h with ⟨-, hrest⟩ | h | h
      · exact ⟨_, .plain hfile hrest⟩
      · obtain ⟨said, rfl⟩ := Text.startsWith_iff.1 h
        exact ⟨_, .plain hfile ⟨' ', rfl, by decide⟩⟩
      · obtain ⟨more, rfl⟩ := Text.startsWith_iff.1 h
        exact ⟨_, .plain hfile ⟨' ', rfl, by decide⟩⟩
    · rcases h with ⟨hfile', -⟩ | h | h
      · exact absurd hfile' hfile
      · obtain ⟨said, rfl⟩ := Text.startsWith_iff.1 h
        exact ⟨_, .latexError hfile rfl⟩
      · obtain ⟨more, rfl⟩ := Text.startsWith_iff.1 h
        exact ⟨_, .emergencyStop hfile rfl⟩

/-- There is one description. -/
theorem Describes.unique {text' : Text} (h : Describes ext file rest text)
    (h' : Describes ext file rest text') : text = text' := by
  cases h with
  | plain hfile hrest =>
    cases h' with
    | plain => rfl
    | latexError hfile' => exact absurd hfile hfile'
    | emergencyStop hfile' => exact absurd hfile hfile'
  | latexError hfile hrest =>
    cases h' with
    | plain hfile' => exact absurd hfile' hfile
    | latexError _ hrest' => rw [List.append_cancel_left (hrest.symm.trans hrest')]
    | emergencyStop _ hrest' => exact absurd (hrest.symm.trans hrest') (by simp)
  | emergencyStop hfile hrest =>
    cases h' with
    | plain hfile' => exact absurd hfile' hfile
    | latexError _ hrest' => exact absurd (hrest.symm.trans hrest') (by simp)
    | emergencyStop => rfl

/-! ## What the rules for errors match -/

/-- A name with a colon and a number behind it. -/
def position (name : Pattern) : Pattern := .group name ++ .lit ":" ++ digits

/-- The names of the first rule. -/
def printedName (ext : Text) : Pattern := .several .fileName ++
  .bracket (.alt (.lit ".sty") (.alt (.lit ".tex") (.lit "." ++ .quoted ext)))

/-- The names of the other rules. -/
def anyName : Pattern := .many (.except ':')

/-- The words that the second rule seeks behind the number, with what is said behind them. -/
def latexError : Pattern := position anyName ++ .lit ": LaTeX Error:" ++ .group (.many .any)

/-- The words that the third rule seeks behind the number. -/
def emergencyStop : Pattern :=
  position anyName ++ .lit ": " ++ .group (.lit "Emergency stop")

/-- A position in front of a literal is matched in one way. What the name may be is left open, since
it depends on the rule. -/
theorem matches_position_lit {name : Pattern} {s : String} {u : Text} {groups : List Text} :
    (position name ++ .lit s).Matches u groups rest ↔
      ∃ file inner line, u = file ++ ':' :: (line ++ s.toList) ∧ groups = inner ++ [file, line] ∧
        IsNumber line ∧ name.Matches file inner (':' :: (line ++ (s.toList ++ rest))) := by
  constructor
  · rintro ⟨_, _, _, _, rfl, rfl, ⟨_, line, _, _, rfl, rfl, ⟨file, _, _, _, rfl, rfl,
      ⟨inner, rfl, hfile⟩, rfl, rfl⟩, _, rfl, hnumber, rfl⟩, rfl, rfl⟩
    refine ⟨file, inner, line, by simp, by simp, hnumber, ?_⟩
    simpa using hfile
  · rintro ⟨file, inner, line, rfl, rfl, hnumber, hfile⟩
    refine ⟨file ++ ':' :: line, s.toList, inner ++ [file, line], [], by simp, by simp,
      ⟨file ++ [':'], line, inner ++ [file], [line], by simp, by simp,
        ⟨file, [':'], inner ++ [file], [], rfl, by simp, ⟨inner, rfl, ?_⟩, rfl, rfl⟩,
        [], rfl, hnumber, rfl⟩, rfl, rfl⟩
    simpa using hfile

theorem contains_fileName_iff {c : Char} : CharClass.fileName.contains c = true ↔
    Text.isWord c = true ∨ c = '.' ∨ c = '/' ∨ c = '-' ∨ 0x80 ≤ c.toNat := by
  simp [CharClass.contains, or_assoc]

/-- The first rule wants the name of a source file. -/
theorem matches_printedName {inner : List Text} :
    (printedName ext).Matches file inner rest ↔ inner = [] ∧ IsSourceName ext file := by
  constructor
  · rintro ⟨stem, ending, _, groups, rfl, rfl, ⟨⟨hne, hstem⟩, rfl⟩, hending⟩
    have hstem : ∀ c ∈ stem, _ := fun c hc => contains_fileName_iff.1 (hstem c hc)
    rcases hending with ⟨rfl, rfl⟩ | ⟨rfl, rfl⟩ | ⟨_, _, _, _, rfl, rfl, ⟨rfl, rfl⟩, rfl, rfl⟩
    · exact ⟨rfl, stem, _, rfl, .inl rfl, hne, hstem⟩
    · exact ⟨rfl, stem, _, rfl, .inr (.inl rfl), hne, hstem⟩
    · exact ⟨rfl, stem, _, rfl, .inr (.inr rfl), hne, hstem⟩
  · rintro ⟨rfl, stem, x, rfl, hx, hne, hstem⟩
    refine ⟨stem, '.' :: x, [], [], rfl, rfl,
      ⟨⟨hne, fun c hc => contains_fileName_iff.2 (hstem c hc)⟩, rfl⟩, ?_⟩
    rcases hx with rfl | rfl | rfl
    · exact .inl ⟨rfl, rfl⟩
    · exact .inr (.inl ⟨rfl, rfl⟩)
    · exact .inr (.inr ⟨['.'], _, [], [], rfl, rfl, ⟨rfl, rfl⟩, rfl, rfl⟩)

/-- The other rules want any name that holds no colon. -/
theorem matches_anyName {inner : List Text} :
    anyName.Matches file inner rest ↔ inner = [] ∧ ':' ∉ file := by
  rw [← CharClass.forall_except_iff]
  exact and_comm

/-- No colon stands in the name of a source file, unless one stands in the extension. -/
theorem IsSourceName.colon_notMem (hext : ':' ∉ ext) (h : IsSourceName ext file) : ':' ∉ file := by
  obtain ⟨stem, x, rfl, hx, -, hstem⟩ := h
  intro hc
  rcases List.mem_append.1 hc with hc | hc
  · exact absurd (hstem ':' hc) (by decide)
  · rcases hx with rfl | rfl | rfl
    · exact absurd hc (by decide)
    · exact absurd hc (by decide)
    · exact hext ((List.mem_cons.1 hc).resolve_left (by decide))

/-- White space in front is stripped. -/
theorem trim_append {space : Text} (h : ∀ c ∈ space, Text.isBlank c = true) (t : Text) :
    Text.trim (space ++ t) = Text.trim t := by
  unfold Text.trim Text.stripBy
  rw [List.dropWhile_append_of_pos h]

/-- A group at the end takes the rest of a line. -/
theorem takeWhile_any (h : '\n' ∉ rest) : rest.takeWhile CharClass.any.contains = rest :=
  List.takeWhile_eq_self_iff.2 (CharClass.forall_except_iff.2 h)

/-- **What the first rule reads**: a statement that points to a line of a source file, with white
space behind it. The description is captured behind some of this white space, and how much of it is
left does not show when it has been trimmed. -/
theorem reading_fileLineError (hext : ':' ∉ ext) (hline : '\n' ∉ statement) {found : Finding}
    (h : (Rule.mk (fileLineError ext) readError).reading? statement = some found) :
    ∃ file line rest description, found = .error file line description ∧
      PointsTo statement file line rest ∧ IsSourceName ext file ∧ BeginsBlank rest ∧
      Text.trim description = Text.trim rest := by
  obtain ⟨groups, hgroups, hfound⟩ := Option.bind_eq_some_iff.1 h
  obtain ⟨_, _, behind, rfl, ⟨_, blank, _, _, rfl, rfl, hposition, ⟨hne, hblank⟩, rfl⟩, rfl⟩ :=
    Pattern.exists_of_captures_run hgroups
  obtain ⟨file, _, line, rfl, rfl, hnumber, hname⟩ := matches_position_lit.1 hposition
  obtain ⟨rfl, hfile⟩ := matches_printedName.1 hname
  obtain ⟨c, blank, rfl⟩ := List.exists_cons_of_ne_nil hne
  have hbehind : '\n' ∉ behind := fun hc => hline (List.mem_append_right _ hc)
  refine ⟨file, line, c :: blank ++ behind, behind, ?_,
    ⟨by simp, hfile.colon_notMem hext, hnumber⟩, hfile, ⟨c, rfl, hblank c List.mem_cons_self⟩,
    (trim_append hblank behind).symm⟩
  rw [takeWhile_any hbehind] at hfound
  exact (Option.some.inj hfound).symm

/-- **What the second rule reads**: a statement that points to a line, with the words `LaTeX Error`
behind the number, and the description behind these. -/
theorem reading_latexError (hline : '\n' ∉ statement) {found : Finding}
    (h : (Rule.mk latexError readError).reading? statement = some found) :
    ∃ file line said, found = .error file line said ∧
      PointsTo statement file line (" LaTeX Error:".toList ++ said) := by
  obtain ⟨groups, hgroups, hfound⟩ := Option.bind_eq_some_iff.1 h
  obtain ⟨_, _, said, rfl, hposition, rfl⟩ := Pattern.exists_of_captures_run hgroups
  obtain ⟨file, _, line, rfl, rfl, hnumber, hname⟩ := matches_position_lit.1 hposition
  obtain ⟨rfl, hfile⟩ := matches_anyName.1 hname
  have hsaid : '\n' ∉ said := fun hc => hline (List.mem_append_right _ hc)
  refine ⟨file, line, said, ?_, ⟨by simp, hfile, hnumber⟩⟩
  rw [takeWhile_any hsaid] at hfound
  exact (Option.some.inj hfound).symm

/-- **What the third rule reads**: a statement that points to a line, with the words `Emergency
stop` behind the number, which are the description. -/
theorem reading_emergencyStop {found : Finding}
    (h : (Rule.mk emergencyStop readError).reading? statement = some found) :
    ∃ file line more, found = .error file line "Emergency stop".toList ∧
      PointsTo statement file line (" Emergency stop".toList ++ more) := by
  obtain ⟨groups, hgroups, hfound⟩ := Option.bind_eq_some_iff.1 h
  obtain ⟨_, more, rfl, _, _, _, _, rfl, rfl, hposition, _, rfl, rfl, rfl⟩ :=
    Pattern.exists_matches_of_captures hgroups
  obtain ⟨file, _, line, rfl, rfl, hnumber, hname⟩ := matches_position_lit.1 hposition
  obtain ⟨rfl, hfile⟩ := matches_anyName.1 hname
  exact ⟨file, line, more, (Option.some.inj hfound).symm, ⟨by simp, hfile, hnumber⟩⟩

namespace PointsTo

/-- The first rule has something to read in a statement that points to a line of a source file and
goes on with white space. -/
theorem matchesStart_fileLineError (h : PointsTo statement file line rest)
    (hfile : IsSourceName ext file) (hrest : BeginsBlank rest) :
    (fileLineError ext).matchesStart statement = true := by
  obtain ⟨c, hc, hblank⟩ := hrest
  obtain ⟨behind, rfl⟩ : ∃ behind, rest = c :: behind := List.head?_eq_some_iff.1 hc
  refine Pattern.matchesStart_iff.2 ⟨file ++ ':' :: (line ++ ":".toList) ++ [c], [file, line, []],
    behind, by simp [h.eq], _, [], [file, line], [[]], (List.append_nil _).symm, rfl,
    ⟨_, [c], [file, line], [], rfl, rfl, matches_position_lit.2
      ⟨file, [], line, rfl, rfl, h.isNumber, matches_printedName.2 ⟨rfl, hfile⟩⟩,
      ⟨⟨List.cons_ne_nil _ _, List.forall_mem_singleton.2 hblank⟩, rfl⟩⟩,
    [], rfl, List.forall_mem_nil _, rfl⟩

/-- The second rule has something to read where an error of LaTeX is pointed to a line. -/
theorem matchesStart_latexError {said : Text}
    (h : PointsTo statement file line (" LaTeX Error:".toList ++ said)) :
    latexError.matchesStart statement = true := by
  refine Pattern.matchesStart_iff.2 ⟨file ++ ':' :: (line ++ ": LaTeX Error:".toList),
    [file, line, []], said, by simp [h.eq], _, [], [file, line], [[]],
    (List.append_nil _).symm, rfl,
    matches_position_lit.2 ⟨file, [], line, rfl, rfl, h.isNumber,
      matches_anyName.2 ⟨rfl, h.colon_notMem⟩⟩, [], rfl, List.forall_mem_nil _, rfl⟩

/-- The third rule has something to read where an emergency stop is pointed to a line. -/
theorem matchesStart_emergencyStop {more : Text}
    (h : PointsTo statement file line (" Emergency stop".toList ++ more)) :
    emergencyStop.matchesStart statement = true := by
  refine Pattern.matchesStart_iff.2
    ⟨file ++ ':' :: (line ++ ": ".toList) ++ "Emergency stop".toList,
    [file, line, "Emergency stop".toList], more, by simp [h.eq], _, _, [file, line], [_], rfl, rfl,
    matches_position_lit.2 ⟨file, [], line, rfl, rfl, h.isNumber,
      matches_anyName.2 ⟨rfl, h.colon_notMem⟩⟩, [], rfl, rfl, rfl⟩

end PointsTo

/-! ## Which errors are read -/

/-- The rules for errors that point to a line. -/
def errorRules (ext : Text) : List (Rule Finding) :=
  [⟨fileLineError ext, readError⟩, ⟨latexError, readError⟩, ⟨emergencyStop, readError⟩]

/-- The rules for errors that point to a line stand behind the first ten rules. -/
theorem drop_rules (master : Text) : (engine master).rules.drop 10
    = errorRules (extension master) ++ (rules (extension master)).drop 13 := rfl

theorem errorRules_legible (ext : Text) : ∀ rule ∈ errorRules ext, rule.Legible := by
  intro rule hrule
  have hdrop : rule ∈ (rules ext).drop 10 := List.mem_append_left _ hrule
  exact rules_legible ext rule (List.mem_of_mem_drop hdrop)

/-- A rule that reads nothing matches nothing. -/
theorem matchesStart_eq_false {rule : Rule Finding} (hrule : rule ∈ errorRules ext)
    (h : rule.reading? statement = none) : ¬rule.pattern.matchesStart statement = true := by
  intro hmatch
  have hsome := errorRules_legible ext rule hrule statement hmatch
  rw [h] at hsome
  exact Bool.noConfusion hsome

/-- **What the three rules read** is described as the first of them that applies has it. The rules
are tried one after the other, and that one did not match is known of those before the rule that
reads something. -/
theorem exists_of_errorRules (hext : ':' ∉ ext) (hline : '\n' ∉ statement) {found : Finding}
    (h : (errorRules ext).findSome? (·.reading? statement) = some found) :
    ∃ file line rest description, found = .error file line description ∧
      PointsTo statement file line rest ∧ Describes ext file rest (Text.trim description) := by
  unfold errorRules at h
  rw [List.findSome?_cons] at h
  split at h
  · next hfirst =>
    obtain rfl := Option.some.inj h
    obtain ⟨file, line, rest, description, rfl, hpoints, hfile, hrest, htrim⟩ :=
      reading_fileLineError hext hline hfirst
    exact ⟨file, line, rest, description, rfl, hpoints, htrim ▸ .plain hfile hrest⟩
  next hfirst =>
  have hrule : _ ∈ errorRules ext := List.mem_cons_self
  have hnone := matchesStart_eq_false hrule hfirst
  rw [List.findSome?_cons] at h
  split at h
  · next hsecond =>
    obtain rfl := Option.some.inj h
    obtain ⟨file, line, said, rfl, hpoints⟩ := reading_latexError hline hsecond
    refine ⟨file, line, _, said, rfl, hpoints, .latexError (fun hfile => hnone ?_) rfl⟩
    exact hpoints.matchesStart_fileLineError hfile ⟨' ', rfl, by decide⟩
  rw [List.findSome?_cons] at h
  split at h
  · next hthird =>
    obtain rfl := Option.some.inj h
    obtain ⟨file, line, more, rfl, hpoints⟩ := reading_emergencyStop hthird
    refine ⟨file, line, _, _, rfl, hpoints, .emergencyStop (fun hfile => hnone ?_) rfl⟩
    exact hpoints.matchesStart_fileLineError hfile ⟨' ', rfl, by decide⟩
  · exact absurd h (Option.some_ne_none found).symm

/-- The three rules read something wherever there is a description. -/
theorem isSome_errorRules (hpoints : PointsTo statement file line rest)
    (h : Describes ext file rest text) :
    ((errorRules ext).findSome? (·.reading? statement)).isSome = true := by
  obtain ⟨rule, hrule, hmatch⟩ :
      ∃ rule ∈ errorRules ext, rule.pattern.matchesStart statement = true := by
    cases h with
    | plain hfile hrest =>
      exact ⟨_, List.mem_cons_self, hpoints.matchesStart_fileLineError hfile hrest⟩
    | latexError hfile hrest =>
      subst hrest
      exact ⟨_, List.mem_cons_of_mem _ List.mem_cons_self, hpoints.matchesStart_latexError⟩
    | emergencyStop hfile hrest =>
      subst hrest
      exact ⟨_, List.mem_cons_of_mem _ (List.mem_cons_of_mem _ List.mem_cons_self),
        hpoints.matchesStart_emergencyStop⟩
  have hread := errorRules_legible ext rule hrule statement hmatch
  exact List.findSome?_isSome_iff.2 ⟨rule, hrule, hread⟩

/-- The rules behind them read no error of that kind. They are a few, and what each of them reads is
something else. -/
theorem drop_rules_read_noError {found : Finding} {rule : Rule Finding}
    (hrule : rule ∈ (rules ext).drop 13) (h : rule.reading? statement = some found) :
    ∀ file line description, found ≠ .error file line description := by
  rintro file line description rfl
  obtain ⟨groups, -, hread⟩ := Option.bind_eq_some_iff.1 h
  simp only [rules, List.drop_succ_cons, List.drop_zero, List.mem_cons, List.not_mem_nil,
    or_false] at hrule
  rcases hrule with rfl | rfl | rfl | rfl
  · exact Finding.noConfusion (Option.some.inj hread)
  · dsimp only at hread
    split at hread
    · exact Finding.noConfusion (Option.some.inj hread)
    · exact absurd hread.symm (Option.some_ne_none _)
  · exact Finding.noConfusion (Option.some.inj hread)
  · exact Finding.noConfusion (Option.some.inj hread)

section

variable {master description : Text}

/-- **How the parser reads an error**, where the rules in front decide nothing: of what it reads,
only the white space around the description is not determined by the statement. -/
theorem exists_of_classify_error (hext : ':' ∉ extension master) (hline : '\n' ∉ statement)
    (hbefore : ∀ rule ∈ (rules (extension master)).take 10,
      rule.pattern.matchesStart statement = false)
    (h : (engine master).classify statement = some (.error file line description)) :
    ∃ rest, PointsTo statement file line rest ∧
      Describes (extension master) file rest (Text.trim description) := by
  rw [Grammar.classify_eq_drop (g := engine master) hbefore, drop_rules, List.findSome?_append,
    Option.or_eq_some_iff] at h
  rcases h with h | ⟨-, h⟩
  · obtain ⟨_, _, rest, _, hfound, hpoints, hdescribes⟩ := exists_of_errorRules hext hline h
    cases hfound
    exact ⟨rest, hpoints, hdescribes⟩
  · obtain ⟨rule, hrule, hread⟩ := List.exists_of_findSome?_eq_some h
    exact absurd rfl (drop_rules_read_noError hrule hread file line description)

/-- **An error is read** wherever there is a description. It need not be read by the rule that the
description belongs to, but there is only one way to describe it. -/
theorem exists_classify_error (hext : ':' ∉ extension master) (hline : '\n' ∉ statement)
    (hbefore : ∀ rule ∈ (rules (extension master)).take 10,
      rule.pattern.matchesStart statement = false)
    (hpoints : PointsTo statement file line rest)
    (hdescribes : Describes (extension master) file rest text) :
    ∃ description, (engine master).classify statement = some (.error file line description) ∧
      Text.trim description = text := by
  obtain ⟨found, hfound⟩ := Option.isSome_iff_exists.1 (isSome_errorRules hpoints hdescribes)
  obtain ⟨file', line', rest', description, rfl, hpoints', hdescribes'⟩ :=
    exists_of_errorRules hext hline hfound
  obtain ⟨rfl, rfl, rfl⟩ := hpoints.unique hpoints'
  refine ⟨description, ?_, hdescribes'.unique hdescribes⟩
  rw [Grammar.classify_eq_drop (g := engine master) hbefore, drop_rules, List.findSome?_append,
    hfound]
  rfl

end

end Typesetting

/-! ## What is done about an error -/

/-- The message is an error with a location. -/
def Message.isLocatedError : Message → Bool
  | error _ (some _) => true
  | _ => false

namespace Typesetting

variable {ν : Type} {master description : Text}

/-- Only an error that points to a line is located. -/
def Finding.Locates (found : Finding) (m : Message) : Prop :=
  m.isLocatedError = true → ∃ file line description, found = .error file line description

/-- An engine locates an error only where one was read that points to a line. -/
theorem locates (master : Text) :
    (grammar master : Grammar Unit Finding ν).Confined Finding.Locates Finding.IsLast := by
  intro found statement memory
  cases found with
  | remark => exact ⟨nofun, trivial⟩
  | fileEntered name => exact ⟨nofun, nofun, trivial⟩
  | inclusion path => exact ⟨nofun, trivial⟩
  | warning line => exact fun state => ⟨nofun, nofun, nofun, trivial⟩
  | wrappedWarning => exact reactToWrapped_confined fun _ _ => nofun
  | formatWarning => exact ⟨nofun, trivial⟩
  | error file line description =>
    refine ⟨nofun, fun _ => ⟨file, line, description, rfl⟩, nofun, ?_⟩
    split
    · exact ⟨nofun, trivial⟩
    · exact trivial
  | runaway => exact reactToRunaway_confined (fun _ => nofun) (fun _ => nofun) fun _ => nofun
  | transcript name => exact ⟨nofun, fun _ => ⟨name, rfl⟩, trivial⟩
  | alert =>
    dsimp only [grammar, react]
    split
    · exact ⟨nofun, nofun, trivial⟩
    · exact ⟨nofun, nofun, trivial⟩
  | fatal => exact ⟨nofun, nofun, nofun, trivial⟩

variable {R : Type} [LineSource R]

/-- **A located error is said** only where one is read. Whatever else is read, or nothing at all,
what is said of it is confined to other messages. -/
theorem exists_classify_of_said {p : Grammar.Position R Unit} {verbose : Bool} {said : String}
    {location : Location}
    (h : .error said (some location) ∈ ((engine master).turn verbose statement p).said) :
    ∃ file line description,
      (engine master).classify statement = some (.error file line description) := by
  rcases hc : (engine master).classify statement with _ | found
  · obtain ⟨ms, hms, hquiet⟩ := (Grammar.continues_dispatch_of_none verbose
      (M := fun m => m.isLocatedError = false) (fun _ => rfl) hc p).messages
    rw [Grammar.said_eq hms] at h
    exact Bool.noConfusion (hquiet _ h)
  · obtain ⟨ms, hms, hlocates⟩ := ((locates master).dispatch verbose hc p).messages
    rw [Grammar.said_eq hms] at h
    obtain ⟨file, line, description, rfl⟩ := hlocates _ h rfl
    exact ⟨file, line, description, rfl⟩

/-- **What is done about an error** that points to a line: it is reported, marked and counted, and
all is lost if its description says so. -/
theorem dispatch_error
    (h : (engine master).classify statement = some (.error file line description))
    (verbose : Bool) (p : Grammar.Position R Unit) :
    ((engine master).dispatch verbose statement p).scope.log
      = p.scope.log.perform (.problem .error (Text.trim description)
          (some (locationOf file line))
          (Text.hasPart "Fatal error".toList (Text.trim description))) := by
  unfold Grammar.dispatch
  rw [h]
  exact Reaction.run_ensures verbose (reactToError_ensures _ _ p.scope.log)

/-- **Errors are recognized exactly.** Let no colon stand in the extension of the master document,
and let a statement be a single line of which the rules in front of those for errors match nothing.
Then it is said of it that there is an error at a line just if it points to a line, and either the
name of a source file stands in front and white space behind, or `LaTeX Error:` or `Emergency stop`
stands behind. In the first case of these that applies, the error is described by all that stands
behind, by what follows `LaTeX Error:`, or by `Emergency stop`. With this description it is reported
and marked at the line of the file; it is counted, and all is lost just if the description says
`Fatal error`. From what is said to what was read, from there to the rule that read it, and from the
rule to the statement: each step is an equivalence, so the whole is one. -/
theorem located_errors_recognized {master statement : Text} (hext : ':' ∉ extension master)
    (hline : '\n' ∉ statement)
    (hbefore : ∀ rule ∈ (rules (extension master)).take 10,
      rule.pattern.matchesStart statement = false)
    (verbose : Bool) (p : Grammar.Position R Unit) :
    ((∃ text location,
        .error text (some location) ∈ ((engine master).turn verbose statement p).said) ↔
      ∃ file line rest, PointsTo statement file line rest ∧
        ((IsSourceName (extension master) file ∧ BeginsBlank rest) ∨
          Text.startsWith " LaTeX Error:".toList rest = true ∨
          Text.startsWith " Emergency stop".toList rest = true)) ∧
    ∀ file line rest text, PointsTo statement file line rest →
      Describes (extension master) file rest text →
      ((engine master).turn verbose statement p).said
        = [.error (String.ofList text)
            (some ⟨String.ofList (sourceName file), lineNumber line⟩)] ∧
      ((engine master).dispatch verbose statement p).scope.state.marks = p.scope.state.marks
        ++ [⟨String.ofList (sourceName file), lineNumber line, .error,
            String.ofList text⟩] ∧
      ((engine master).dispatch verbose statement p).scope.state.tally
        = ⟨p.scope.state.tally.run + ⟨Text.hasPart "Fatal error".toList text, 1, 0⟩,
            p.scope.state.tally.total + ⟨Text.hasPart "Fatal error".toList text, 1, 0⟩⟩ := by
  -- whichever of the three rules reads the error, it comes to one deed
  have hdone {file line rest text : Text} (hpoints : PointsTo statement file line rest)
      (hdescribes : Describes (extension master) file rest text) :
      ((engine master).dispatch verbose statement p).scope.log
        = p.scope.log.perform (.problem .error text (some (locationOf file line))
            (Text.hasPart "Fatal error".toList text)) := by
    obtain ⟨description, hclassify, rfl⟩ :=
      exists_classify_error hext hline hbefore hpoints hdescribes
    exact dispatch_error hclassify verbose p
  refine ⟨⟨?_, ?_⟩, fun file line rest text hpoints hdescribes => ?_⟩
  · rintro ⟨text, location, hsaid⟩
    obtain ⟨file, line, description, hclassify⟩ := exists_classify_of_said hsaid
    obtain ⟨rest, hpoints, hdescribes⟩ := exists_of_classify_error hext hline hbefore hclassify
    exact ⟨file, line, rest, hpoints, exists_describes_iff.1 ⟨_, hdescribes⟩⟩
  · rintro ⟨file, line, rest, hpoints, hcases⟩
    obtain ⟨text, hdescribes⟩ := exists_describes_iff.2 hcases
    refine ⟨String.ofList text, locationOf file line, ?_⟩
    rw [Grammar.said_eq (congrArg Log.messages (hdone hpoints hdescribes))]
    exact List.mem_singleton.2 rfl
  · have hlog := hdone hpoints hdescribes
    exact ⟨Grammar.said_eq (congrArg Log.messages hlog), congrArg (·.state.marks) hlog,
      congrArg (·.state.tally) hlog⟩

/-- The description of this error is found by the first rule, though the words of the second one
follow. -/
theorem located_errors_recognized_sty :
    ':' ∉ extension "main.tex".toList ∧ '\n' ∉ "./a.sty:07:\t LaTeX Error: Fatal error. ".toList ∧
      (∀ rule ∈ (rules (extension "main.tex".toList)).take 10,
        rule.pattern.matchesStart "./a.sty:07:\t LaTeX Error: Fatal error. ".toList = false) ∧
      ((engine "main.tex".toList).turn false "./a.sty:07:\t LaTeX Error: Fatal error. ".toList
          ((engine "main.tex".toList).begin ([] : List Line))).said
        = [.error "LaTeX Error: Fatal error." (some ⟨"a.sty", 7⟩)] := by
  have hext : ':' ∉ extension "main.tex".toList := by decide
  have hline : '\n' ∉ "./a.sty:07:\t LaTeX Error: Fatal error. ".toList := by decide
  have hbefore : ∀ rule ∈ (rules (extension "main.tex".toList)).take 10,
      rule.pattern.matchesStart "./a.sty:07:\t LaTeX Error: Fatal error. ".toList = false := by
    decide
  have hpoints : PointsTo "./a.sty:07:\t LaTeX Error: Fatal error. ".toList "./a.sty".toList
      "07".toList "\t LaTeX Error: Fatal error. ".toList := ⟨by decide, by decide, by decide⟩
  have hfile : IsSourceName (extension "main.tex".toList) "./a.sty".toList := by
    refine ⟨['.', '/', 'a'], "sty".toList, rfl, .inl rfl, List.cons_ne_nil _ _, ?_⟩
    refine List.forall_mem_cons.2 ⟨.inr (.inl rfl), List.forall_mem_cons.2 ⟨?_, ?_⟩⟩
    · exact .inr (.inr (.inl rfl))
    · exact List.forall_mem_singleton.2 (.inl (by decide))
  exact ⟨hext, hline, hbefore, ((located_errors_recognized hext hline hbefore false _).2 _ _ _ _
    hpoints (.plain hfile ⟨'\t', rfl, by decide⟩)).1⟩

end Typesetting

end TexTranscript
