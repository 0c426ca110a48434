import TexTranscript.Proofs.Encoding
import TexTranscript.Proofs.FileLineErrors
import TexTranscript.Proofs.PhysicalLines
import TexTranscript.Proofs.Setup

/-!
# Warnings that look ahead

A warning may be so long that its line number stands on the next line. The parser then looks at
that line as it is printed, without putting anything together, and uses it up whatever it says.
If the line gives a number, warning and line are reported as one, at that number of the file that
the engine is in; if it gives none, the line is lost.

A text gives a number where `input line ` is followed by digits, and they by a full stop or by
nothing. There may be several such places. The pattern seeks them with a lazy repetition, and so
finds the first one (`Typesetting.exists_of_captures_inputLine`).

## Main definitions

* `Typesetting.FirstLine` – the first line number that a text gives.
* `Typesetting.Reports` – how a warning is reported, given the next line.

## Main statements

* `Typesetting.wrapped_warning_lookahead` – what is done about a warning, and where the parse goes
  on.
-/

namespace TexTranscript

namespace Typesetting

/-! ## Where a text gives a line number -/

/-- The sentence ends here, or the text. -/
def AtSentenceEnd (rest : Text) : Prop := rest = [] ∨ rest.head? = some '.'

/-- **A text begins with a line number** of the input, at the end of a sentence. -/
def BeginsLine (text line : Text) : Prop :=
  IsNumber line ∧ ∃ rest, text = "input line ".toList ++ (line ++ rest) ∧ AtSentenceEnd rest

/-- **The first line number** that a text gives. -/
def FirstLine (text line : Text) : Prop :=
  ∃ before behind, text = before ++ behind ∧ BeginsLine behind line ∧
    ∀ before' behind' line', text = before' ++ behind' → BeginsLine behind' line' →
      before.length ≤ before'.length

variable {text line line' : Text}

/-- Digits do not go on at the end of a sentence. -/
theorem AtSentenceEnd.takeWhile_isDigit {rest : Text} (h : AtSentenceEnd rest) :
    rest.takeWhile Text.isDigit = [] := by
  rcases h with rfl | hdot
  · rfl
  · obtain ⟨rest', rfl⟩ := List.head?_eq_some_iff.1 hdot
    rfl

/-- A text begins with one line number at most: it is followed by no digit, so that the digits end
in one way. -/
theorem BeginsLine.unique (h : BeginsLine text line) (h' : BeginsLine text line') :
    line = line' := by
  obtain ⟨hnumber, rest, rfl, hrest⟩ := h
  obtain ⟨hnumber', rest', hsplit, hrest'⟩ := h'
  calc line
    _ = (line ++ rest).takeWhile Text.isDigit := by
      rw [List.takeWhile_append_of_pos hnumber.2, hrest.takeWhile_isDigit, List.append_nil]
    _ = (line' ++ rest').takeWhile Text.isDigit := by rw [List.append_cancel_left hsplit]
    _ = line' := by
      rw [List.takeWhile_append_of_pos hnumber'.2, hrest'.takeWhile_isDigit, List.append_nil]

/-- There is only one first number. Whichever place comes later, the other place forbids it. -/
theorem FirstLine.unique (h : FirstLine text line) (h' : FirstLine text line') : line = line' := by
  obtain ⟨before, behind, rfl, hbegins, hfirst⟩ := h
  obtain ⟨before', behind', hsplit, hbegins', hfirst'⟩ := h'
  have hlength := Nat.le_antisymm (hfirst _ _ _ hsplit hbegins') (hfirst' _ _ _ rfl hbegins)
  obtain ⟨-, rfl⟩ := List.append_inj hsplit hlength
  exact hbegins.unique hbegins'

/-! ## What the pattern finds -/

/-- A line number of the input, at the end of a sentence. -/
def place : Pattern := .lit "input line " ++ digits ++ sentenceEnd

/-- What is captured is a line number that the text begins with. -/
theorem exists_of_captures_place {groups : List Text} (h : place.captures? text = some groups) :
    ∃ line, groups = [line] ∧ BeginsLine text line := by
  obtain ⟨_, rest, rfl, _, dot, _, _, rfl, rfl, ⟨_, line, _, _, rfl, rfl, ⟨rfl, rfl⟩,
    ⟨_, rfl, hnumber, rfl⟩⟩, hend⟩ := Pattern.exists_matches_of_captures h
  rcases hend with ⟨rfl, rfl⟩ | ⟨⟨rfl, rfl⟩, rfl⟩
  · exact ⟨line, rfl, hnumber, '.' :: rest, by simp, .inr rfl⟩
  · exact ⟨line, rfl, hnumber, [], by simp, .inl rfl⟩

/-- A line number that a text begins with is found: its digits are all that the run can take. -/
theorem isSome_captures_place (h : BeginsLine text line) :
    (place.captures? text).isSome = true := by
  obtain ⟨hnumber, rest, rfl, hrest⟩ := h
  have hline : (Pattern.lit "input line " ++ digits).Matches ("input line ".toList ++ line) [line]
      rest := ⟨_, line, [], [line], rfl, rfl, ⟨rfl, rfl⟩, [], rfl, hnumber, rfl⟩
  rcases hrest with rfl | hdot
  · have hplace : place.Matches ("input line ".toList ++ line) [line] [] :=
      ⟨_, [], [line], [], (List.append_nil _).symm, rfl, hline, .inr ⟨⟨rfl, rfl⟩, rfl⟩⟩
    have hsome := hplace.isSome_captures
    rwa [List.append_assoc] at hsome
  · obtain ⟨rest, rfl⟩ := List.head?_eq_some_iff.1 hdot
    have hplace : place.Matches ("input line ".toList ++ line ++ ['.']) [line] rest :=
      ⟨_, ['.'], [line], [], rfl, rfl, hline, .inl ⟨rfl, rfl⟩⟩
    have hsome := hplace.isSome_captures
    rwa [List.append_assoc, List.append_assoc] at hsome

/-- The search for a line number tries one place after the other. -/
theorem captures?_inputLine (text : Text) : inputLine.captures? text
    = Pattern.searchFewest .any (fun behind => place.captures? behind) text := by
  simp only [Pattern.captures?_eq_search]
  rfl

/-- **The pattern finds the first number** that a text gives. The search fails at every earlier
place, where a line number would have been found. -/
theorem exists_of_captures_inputLine {groups : List Text}
    (h : inputLine.captures? text = some groups) :
    ∃ line, groups = [line] ∧ FirstLine text line := by
  rw [captures?_inputLine] at h
  obtain ⟨before, behind, rfl, -, hplace, hshorter⟩ := Pattern.searchFewest_eq_some_iff.1 h
  obtain ⟨line, rfl, hbegins⟩ := exists_of_captures_place hplace
  refine ⟨line, rfl, before, behind, rfl, hbegins, fun before' behind' line' hsplit hbegins' => ?_⟩
  -- a place further in front would have been found
  by_contra hlt
  rcases List.append_eq_append_iff.1 hsplit with ⟨more, rfl, -⟩ | ⟨more, rfl, rfl⟩
  · exact hlt (by rw [List.length_append]; exact Nat.le_add_right _ _)
  · have hsome := isSome_captures_place hbegins'
    rw [hshorter before' more rfl fun hnil => hlt (by rw [hnil, List.append_nil])] at hsome
    exact Bool.false_ne_true hsome

/-- **The pattern finds a number** if one line of the text gives one; line feeds in front of it
would stop the search. -/
theorem isSome_captures_inputLine {before behind : Text} (hline : '\n' ∉ before)
    (h : BeginsLine behind line) : (inputLine.captures? (before ++ behind)).isSome = true := by
  rw [captures?_inputLine, ← Option.ne_none_iff_isSome, Ne, Pattern.searchFewest_eq_none_iff]
  intro hnone
  have hsome := isSome_captures_place h
  rw [hnone before behind rfl (CharClass.forall_except_iff.2 hline)] at hsome
  exact Bool.false_ne_true hsome

/-- What is found is the first line number of the text, as a number. -/
theorem exists_firstLine {n : UInt32} (h : inputLine? text = some n) :
    ∃ line, FirstLine text line ∧ lineNumber line = n := by
  unfold inputLine? at h
  split at h
  · next line hgroups =>
    obtain ⟨line', hline, hfirst⟩ := exists_of_captures_inputLine hgroups
    obtain rfl : line = line' := (List.cons.inj hline).1
    exact ⟨line, hfirst, Option.some.inj h⟩
  · exact absurd h.symm (Option.some_ne_none n)

/-- Where no number is found, there is none at any place of the text. -/
theorem not_beginsLine {before behind : Text} (hline : '\n' ∉ before ++ behind)
    (h : inputLine? (before ++ behind) = none) : ¬BeginsLine behind line := by
  intro hbegins
  have hfront : '\n' ∉ before := fun hc => hline (List.mem_append_left _ hc)
  obtain ⟨groups, hgroups⟩ :=
    Option.isSome_iff_exists.1 (isSome_captures_inputLine hfront hbegins)
  obtain ⟨found, rfl, -⟩ := exists_of_captures_inputLine hgroups
  unfold inputLine? at h
  rw [hgroups] at h
  exact Option.some_ne_none _ h

/-! ## What is done about a warning -/

/-- **How a warning is reported**, given what the next line says, if there is one. -/
inductive Reports (file : String) (statement : Text) :
    Option Text → Text → Option Location → Prop
  /-- Warning and line are one, and the first number of the line is that of the warning. -/
  | located {next line : Text} (h : FirstLine next line) :
      Reports file statement (some next) (statement ++ ' ' :: next) (some ⟨file, lineNumber line⟩)
  /-- There is no line, or it gives no number. -/
  | unlocated {next? : Option Text}
      (h : ∀ before behind line, next? = some (before ++ behind) → ¬BeginsLine behind line) :
      Reports file statement next? statement none

/-- **There is one way** to report a warning. The cases exclude each other by what the next line
gives. -/
theorem Reports.unique {file : String} {statement said said' : Text} {next? : Option Text}
    {location location' : Option Location} (h : Reports file statement next? said location)
    (h' : Reports file statement next? said' location') : said = said' ∧ location = location' := by
  cases h with
  | located hfirst =>
    cases h' with
    | located hfirst' => exact ⟨rfl, by rw [hfirst.unique hfirst']⟩
    | unlocated hnone =>
      obtain ⟨before, behind, rfl, hbegins, -⟩ := hfirst
      exact absurd hbegins (hnone _ _ _ rfl)
  | unlocated hnone =>
    cases h' with
    | located hfirst' =>
      obtain ⟨before, behind, rfl, hbegins, -⟩ := hfirst'
      exact absurd hbegins (hnone _ _ _ rfl)
    | unlocated => exact ⟨rfl, rfl⟩

variable {R : Type} [LineSource R] {ν : Type}

/-- **One line is used up**, and one warning is reported. The cases are those of the reaction: there
is no line left, the line gives a number, or it gives none. -/
theorem reactToWrapped_run (master statement : Text) (verbose : Bool) (s : Scope R)
    (hlines : ∀ l ∈ LineSource.lines s.unread, '\n' ∉ l.text) :
    ∃ text location,
      Reports (s.state.currentFile.getD (String.ofList (sourceName master))) statement
        ((LineSource.lines s.unread).head?.map Line.text) text location ∧
      ((reactToWrapped master statement : Reaction ν Unit).run verbose s).2.log
        = s.log.perform (.problem .warning text location false) ∧
      LineSource.lines ((reactToWrapped master statement : Reaction ν Unit).run verbose s).2.unread
        = (LineSource.lines s.unread).tail := by
  have hrun : (reactToWrapped master statement : Reaction ν Unit).run verbose s = _ :=
    Reaction.run_nextLine_bind verbose _ s
  have hleft := (LineSource.takeLine_spec s.unread).2
  rw [hrun]
  cases hls : LineSource.lines s.unread with
  | nil =>
    rw [hls] at hleft
    exact ⟨statement, none, .unlocated nofun, Reaction.log_run_warning verbose _ _, hleft⟩
  | cons l ls =>
    rw [hls] at hleft
    have hline : '\n' ∉ l.text := hlines l (hls ▸ List.mem_cons_self)
    dsimp only [List.head?_cons, Option.map_some]
    cases hn : inputLine? l.text with
    | none =>
      refine ⟨statement, none, .unlocated fun before behind line hnext => ?_,
        Reaction.log_run_warning verbose _ _, hleft⟩
      obtain hsplit : l.text = before ++ behind := Option.some.inj hnext
      rw [hsplit] at hline hn
      exact not_beginsLine hline hn
    | some n =>
      obtain ⟨line, hfirst, rfl⟩ := exists_firstLine hn
      exact ⟨_, _, .located hfirst, Reaction.log_run_locatedWarning (ν := ν) verbose _ _ _, hleft⟩

/-- **A warning without a line number looks ahead.** Let a statement be a warning whose line number
may stand on the next line, in a transcript that is parsed as what an engine printed. Then the next
line is used up, if there is one, as it is printed; the statement after it begins with the line
behind it. One warning is said, marked if it is located, and counted, and nothing else is done: the
warning goes together with the line, at the first line number that this gives, of the file that the
engine is in, or it stands alone and without a location if the line gives none. The reaction is run
once, and the source says what it has in front of and behind the line. -/
theorem wrapped_warning_lookahead {master statement : Text}
    {p : Grammar.Position LineReader Unit} {behind : LineReader} (verbose : Bool)
    (hdone : p.scope.state.done = false)
    (hn : LineSource.takeStatement p.scope.unread = (some statement, behind))
    (hc : (engine master).classify statement = some .wrappedWarning) :
    let next := (engine master).dispatch verbose statement (p.withUnread behind)
    ∃ text location,
      Reports (p.scope.state.currentFile.getD (String.ofList (sourceName master))) statement
        ((LineSource.lines behind).head?.map Line.text) text location ∧
      (engine master).turns verbose p
        = ⟨statement, [.warning (String.ofList text) location]⟩ ::
          (engine master).turns verbose next ∧
      (engine master).consume verbose p = (engine master).consume verbose next ∧
      next.scope.log = p.scope.log.perform (.problem .warning text location false) ∧
      LineSource.lines next.scope.unread = (LineSource.lines behind).tail ∧
      (LineSource.takeStatement next.scope.unread).map id LineSource.lines
        = Statement.take (LineSource.lines behind).tail := by
  intro next
  have hdispatch : next = (p.withUnread behind).follow verbose
      (reactToWrapped master statement : Reaction Unit Unit) := by
    show (engine master).dispatch verbose statement (p.withUnread behind) = _
    unfold Grammar.dispatch
    rw [hc]
    rfl
  obtain ⟨text, location, hreports, hlog, hleft⟩ := reactToWrapped_run (ν := Unit) master statement
    verbose (p.withUnread behind).scope fun l hl => LineReader.lineFeed_notMem_text hl
  have hlog : next.scope.log = p.scope.log.perform (.problem .warning text location false) := by
    rw [hdispatch]
    exact hlog
  have hleft : LineSource.lines next.scope.unread = (LineSource.lines behind).tail := by
    rw [hdispatch]
    exact hleft
  have hsaid : (engine master).turn verbose statement (p.withUnread behind)
      = ⟨statement, [.warning (String.ofList text) location]⟩ :=
    congrArg (Turn.mk statement) (Grammar.said_eq (congrArg Log.messages hlog))
  have hopen : ¬p.scope.state.done = true := by rw [hdone]; exact Bool.false_ne_true
  refine ⟨text, location, hreports, ?_, Grammar.consume_of_some _ verbose hopen hn, hlog, hleft, ?_⟩
  · rw [Grammar.turns_of_some hopen hn, hsaid]
  · rw [LineSource.lines_takeStatement, hleft]

/-- The line behind the warning is broken off at the full width. It is used up without the one that
continues it. -/
theorem wrapped_warning_lookahead_fullWidth :
    let x : Text := "input line 7. ".toList ++ List.replicate 65 'a'
    let source := LineReader.ofBytes
      (Utf8.encode ("LaTeX Warning: A\n".toList ++ x ++ "\nB".toList))
    let p := (engine "main.tex".toList).begin source
    let behind := (LineSource.takeStatement source).2
    p.scope.state.done = false ∧
      LineSource.takeStatement p.scope.unread = (some "LaTeX Warning: A".toList, behind) ∧
      (engine "main.tex".toList).classify "LaTeX Warning: A".toList = some .wrappedWarning ∧
      ((engine "main.tex".toList).dispatch false "LaTeX Warning: A".toList
          (p.withUnread behind)).scope.log.messages
        = [.warning (String.ofList ("LaTeX Warning: A".toList ++ ' ' :: x))
            (some ⟨"main.tex", 7⟩)] := by
  intro x source p behind
  have hlines : LineSource.lines source = [⟨Utf8.encode "LaTeX Warning: A".toList, true⟩,
      ⟨Utf8.encode x, true⟩, ⟨Utf8.encode ['B'], false⟩] := by
    rw [LineReader.lines_ofBytes]
    decide +kernel
  have htake := LineSource.lines_takeStatement source
  rw [hlines] at htake
  have hn : LineSource.takeStatement p.scope.unread = (some "LaTeX Warning: A".toList, behind) := by
    refine Prod.ext ((congrArg Prod.fst htake).trans ?_) rfl
    exact congrArg some (Utf8.decodeLossy_encode _)
  have hbehind : LineSource.lines behind = [⟨Utf8.encode x, true⟩, ⟨Utf8.encode ['B'], false⟩] :=
    congrArg Prod.snd htake
  have hc : (engine "main.tex".toList).classify "LaTeX Warning: A".toList
      = some .wrappedWarning := by
    decide
  obtain ⟨text, location, hreports, -, -, hlog, -⟩ := wrapped_warning_lookahead false rfl hn hc
  have hfirst : FirstLine x ['7'] := by
    refine ⟨[], x, rfl, ⟨by decide, ". ".toList ++ List.replicate 65 'a', rfl, .inr rfl⟩, ?_⟩
    exact fun _ _ _ _ _ => Nat.zero_le _
  rw [hbehind] at hreports
  change Reports _ _ (some (Utf8.decodeLossy (Utf8.encode x))) _ _ at hreports
  rw [Utf8.decodeLossy_encode] at hreports
  obtain ⟨rfl, rfl⟩ := hreports.unique (.located hfirst)
  exact ⟨rfl, hn, hc, congrArg Log.messages hlog⟩

end Typesetting

end TexTranscript
