/-!
# Text

A text is a list of characters. Everything that is read off a transcript –
statements, captured names, paths – is handled as such a list, so that a rule
about it is a recursion on the list, and becomes a `String` only when it is put
into a message.

This module holds the few searches and cuts that the grammars need: whether a
text begins with or contains another one, what follows a given beginning, and
the pieces between the occurrences of one character.

## Main definitions

* `Text.after?` – what follows a given beginning.
* `Text.hasPart` – one text occurs in another.
* `Text.pieces` – the pieces between the occurrences of a character.
* `Text.afterLast` – what follows the last occurrence of a character.
* `Text.stripAround` – a text without the copies of a character around it.
-/

namespace TexTranscript

/-- A text, character by character. -/
abbrev Text := List Char

namespace Text

/-- What follows the beginning `start` in a text; `none` when the text does not
begin with it. -/
def after? : Text → Text → Option Text
  | [], t => some t
  | _ :: _, [] => none
  | c :: start, d :: t => if c = d then after? start t else none

/-- The text begins with `start`. -/
def startsWith (start t : Text) : Bool := (after? start t).isSome

/-- The text `part` occurs somewhere in a text. -/
def hasPart (part : Text) : Text → Bool
  | [] => startsWith part []
  | c :: t => startsWith part (c :: t) || hasPart part t

/-- The pieces between the occurrences of `sep`: one more than there are
occurrences, so that an empty text is one empty piece. -/
def pieces (sep : Char) : Text → List Text
  | [] => [[]]
  | c :: t =>
    if c = sep then [] :: pieces sep t
    else match pieces sep t with
      | [] => [[c]]
      | p :: ps => (c :: p) :: ps

/-- What follows the last occurrence of `sep`, or the whole text when it does
not occur. -/
def afterLast (sep : Char) (t : Text) : Text :=
  (t.reverse.takeWhile (· != sep)).reverse

/-- A text without the characters that satisfy `p` at its two ends. -/
def stripBy (p : Char → Bool) (t : Text) : Text :=
  ((t.dropWhile p).reverse.dropWhile p).reverse

/-- A text without the copies of `c` at its two ends. -/
def stripAround (c : Char) (t : Text) : Text := stripBy (· == c) t

/-- What is put between the texts of a list. -/
def join (sep : Text) (ts : List Text) : Text := (ts.intersperse sep).flatten

@[simp] theorem after?_nil (t : Text) : after? [] t = some t := by
  cases t <;> rfl

/-- **A beginning is cut off exactly.** A text has a rest after `start` just
when it is `start` followed by that rest. -/
theorem after?_eq_some_iff {start t rest : Text} :
    after? start t = some rest ↔ t = start ++ rest := by
  induction start generalizing t with
  | nil => simp [eq_comm]
  | cons c start ih =>
    cases t with
    | nil => simp [after?]
    | cons d t =>
      by_cases h : c = d
      · simp [after?, h, ih]
      · simp [after?, h, Ne.symm h]

@[simp] theorem startsWith_append (start rest : Text) :
    startsWith start (start ++ rest) = true := by
  simp [startsWith, after?_eq_some_iff.2 rfl]

/-- A text begins with another one just when some rest completes it. -/
theorem startsWith_iff {start t : Text} :
    startsWith start t = true ↔ ∃ rest, t = start ++ rest := by
  simp [startsWith, Option.isSome_iff_exists, after?_eq_some_iff]

/-- **Occurring is standing between two texts.** -/
theorem hasPart_iff {part t : Text} :
    hasPart part t = true ↔ ∃ before rest, t = before ++ part ++ rest := by
  induction t with
  | nil =>
    simp only [hasPart, startsWith_iff]
    constructor
    · rintro ⟨rest, h⟩
      exact ⟨[], rest, by simpa using h⟩
    · rintro ⟨before, rest, h⟩
      simp only [List.append_assoc, List.nil_eq, List.append_eq_nil_iff] at h
      exact ⟨[], by simp [h.2.1]⟩
  | cons c t ih =>
    simp only [hasPart, Bool.or_eq_true, startsWith_iff, ih]
    constructor
    · rintro (⟨rest, h⟩ | ⟨before, rest, h⟩)
      · exact ⟨[], rest, by simpa using h⟩
      · exact ⟨c :: before, rest, by simp [h]⟩
    · rintro ⟨before, rest, h⟩
      cases before with
      | nil => exact Or.inl ⟨rest, by simpa using h⟩
      | cons d before =>
        simp only [List.cons_append, List.cons.injEq] at h
        exact Or.inr ⟨before, rest, h.2⟩

theorem pieces_ne_nil (sep : Char) (t : Text) : pieces sep t ≠ [] := by
  cases t with
  | nil => simp [pieces]
  | cons c t =>
    simp only [pieces]
    split
    · simp
    · split <;> simp

/-- **Nothing but the separators is lost** when a text is cut into pieces. -/
theorem join_pieces (sep : Char) (t : Text) : join [sep] (pieces sep t) = t := by
  induction t with
  | nil => rfl
  | cons c t ih =>
    simp only [pieces]
    obtain ⟨p, ps, hp⟩ := List.exists_cons_of_ne_nil (pieces_ne_nil sep t)
    rw [hp] at ih ⊢
    by_cases h : c = sep
    · subst h
      simp only [if_true]
      simpa [join] using ih
    · simp only [if_neg h]
      cases ps with
      | nil => simpa [join] using ih
      | cons q qs => simpa [join] using ih

end Text

end TexTranscript
