import TexTranscript.Pattern.CharClass

/-!
# Patterns

A rule recognizes a statement by a pattern at its start. Patterns are the
regular expressions of the rule tables as a syntax tree; they are first-order
data, so that a table can be listed (`Pattern.source`), run (`Pattern.captures?`)
and reasoned about.

Repetition is over single characters of a class only. That is all the tables
need, and it makes the search for a match a recursion on the pattern.

## The search

A match is found by *leftmost-first* search: where a pattern can go on in
several ways it tries them in a fixed order – the left alternative before the
right one, a greedy repetition from the longest run downwards, a lazy one from
the empty run upwards – and the first way that lets the rest of the pattern
match is the match. The search is written with a continuation, which stands for
the rest of the pattern and answers `none` to refuse the way that was tried.

A match is only sought at the start of the text, and need not reach its end.

## Main definitions

* `Pattern` – the syntax.
* `Pattern.search` – the search, with a continuation.
-/

namespace TexTranscript

/-- A regular expression of a rule table. -/
inductive Pattern where
  /-- The given text. -/
  | literal (text : Text)
  /-- The given text, which did not come from a rule table but from outside. -/
  | quoted (text : Text)
  /-- One character of the class. -/
  | one (c : CharClass)
  /-- Any number of characters of the class, as many as possible. -/
  | many (c : CharClass)
  /-- One or more characters of the class, as many as possible. -/
  | several (c : CharClass)
  /-- Any number of characters of the class, as few as possible. -/
  | fewest (c : CharClass)
  /-- The pattern, or nothing if it cannot be matched. -/
  | optional (p : Pattern)
  /-- One pattern after the other. -/
  | seq (p q : Pattern)
  /-- The left pattern, or else the right one. -/
  | alt (p q : Pattern)
  /-- The pattern, whose text is captured. -/
  | group (p : Pattern)
  /-- The pattern, put in brackets that capture nothing. -/
  | bracket (p : Pattern)
  /-- The end of the text. -/
  | atEnd
deriving Repr, DecidableEq

namespace Pattern

instance : Append Pattern := ⟨seq⟩

/-- The literal pattern of a string. -/
def lit (s : String) : Pattern := literal s.toList

/-- The first of the patterns that can be matched. Of no pattern it is the
empty text, as it is of no text between two bars. -/
def firstOf : List Pattern → Pattern
  | [] => literal []
  | [p] => p
  | p :: q :: ps => alt p (firstOf (q :: ps))

/-- The text of a group, as what was left of the whole text where the group was
opened and where it was closed. -/
structure Span where
  opened : Text
  closed : Text
deriving Repr, DecidableEq

/-- The text between the two ends of a span. -/
def Span.text (s : Span) : Text := s.opened.take (s.opened.length - s.closed.length)

/-- **The text of a span** is what the closing end is short of. -/
theorem Span.text_append (captured rest : Text) :
    (Span.mk (captured ++ rest) rest).text = captured := by
  simp [Span.text]

/-- What can be left of a text after a run of characters of the class, the
longest run first, in front of `shorter`. -/
def backoffs (c : CharClass) : Text → List Text → List Text
  | [], shorter => [] :: shorter
  | x :: t, shorter =>
    if c.contains x then backoffs c t ((x :: t) :: shorter) else (x :: t) :: shorter

/-- What can be left of a text after a run of characters of the class, the
shortest run first. -/
def stops (c : CharClass) : Text → List Text
  | [] => [[]]
  | x :: t => (x :: t) :: if c.contains x then stops c t else []

/-- Tries the runs of characters of the class from the shortest on. -/
def searchFewest {α : Type} (c : CharClass) (k : Text → Option α) : Text → Option α
  | [] => k []
  | x :: t =>
    match k (x :: t) with
    | some a => some a
    | none => if c.contains x then searchFewest c k t else none

/-- Searches a text for a match of the pattern that the continuation accepts.
The continuation is given the groups that were closed so far, the latest first,
and what is left of the text. -/
def search {α : Type} :
    Pattern → (List Span → Text → Option α) → List Span → Text → Option α
  | literal s, k, spans, t => (Text.after? s t).bind (k spans)
  | quoted s, k, spans, t => (Text.after? s t).bind (k spans)
  | one c, k, spans, t =>
    match t with
    | [] => none
    | x :: t => if c.contains x then k spans t else none
  | many c, k, spans, t => (backoffs c t []).findSome? (k spans)
  | several c, k, spans, t =>
    match t with
    | [] => none
    | x :: t => if c.contains x then (backoffs c t []).findSome? (k spans) else none
  | fewest c, k, spans, t => searchFewest c (k spans) t
  | optional p, k, spans, t => search p k spans t <|> k spans t
  | seq p q, k, spans, t => search p (fun spans t => search q k spans t) spans t
  | alt p q, k, spans, t => search p k spans t <|> search q k spans t
  | group p, k, spans, t => search p (fun inner rest => k (⟨t, rest⟩ :: inner) rest) spans t
  | bracket p, k, spans, t => search p k spans t
  | atEnd, k, spans, t => if t.isEmpty then k spans t else none

/-- **The greedy order is the lazy order backwards.** Both repetitions try the
same ends of a run. -/
theorem backoffs_eq (c : CharClass) (t : Text) (shorter : List Text) :
    backoffs c t shorter = (stops c t).reverse ++ shorter := by
  induction t generalizing shorter with
  | nil => rfl
  | cons x t ih =>
    simp only [backoffs, stops]
    by_cases h : c.contains x
    · simp [h, ih]
    · simp [h]

/-- The lazy search is the first success along the ends of the runs. -/
theorem searchFewest_eq {α : Type} (c : CharClass) (k : Text → Option α) (t : Text) :
    searchFewest c k t = (stops c t).findSome? k := by
  induction t with
  | nil => cases h : k [] <;> simp [searchFewest, stops, List.findSome?, h]
  | cons x t ih =>
    simp only [searchFewest, stops, List.findSome?]
    cases k (x :: t) with
    | some a => rfl
    | none =>
      by_cases h : c.contains x
      · simp [h, ih]
      · simp [h]

end Pattern

end TexTranscript
