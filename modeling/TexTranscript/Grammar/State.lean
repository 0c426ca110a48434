import TexTranscript.Message

/-!
# The state of a parser

Between two statements a parser knows whether it is done, what it has counted,
which source file the tool is reading, and the marks of the messages it has
located. All of this changes by *entries* only, so that what a parse did to its
state can be read off the entries it made.

## Main definitions

* `ParseState` – the state.
* `ParseState.Entry`, `ParseState.record` – what can be entered into it.
-/

namespace TexTranscript

/-- **What a parser knows between two statements.** -/
structure ParseState where
  /-- The tool has said that it is done. -/
  done : Bool := false
  tally : Tally := {}
  /-- The source file that the tool entered last. -/
  currentFile : Option String := none
  marks : List Mark := []
deriving Repr, DecidableEq, Inhabited

namespace ParseState

/-- What can be entered into a state. -/
inductive Entry where
  | count (step : Tally.Step)
  | finish
  | enterFile (path : String)
  | addMark (mark : Mark)
  | replaceMarks (marks : List Mark)
deriving Repr, DecidableEq

/-- The counts of everything seen so far. -/
def outcome (s : ParseState) : Outcome := s.tally.total

/-- The state after an entry. -/
def record (s : ParseState) : Entry → ParseState
  | .count step => { s with tally := s.tally.record step }
  | .finish => { s with done := true }
  | .enterFile path => { s with currentFile := some path }
  | .addMark mark => { s with marks := s.marks ++ [mark] }
  | .replaceMarks marks => { s with marks := marks }

end ParseState

end TexTranscript
