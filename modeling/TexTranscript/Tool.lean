/-!
# The tools

The seven programs whose console output can be parsed, with the two names each
of them goes by: the one it is called by, in lower case, and the one it gives
itself when it starts.

## Main definitions

* `Tool` – the tools.
* `Tool.name`, `Tool.displayName` – their names.
* `Tool.ofName?` – the tool with a name, in any mixture of cases.
-/

namespace TexTranscript

/-- A program whose console output can be parsed. -/
inductive Tool where
  | latex
  | bibtex
  | biber
  | makeindex
  | makeglossaries
  | chktex
  | latexmk
deriving Repr, DecidableEq, Inhabited

namespace Tool

/-- All tools. -/
def all : List Tool := [latex, bibtex, biber, makeindex, makeglossaries, chktex, latexmk]

/-- The name a tool is called by. -/
def name : Tool → String
  | latex => "latex"
  | bibtex => "bibtex"
  | biber => "biber"
  | makeindex => "makeindex"
  | makeglossaries => "makeglossaries"
  | chktex => "chktex"
  | latexmk => "latexmk"

/-- The name as the tool spells it itself. -/
def displayName : Tool → String
  | latex => "LaTeX"
  | bibtex => "BibTeX"
  | biber => "Biber"
  | makeindex => "Makeindex"
  | makeglossaries => "Make Glossaries"
  | chktex => "ChkTeX"
  | latexmk => "Latexmk"

/-- The tool of a name, which must be spelled exactly. -/
def ofExactName? (s : String) : Option Tool := all.find? (·.name == s)

/-- The two texts differ in the case of ASCII letters at most. -/
def sameLetters (s t : List Char) : Bool := s.map Char.toLower == t.map Char.toLower

/-- The tool of a name, in which the case of ASCII letters does not matter. -/
def ofName? (s : String) : Option Tool :=
  all.find? fun tool => sameLetters tool.name.toList s.toList

theorem mem_all (tool : Tool) : tool ∈ all := by cases tool <;> decide

/-- **A tool answers to its name.** -/
@[simp] theorem ofExactName?_name (tool : Tool) : ofExactName? tool.name = some tool := by
  cases tool <;> decide

@[simp] theorem ofName?_name (tool : Tool) : ofName? tool.name = some tool := by
  cases tool <;> decide

end Tool

end TexTranscript
