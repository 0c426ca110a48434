import TexTranscript.FilePath
import TexTranscript.Grammar.Basic
import TexTranscript.Text.Blank

/-!
# The bibliography tools

The grammars of BibTeX and of Biber.

BibTeX is done at a line of dashes or at the closing `(There were …)`. Biber
puts the level in front of everything it says, and is done when it names the
file it wrote to. Its own transcript is the one it announced, or, if it did not
announce any, the file it wrote to with the extension `blg`.

## Main definitions

* `Bibliography.bibtex`, `Bibliography.biber` – the two grammars.
-/

namespace TexTranscript

namespace Bibliography

/-! ## BibTeX -/

/-- What a statement of BibTeX says. -/
inductive BibtexFinding where
  | remark
  | warning
  | error
  | finished
deriving Repr, DecidableEq

/-- The rules of BibTeX. -/
def bibtexRules : List (Rule BibtexFinding) :=
  [.sign (.lit "Warning--") .warning,
   .sign (.lit "I found no \\" ++ .several .word ++ .lit " command") .error,
   .sign (.lit "I couldn't open style file") .error,
   .sign (.lit "You're missing a field name---line " ++ .group (.several .digit)) .error,
   .sign (.lit "Too many commas in name " ++ .several .digit ++ .lit " of") .error,
   .sign (.lit "I was expecting a") .error,
   .sign (.lit "This is BibTeX") .remark,
   .sign (.lit "The style") .remark,
   .sign (.lit "Database") .remark,
   .sign (.alt (.group (.lit "---"))
     (.group (.lit "(There were " ++ .many .any ++ .lit ")"))) .finished]

variable {ν : Type}

/-- What the parser does with a finding of BibTeX. -/
def reactToBibtex : BibtexFinding → Text → Unit → Reaction ν Unit
  | .remark, statement, _ => Reaction.info statement
  | .warning, statement, _ => Reaction.warning statement
  | .error, statement, _ => Reaction.error statement
  | .finished, _, _ => Reaction.finish

/-- **The grammar of BibTeX.** -/
def bibtex : Grammar Unit BibtexFinding ν where
  tool := .bibtex
  rules := bibtexRules
  start := ()
  react := reactToBibtex

/-! ## Biber -/

/-- What a statement of Biber says. -/
inductive BiberFinding where
  | remark
  /-- Biber announces its own transcript. -/
  | logfile (name : Text)
  | warning
  | error
  | fatal
  /-- Biber is done, and has written to a file. -/
  | output (path : Text)
deriving Repr, DecidableEq

/-- The rules of Biber. -/
def biberRules : List (Rule BiberFinding) :=
  [.sign (.lit "INFO - This is Biber") .remark,
   ⟨.lit "INFO - Logfile is '" ++ .group (.many .any) ++ .lit "'", fun
     | [name] => some (.logfile name)
     | _ => none⟩,
   .sign (.lit "WARN") .warning,
   .sign (.lit "ERROR") .error,
   .sign (.lit "FATAL") .fatal,
   ⟨.many .any ++ .lit "Output to " ++ .group (.many .any) ++ .atEnd, fun
     | [path] => some (.output path)
     | _ => none⟩]

/-- The transcript that belongs to the file Biber wrote to. -/
def transcriptOf (output : Text) : Text :=
  FilePath.withExtension (Text.trim output) "blg".toList

/-- What the parser does with a finding of Biber. It remembers the transcript
that was announced. -/
def reactToBiber : BiberFinding → Text → Option Text → Reaction ν (Option Text)
  | .remark, statement, announced => do
    Reaction.info statement
    return announced
  | .logfile name, statement, _ => do
    Reaction.info statement
    return some name
  | .warning, statement, announced => do
    Reaction.warning statement
    return announced
  | .error, statement, announced => do
    Reaction.error statement
    return announced
  | .fatal, statement, announced => do
    Reaction.fatal statement
    return announced
  | .output path, _, announced => do
    Reaction.say (.transcript (String.ofList (announced.getD (transcriptOf path))))
    Reaction.finish
    return none

/-- **The grammar of Biber.** -/
def biber : Grammar (Option Text) BiberFinding ν where
  tool := .biber
  rules := biberRules
  start := none
  react := reactToBiber

end Bibliography

end TexTranscript
