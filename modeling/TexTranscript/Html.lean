import TexTranscript.Link.Linker
import TexTranscript.Message

/-!
# Messages as HTML

A message is shown as a fragment of HTML: markup that depends on what kind of
message it is, and in between, in *holes*, the texts of the message. A text in a
hole is escaped, so that it can neither open nor close a tag nor leave the value of
an attribute, and can be read back exactly (`Html.unescape_escape`).

Names of files are links into an editor.

## Main definitions

* `Html` – fragments; `Html.text`, how they are written.
* `Html.escape`, `Html.unescape` – the text in a hole.
* `Message.html` – the fragment of a message.
-/

namespace TexTranscript

namespace Html

/-- A piece of a fragment. -/
inductive Piece where
  /-- Written as it is. -/
  | markup (tags : String)
  /-- Written with its special characters escaped. -/
  | hole (content : Text)
deriving Repr, DecidableEq

/-- What stands for a character in a hole. -/
def escapeChar : Char → Text
  | '&' => ['&', 'a', 'm', 'p', ';']
  | '<' => ['&', 'l', 't', ';']
  | '>' => ['&', 'g', 't', ';']
  | '"' => ['&', 'q', 'u', 'o', 't', ';']
  | c => [c]

/-- The text in a hole. -/
def escape (t : Text) : Text := t.flatMap escapeChar

/-- The text that the text in a hole stands for. -/
def unescape : Text → Text
  | '&' :: 'a' :: 'm' :: 'p' :: ';' :: t => '&' :: unescape t
  | '&' :: 'l' :: 't' :: ';' :: t => '<' :: unescape t
  | '&' :: 'g' :: 't' :: ';' :: t => '>' :: unescape t
  | '&' :: 'q' :: 'u' :: 'o' :: 't' :: ';' :: t => '"' :: unescape t
  | c :: t => c :: unescape t
  | [] => []

theorem escapeChar_eq_self {c : Char} (ha : c ≠ '&') (hl : c ≠ '<') (hg : c ≠ '>')
    (hq : c ≠ '"') : escapeChar c = [c] := by
  unfold escapeChar
  split <;> first | contradiction | rfl

/-- **What was put in a hole is read back**, whatever follows it. -/
theorem unescape_escapeChar_append (c : Char) (t : Text) :
    unescape (escapeChar c ++ t) = c :: unescape t := by
  by_cases ha : c = '&'
  · subst ha; rfl
  by_cases hl : c = '<'
  · subst hl; rfl
  by_cases hg : c = '>'
  · subst hg; rfl
  by_cases hq : c = '"'
  · subst hq; rfl
  rw [escapeChar_eq_self ha hl hg hq, List.singleton_append, unescape.eq_def]
  split
  case h_5 h => rw [(List.cons.inj h).1, (List.cons.inj h).2]
  case h_6 h => exact absurd h (List.cons_ne_nil _ _)
  all_goals next h => exact absurd (List.cons.inj h).1 ha

theorem unescape_escape (t : Text) : unescape (escape t) = t := by
  induction t with
  | nil => rfl
  | cons c t ih => rw [escape, List.flatMap_cons, unescape_escapeChar_append, ← escape, ih]

/-- A hole holds nothing that could end it. -/
theorem not_mem_escape {c : Char} (h : c = '<' ∨ c = '>' ∨ c = '"') (t : Text) :
    c ∉ escape t := by
  simp only [escape, List.mem_flatMap, not_exists, not_and]
  intro d _
  by_cases ha : d = '&'
  · subst ha; rcases h with rfl | rfl | rfl <;> decide
  by_cases hl : d = '<'
  · subst hl; rcases h with rfl | rfl | rfl <;> decide
  by_cases hg : d = '>'
  · subst hg; rcases h with rfl | rfl | rfl <;> decide
  by_cases hq : d = '"'
  · subst hq; rcases h with rfl | rfl | rfl <;> decide
  rw [escapeChar_eq_self ha hl hg hq, List.mem_singleton]
  rintro rfl
  rcases h with h | h | h <;> contradiction

/-- A piece as it is written. -/
def Piece.text : Piece → Text
  | markup tags => tags.toList
  | hole content => escape content

end Html

/-- **A fragment of HTML.** -/
abbrev Html := List Html.Piece

namespace Html

/-- A fragment as it is written. -/
def text (h : Html) : Text := h.flatMap Piece.text

/-- A fragment with empty holes. -/
def frame (h : Html) : Html := h.map fun
  | .markup tags => .markup tags
  | .hole _ => .hole []

/-- What is in the holes of a fragment. -/
def holes (h : Html) : List Text := h.filterMap fun
  | .markup _ => none
  | .hole content => some content

/-- A hole for a text. -/
def shown (s : String) : Html := [.hole s.toList]

/-- A fragment between two tags. -/
def within (first last : String) (h : Html) : Html := .markup first :: h ++ [.markup last]

/-- A paragraph of a class. -/
def paragraph (style : String) (h : Html) : Html := within s!"<p class=\"{style}\">" "</p>" h

/-- What is stressed. -/
def strong (s : String) : Html := within "<strong>" "</strong>" (shown s)

/-- A label that leads to a line of a file. -/
def anchor (l : Linker) (file : String) (line : UInt32) (label : String) : Html :=
  [.markup "<a href=\"", .hole (l.link file.toList line), .markup "\">"] ++ shown label ++
    [.markup "</a>"]

/-- The name of a file, which leads to its first line. -/
def fileAnchor (l : Linker) (file : String) : Html := anchor l file 1 file

/-- A warning or an error, behind the place that it is about. -/
def located (l : Linker) (style text : String) : Option Location → Html
  | some loc =>
    paragraph style
      (anchor l loc.file loc.line s!"{loc.file}:{loc.line}" ++ [.markup " "] ++ shown text)
  | none => paragraph style (shown text)

end Html

open Html in
/-- **The fragment of a message.** The section of a tool is opened by one message
and closed by another. -/
def Message.html (l : Linker) : Message → Html
  | .info text => paragraph "info" (shown text)
  | .warning text location => located l "warning" text location
  | .error text location => located l "error" text location
  | .fatal text => paragraph "error" (shown text)
  | .formatWarning text => paragraph "fmtWarning" (shown text)
  | .verbatim text => shown text
  | .excerpt lines => within "<pre>" "</pre>" (shown ("\n".intercalate lines))
  | .latexmk text => paragraph "ltxmk" (shown text)
  | .toolStarted tool banner =>
    [.markup s!"<div class=\"{tool.name}\">"] ++
      (if tool = .latex then [.markup "<hr>"] else []) ++ within "<h3>" "</h3>" (shown banner)
  | .toolFinished _ => [.markup "</div>"]
  | .toolVersion tool version =>
    paragraph "info"
      ([.markup s!"Run <strong>{tool.displayName}</strong>, version "] ++ shown version)
  | .fileEntered path => within "<h4>Processing: " "</h4>" (shown path)
  | .inclusion path => within "<ul><li>Including: " "</li></ul>" (shown path)
  | .progress description file status =>
    paragraph "info"
      (shown description ++ [.markup " "] ++ shown file ++ [.markup ": "] ++ strong status)
  | .sorting status => paragraph "info" ([.markup "Sorting entries: "] ++ strong status)
  | .artifact description path =>
    paragraph "info" (shown description ++ [.markup " "] ++ fileAnchor l path)
  | .transcript path => within "<p>Complete transcript is in " "</p>" (fileAnchor l path)
  | .glossaryType name files =>
    paragraph "info"
      ([.markup "Add Glossary Type "] ++ strong name ++ within "<i> (Files: " ")</i>" (shown files))
  | .xindyRun glossary language =>
    within "<h3>Run xindy for glossary type " "</h3>" (shown glossary) ++
      paragraph "info" ([.markup "Language: "] ++ shown language)
  | .glossaryFinished name path =>
    paragraph "info"
      ([.markup "Finished glossary for type "] ++ strong name ++ [.markup ". Output is in "] ++
        fileAnchor l path)
  | .abnormalTermination log =>
    paragraph "error"
      ([.markup "A fatal error occurred, log file is in "] ++ fileAnchor l log)
  | .runSummary _ errors warnings =>
    [.markup s!"<hr><p> {errors} Errors {warnings} Warnings in this run.</p>"]
  | .summary outcome runs =>
    paragraph "info"
      [.markup ((if outcome.fatal then "Fatal error. " else "") ++
        s!"Found {outcome.errors} errors, and {outcome.warnings} warnings in {runs} run" ++
        if runs = 1 then "" else "s")]

end TexTranscript
