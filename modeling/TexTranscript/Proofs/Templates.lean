import TexTranscript.Html

/-!
# Messages as templates

What a message is shown as is a *template* with holes. The template is known from
the *outline* of the message – which message it is, its tool, whether it has a
location, its numbers – and nothing that is said in a message can change it: a text
is escaped before it is put into its hole, and what was escaped holds nothing that
could end the hole, though it can be read back.

So whoever reads the tags off what is written, character by character and without
knowing of any template, finds the same ones for all messages of one outline. Such
a reader is in one *mode* or another between two characters. A hole is only found
where the reader passes over it: between two tags, or within the value of an
attribute that is not looked at.

## Main definitions

* `Html.fill` – a fragment with its holes filled.
* `Html.IsContained` – what a text does that stays in its hole.
* `Message.outline`, `Message.template`, `Message.shownTexts` – what a message is shown as.
* `Html.tokens` – the tags in a text, with the names of their attributes and their classes.

## Main statements

* `Html.isContained_escape` – what was escaped stays in its hole.
* `Message.frame_html`, `Message.holes_html` – a message is shown as its template, with its
  texts in the holes.
* `Html.scan_text` – a reader of tags passes over the holes.
* `html_contains_text` – no text of a message has a say in its markup.
-/

namespace TexTranscript

namespace Html

/-! ## Holes -/

/-- **A fragment with its holes filled**, one after the other, with texts as they are. -/
def fill : Html → List Text → Text
  | [], _ => []
  | .markup tags :: h, ts => tags.toList ++ fill h ts
  | .hole _ :: h, t :: ts => t ++ fill h ts
  | .hole _ :: h, [] => fill h []

/-- A fragment is written with what is in its holes, escaped. -/
theorem text_eq_fill (h : Html) : h.text = h.frame.fill (h.holes.map escape) := by
  induction h with
  | nil => rfl
  | cons p h ih =>
    cases p with
    | markup tags => exact congrArg (tags.toList ++ ·) ih
    | hole content => exact congrArg (escape content ++ ·) ih

/-- The template of a fragment has as many holes. -/
theorem length_holes_frame (h : Html) : h.frame.holes.length = h.holes.length := by
  induction h with
  | nil => rfl
  | cons p h ih =>
    cases p with
    | markup tags => exact ih
    | hole content => exact congrArg (· + 1) ih

/-- What stands for a character that would mean something else. -/
def entities : List Text := ["&amp;", "&lt;", "&gt;", "&quot;"].map String.toList

/-- **The text stays in its hole**: it holds nothing that begins or ends a tag or the value of
an attribute, and every ampersand in it begins one of the entities. -/
structure IsContained (x : Text) : Prop where
  noLess : '<' ∉ x
  noGreater : '>' ∉ x
  noQuote : '"' ∉ x
  entity : ∀ rest, '&' :: rest <:+ x → ∃ e ∈ entities, e <+: '&' :: rest

/-- A character stands for itself, or an entity stands for it. -/
theorem escapeChar_cases (c : Char) :
    (c ≠ '&' ∧ escapeChar c = [c]) ∨
      ∃ name, '&' ∉ name ∧ escapeChar c = '&' :: name ∧ '&' :: name ∈ entities := by
  unfold escapeChar
  split
  · exact Or.inr ⟨_, by decide, rfl, by decide⟩
  · exact Or.inr ⟨_, by decide, rfl, by decide⟩
  · exact Or.inr ⟨_, by decide, rfl, by decide⟩
  · exact Or.inr ⟨_, by decide, rfl, by decide⟩
  · next ha _ _ _ => exact Or.inl ⟨fun h => ha h, rfl⟩

/-- What begins with a character does not begin where the character is missing. -/
theorem suffix_of_suffix_append {c : Char} {rest x y : Text} (hx : c ∉ x)
    (h : c :: rest <:+ x ++ y) : c :: rest <:+ y := by
  induction x with
  | nil => exact h
  | cons d x ih =>
    rw [List.mem_cons, not_or] at hx
    rw [List.cons_append, List.suffix_cons_iff] at h
    rcases h with heq | hsuffix
    · exact absurd (List.cons.inj heq).1 hx.1
    · exact ih hx.2 hsuffix

/-- **Every ampersand begins an entity** in what was escaped. The induction is on the text; an
ampersand that is left belongs to one of its characters. -/
theorem entity_of_suffix_escape {t rest : Text} (h : '&' :: rest <:+ escape t) :
    ∃ e ∈ entities, e <+: '&' :: rest := by
  induction t with
  | nil => exact absurd (List.suffix_nil.1 h) (List.cons_ne_nil '&' rest)
  | cons c t ih =>
    have hsplit : '&' :: rest <:+ escapeChar c ++ escape t := h
    rcases escapeChar_cases c with ⟨hc, hself⟩ | ⟨name, hname, hentity, hmem⟩
    · have hno : '&' ∉ escapeChar c := by
        rw [hself, List.mem_singleton]
        exact hc.symm
      exact ih (suffix_of_suffix_append hno hsplit)
    · rw [hentity, List.cons_append, List.suffix_cons_iff] at hsplit
      rcases hsplit with heq | hsuffix
      · -- this is the ampersand of the character itself
        rw [heq]
        exact ⟨'&' :: name, hmem, escape t, rfl⟩
      · exact ih (suffix_of_suffix_append hname hsuffix)

/-- **What was escaped stays in its hole.** -/
theorem isContained_escape (t : Text) : IsContained (escape t) where
  noLess := not_mem_escape (.inl rfl) t
  noGreater := not_mem_escape (.inr (.inl rfl)) t
  noQuote := not_mem_escape (.inr (.inr rfl)) t
  entity _ := entity_of_suffix_escape

end Html

/-! ## Outlines -/

namespace Message

open Html

/-- **The outline of a message**: the message without what is said in it. What is left is which
message it is, its tool, whether it has a location, and its numbers. -/
def outline : Message → Message
  | info _ => info ""
  | warning _ location => warning "" (location.map fun _ => default)
  | error _ location => error "" (location.map fun _ => default)
  | fatal _ => fatal ""
  | formatWarning _ => formatWarning ""
  | verbatim _ => verbatim ""
  | excerpt _ => excerpt []
  | latexmk _ => latexmk ""
  | toolStarted tool _ => toolStarted tool ""
  | toolFinished tool => toolFinished tool
  | toolVersion tool _ => toolVersion tool ""
  | fileEntered _ => fileEntered ""
  | inclusion _ => inclusion ""
  | progress _ _ _ => progress "" "" ""
  | sorting _ => sorting ""
  | artifact _ _ => artifact "" ""
  | transcript _ => transcript ""
  | glossaryType _ _ => glossaryType "" ""
  | xindyRun _ _ => xindyRun "" ""
  | glossaryFinished _ _ => glossaryFinished "" ""
  | abnormalTermination _ => abnormalTermination ""
  | runSummary run errors warnings => runSummary run errors warnings
  | summary outcome runs => summary outcome runs

/-- **The template of a message**, which is that of its outline. -/
def template (m : Message) : Html := (m.outline.html .standard).frame

/-- A link to a line of a file, and the label that leads there. -/
def anchorTexts (l : Linker) (file : String) (line : UInt32) (label : String) : List Text :=
  [l.link file.toList line, label.toList]

/-- A text, behind the link and the label of the place that it is about. -/
def locatedTexts (l : Linker) (text : String) : Option Location → List Text
  | some loc => anchorTexts l loc.file loc.line s!"{loc.file}:{loc.line}" ++ [text.toList]
  | none => [text.toList]

/-- **What is shown of a message**, in the order of its holes. -/
def shownTexts (l : Linker) : Message → List Text
  | info text => [text.toList]
  | warning text location => locatedTexts l text location
  | error text location => locatedTexts l text location
  | fatal text => [text.toList]
  | formatWarning text => [text.toList]
  | verbatim text => [text.toList]
  | excerpt lines => [("\n".intercalate lines).toList]
  | latexmk text => [text.toList]
  | toolStarted _ banner => [banner.toList]
  | toolFinished _ => []
  | toolVersion _ version => [version.toList]
  | fileEntered path => [path.toList]
  | inclusion path => [path.toList]
  | progress description file status => [description.toList, file.toList, status.toList]
  | sorting status => [status.toList]
  | artifact description path => description.toList :: anchorTexts l path 1 path
  | transcript path => anchorTexts l path 1 path
  | glossaryType name files => [name.toList, files.toList]
  | xindyRun glossary language => [glossary.toList, language.toList]
  | glossaryFinished name path => name.toList :: anchorTexts l path 1 path
  | abnormalTermination log => anchorTexts l log 1 log
  | runSummary _ _ _ => []
  | summary _ _ => []

/-- **A message is shown as its template**, whatever the linker is. -/
theorem frame_html (l : Linker) (m : Message) : (m.html l).frame = m.template := by
  cases m with
  | warning text location =>
    cases location with
    | none => rfl
    | some loc => rfl
  | error text location =>
    cases location with
    | none => rfl
    | some loc => rfl
  | toolStarted tool banner => cases tool <;> rfl
  | _ => rfl

/-- **The holes of what a message is shown as** hold its texts, in their order. -/
theorem holes_html (l : Linker) (m : Message) : (m.html l).holes = m.shownTexts l := by
  cases m with
  | warning text location =>
    cases location with
    | none => rfl
    | some loc => rfl
  | error text location =>
    cases location with
    | none => rfl
    | some loc => rfl
  | toolStarted tool banner => cases tool <;> rfl
  | _ => rfl

end Message

/-! ## Tags -/

namespace Html

/-- What is read off tags. -/
inductive Token where
  /-- The name of a tag, with the slash of a last tag. -/
  | tag (name : Text)
  | attribute (name : Text)
  /-- The value of a class attribute. -/
  | style (value : Text)
deriving Repr, DecidableEq

/-- **Where a reader of tags is** between two characters, with what was read so far. -/
inductive Mode where
  | betweenTags
  | inTagName (name : Text)
  | inAttributeName (name : Text)
  /-- Behind the equals sign of an attribute, which is a class or not. -/
  | beforeValue (isClass : Bool)
  /-- Within the value of a class attribute. -/
  | inClass (value : Text)
  /-- Within the value of any other attribute. -/
  | inValue
deriving Repr, DecidableEq

/-- The name of an attribute, if there is one. -/
def attributeToken (name : Text) : List Token := if name = [] then [] else [.attribute name]

/-- What a reader of tags makes of a character. -/
def Mode.step : Mode → Char → List Token × Mode
  | betweenTags, c => if c = '<' then ([], inTagName []) else ([], betweenTags)
  | inTagName name, c =>
    if c = '>' then ([.tag name], betweenTags)
    else if c = ' ' then ([.tag name], inAttributeName [])
    else ([], inTagName (name ++ [c]))
  | inAttributeName name, c =>
    if c = '>' then (attributeToken name, betweenTags)
    else if c = ' ' then (attributeToken name, inAttributeName [])
    else if c = '=' then (attributeToken name, beforeValue (name = "class".toList))
    else ([], inAttributeName (name ++ [c]))
  | beforeValue isClass, c =>
    if c = '"' then ([], if isClass then inClass [] else inValue) else ([], beforeValue isClass)
  | inClass value, c =>
    if c = '"' then ([.style value], inAttributeName []) else ([], inClass (value ++ [c]))
  | inValue, c => if c = '"' then ([], inAttributeName []) else ([], inValue)

/-- What a reader of tags makes of a text. -/
def scan (mode : Mode) : Text → List Token × Mode
  | [] => ([], mode)
  | c :: t => ((mode.step c).1 ++ (scan (mode.step c).2 t).1, (scan (mode.step c).2 t).2)

/-- **The tags in a text**, with the names of their attributes and their classes. -/
def tokens (t : Text) : List Token := (scan .betweenTags t).1

/-- A reader of tags can stop between two texts and go on. -/
theorem scan_append (mode : Mode) (x y : Text) :
    scan mode (x ++ y)
      = ((scan mode x).1 ++ (scan (scan mode x).2 y).1, (scan (scan mode x).2 y).2) := by
  induction x generalizing mode with
  | nil => rfl
  | cons c x ih =>
    rw [List.cons_append, scan, ih]
    simp only [scan, List.append_assoc]

/-- A reader in this mode passes over what stays in a hole. -/
def Mode.passesOver : Mode → Bool
  | betweenTags => true
  | inValue => true
  | _ => false

/-- **A hole is passed over** by a reader that is between two tags or in a value. -/
theorem scan_of_isContained {mode : Mode} (hm : mode.passesOver = true) {x : Text}
    (hx : IsContained x) : scan mode x = ([], mode) := by
  obtain ⟨hless, -, hquote, -⟩ := hx
  induction x with
  | nil => rfl
  | cons c x ih =>
    rw [List.mem_cons, not_or] at hless hquote
    have hstep : mode.step c = ([], mode) := by
      cases mode with
      | betweenTags => exact if_neg (Ne.symm hless.1)
      | inValue => exact if_neg (Ne.symm hquote.1)
      | _ => exact Bool.noConfusion hm
    rw [scan, hstep, ih hless.2 hquote.2]
    rfl

/-- A reader of tags that begins in some mode passes over all holes of a fragment. -/
def passesHoles : Mode → Html → Bool
  | _, [] => true
  | mode, .markup tags :: h => passesHoles (scan mode tags.toList).2 h
  | mode, .hole _ :: h => mode.passesOver && passesHoles mode h

/-- **A reader of tags that passes over the holes** finds the same as if they were empty, since a
hole leaves it where it was. -/
theorem scan_text {mode : Mode} {h : Html} (hp : passesHoles mode h = true) :
    scan mode h.text = scan mode h.frame.text := by
  induction h generalizing mode with
  | nil => rfl
  | cons p h ih =>
    cases p with
    | markup tags =>
      show scan mode (tags.toList ++ text h) = scan mode (tags.toList ++ text (frame h))
      rw [scan_append, scan_append, ih hp]
    | hole content =>
      obtain ⟨hm, hrest⟩ := Bool.and_eq_true_iff.1 hp
      show scan mode (escape content ++ text h) = scan mode (text (frame h))
      rw [scan_append, scan_of_isContained hm (isContained_escape content), ih hrest]
      rfl

end Html

/-! ## Where the holes are -/

namespace Html

/-- **The fragment is passed** by a reader of tags that is between two tags when it comes to
it: it passes over the holes, and is between two tags again. -/
def IsPassed (h : Html) : Prop :=
  ∀ rest, passesHoles .betweenTags (h ++ rest) = passesHoles .betweenTags rest

/-- What is passed over can be put together. -/
theorem IsPassed.append {h h' : Html} (hp : IsPassed h) (hp' : IsPassed h') :
    IsPassed (h ++ h') := fun rest => by
  rw [List.append_assoc, hp, hp']

theorem isPassed_shown (s : String) : IsPassed (shown s) := fun _ => rfl

/-- Behind the markup a reader is between two tags if it was so before. -/
def WholeTags (tags : String) : Prop := (scan .betweenTags tags.toList).2 = .betweenTags

/-- What is to be checked of the characters of a literal. -/
theorem WholeTags.ofList {cs : Text} (h : (scan .betweenTags cs).2 = .betweenTags) :
    WholeTags (String.ofList cs) := by
  unfold WholeTags
  rwa [String.toList_ofList]

theorem WholeTags.append {tags tags' : String} (h : WholeTags tags) (h' : WholeTags tags') :
    WholeTags (tags ++ tags') := by
  unfold WholeTags
  rw [String.toList_append, scan_append]
  dsimp only
  rw [h]
  exact h'

/-- Whole tags lead from between tags to between tags. -/
theorem WholeTags.isPassed {tags : String} (h : WholeTags tags) : IsPassed [.markup tags] :=
  fun rest => congrArg (passesHoles · rest) h

/-- Characters that make up whole tags are passed. -/
theorem isPassed_markup {cs : Text} (h : (scan .betweenTags cs).2 = .betweenTags) :
    IsPassed [.markup (String.ofList cs)] := (WholeTags.ofList h).isPassed

/-- What stands between whole tags is passed over together with them. -/
theorem isPassed_within {first last : String} {h : Html} (hf : WholeTags first)
    (hl : WholeTags last) (hp : IsPassed h) : IsPassed (within first last h) :=
  (hf.isPassed.append hp).append hl.isPassed

/-- A class goes as far as the next quotation mark. -/
theorem scan_inClass {x : Text} (hx : '"' ∉ x) (value : Text) :
    scan (.inClass value) x = ([], .inClass (value ++ x)) := by
  induction x generalizing value with
  | nil => rw [List.append_nil]; rfl
  | cons c x ih =>
    rw [List.mem_cons, not_or] at hx
    have hstep : (Mode.inClass value).step c = ([], .inClass (value ++ [c])) :=
      if_neg (Ne.symm hx.1)
    rw [scan, hstep, ih hx.2, List.append_assoc]
    rfl

/-- A tag is whole if its class is followed by its end. -/
theorem wholeTags_class {first style : String}
    (hf : (scan .betweenTags first.toList).2 = .inClass []) (hs : '"' ∉ style.toList) :
    WholeTags (first ++ style ++ "\">") := by
  unfold WholeTags
  rw [String.toList_append, String.toList_append, scan_append, scan_append]
  dsimp only
  rw [hf, scan_inClass hs]
  rfl

/-- A paragraph is passed over if its class has no quotation mark. -/
theorem isPassed_paragraph {cs : Text} {h : Html} (hcs : '"' ∉ cs) (hp : IsPassed h) :
    IsPassed (paragraph (String.ofList cs) h) := by
  have hstyle : '"' ∉ (String.ofList cs).toList := by
    rwa [String.toList_ofList]
  exact isPassed_within (wholeTags_class (by decide) hstyle) (.ofList (by decide)) hp

/-- Strong text is passed over. -/
theorem isPassed_strong (s : String) : IsPassed (strong s) :=
  isPassed_within (.ofList (by decide)) (.ofList (by decide)) (isPassed_shown s)

/-- The link is in a value, and the label between two tags. -/
theorem isPassed_anchor (l : Linker) (file : String) (line : UInt32) (label : String) :
    IsPassed (anchor l file line label) := fun rest => by
  have hopen : (scan .betweenTags "<a href=\"".toList).2 = .inValue := by decide
  have hvalue : (scan .inValue "\">".toList).2 = .betweenTags := by decide
  have hclose : (scan .betweenTags "</a>".toList).2 = .betweenTags := by decide
  have hanchor : anchor l file line label ++ rest = .markup "<a href=\"" ::
      .hole (l.link file.toList line) :: .markup "\">" :: .hole label.toList ::
        .markup "</a>" :: rest := rfl
  rw [hanchor, passesHoles, hopen, passesHoles, passesHoles, hvalue, passesHoles, passesHoles,
    hclose]
  rfl

/-- The link to a file is passed over. -/
theorem isPassed_fileAnchor (l : Linker) (file : String) : IsPassed (fileAnchor l file) :=
  isPassed_anchor l file 1 file

/-- A finding is passed over, whether it has a location or not. -/
theorem isPassed_located (l : Linker) {cs : Text} (hcs : '"' ∉ cs) (text : String)
    (location : Option Location) : IsPassed (located l (String.ofList cs) text location) := by
  cases location with
  | none => exact isPassed_paragraph hcs (isPassed_shown text)
  | some loc =>
    have hspace : IsPassed [.markup " "] := isPassed_markup (by decide)
    exact isPassed_paragraph hcs
      (.append (.append (isPassed_anchor l _ _ _) hspace) (isPassed_shown text))

end Html

namespace Message

open Html

/-- **In what a message is shown as, a reader of tags passes over the holes.** The cases are the
messages, and each is put together from parts that are passed over. -/
theorem passesHoles_html (l : Linker) (m : Message) :
    passesHoles .betweenTags (m.html l) = true := by
  have hpassed {h : Html} (hp : IsPassed h) : passesHoles .betweenTags h = true := by
    have hrest := hp []
    rwa [List.append_nil] at hrest
  cases m with
  | info text => exact hpassed (isPassed_paragraph (by decide) (isPassed_shown text))
  | warning text location => exact hpassed (isPassed_located l (by decide) text location)
  | error text location => exact hpassed (isPassed_located l (by decide) text location)
  | fatal text => exact hpassed (isPassed_paragraph (by decide) (isPassed_shown text))
  | formatWarning text => exact hpassed (isPassed_paragraph (by decide) (isPassed_shown text))
  | verbatim text => exact hpassed (isPassed_shown text)
  | excerpt lines =>
    exact hpassed (isPassed_within (.ofList (by decide)) (.ofList (by decide)) (isPassed_shown _))
  | latexmk text => exact hpassed (isPassed_paragraph (by decide) (isPassed_shown text))
  | toolStarted tool banner =>
    have hrule : IsPassed (if tool = .latex then [.markup "<hr>"] else []) := by
      split
      · exact isPassed_markup (by decide)
      · exact fun _ => rfl
    have hdiv : WholeTags s!"<div class=\"{tool.name}\">" :=
      wholeTags_class (by decide) (by cases tool <;> decide)
    exact hpassed ((hdiv.isPassed.append hrule).append
      (isPassed_within (.ofList (by decide)) (.ofList (by decide)) (isPassed_shown banner)))
  | toolFinished tool => rfl
  | toolVersion tool version =>
    have hname : WholeTags s!"Run <strong>{tool.displayName}</strong>, version " := by
      have hname : WholeTags tool.displayName := by
        cases tool <;> exact .ofList (by decide)
      have hfirst : WholeTags "Run <strong>" := .ofList (by decide)
      have hlast : WholeTags "</strong>, version " := .ofList (by decide)
      exact (hfirst.append hname).append hlast
    exact hpassed (isPassed_paragraph (by decide) (hname.isPassed.append (isPassed_shown version)))
  | fileEntered path =>
    exact hpassed
      (isPassed_within (.ofList (by decide)) (.ofList (by decide)) (isPassed_shown path))
  | inclusion path =>
    exact hpassed
      (isPassed_within (.ofList (by decide)) (.ofList (by decide)) (isPassed_shown path))
  | progress description file status =>
    have hspace : IsPassed [.markup " "] := isPassed_markup (by decide)
    have hcolon : IsPassed [.markup ": "] := isPassed_markup (by decide)
    exact hpassed (isPassed_paragraph (by decide) (.append (.append (.append (.append
      (isPassed_shown description) hspace) (isPassed_shown file)) hcolon) (isPassed_strong status)))
  | sorting status =>
    have hsorting : IsPassed [.markup "Sorting entries: "] := isPassed_markup (by decide)
    exact hpassed (isPassed_paragraph (by decide) (hsorting.append (isPassed_strong status)))
  | artifact description path =>
    have hspace : IsPassed [.markup " "] := isPassed_markup (by decide)
    exact hpassed (isPassed_paragraph (by decide)
      (.append (.append (isPassed_shown description) hspace) (isPassed_fileAnchor l path)))
  | transcript path =>
    exact hpassed
      (isPassed_within (.ofList (by decide)) (.ofList (by decide)) (isPassed_fileAnchor l path))
  | glossaryType name files =>
    have htype : IsPassed [.markup "Add Glossary Type "] := isPassed_markup (by decide)
    exact hpassed (isPassed_paragraph (by decide) (.append (htype.append (isPassed_strong name))
      (isPassed_within (.ofList (by decide)) (.ofList (by decide)) (isPassed_shown files))))
  | xindyRun glossary language =>
    have hlanguage : IsPassed [.markup "Language: "] := isPassed_markup (by decide)
    have htitle : IsPassed (within "<h3>Run xindy for glossary type " "</h3>" (shown glossary)) :=
      isPassed_within (.ofList (by decide)) (.ofList (by decide)) (isPassed_shown glossary)
    exact hpassed (htitle.append
      (isPassed_paragraph (by decide) (hlanguage.append (isPassed_shown language))))
  | glossaryFinished name path =>
    have hfinished : IsPassed [.markup "Finished glossary for type "] :=
      isPassed_markup (by decide)
    have houtput : IsPassed [.markup ". Output is in "] := isPassed_markup (by decide)
    have hname := hfinished.append (isPassed_strong name)
    exact hpassed (isPassed_paragraph (by decide)
      (.append (hname.append houtput) (isPassed_fileAnchor l path)))
  | abnormalTermination log =>
    have hfatal : IsPassed [.markup "A fatal error occurred, log file is in "] :=
      isPassed_markup (by decide)
    exact hpassed (isPassed_paragraph (by decide) (hfatal.append (isPassed_fileAnchor l log)))
  | runSummary run errors warnings => rfl
  | summary outcome runs => rfl

/-- The tags in what a message is shown as are those of its template. -/
theorem tokens_html (l : Linker) (m : Message) :
    tokens (m.html l).text = tokens m.template.text := by
  unfold tokens
  rw [scan_text (passesHoles_html l m), frame_html]

end Message

open Html

/-- **No text of a message has a say in its markup.** Every message is shown as the template of its
outline, filled with the escaped texts of the message, as many as there are holes. Each of them
stays in its hole and can be read back. And messages of one outline, whoever makes their links, have
the same tags, with attributes of the same names and the same classes. The tags are those of the
template, since a reader of tags passes over what was escaped. -/
theorem html_contains_text (l : Linker) (m : Message) :
    (m.html l).text = m.template.fill ((m.shownTexts l).map escape) ∧
    m.template.holes.length = (m.shownTexts l).length ∧
    (∀ x ∈ m.shownTexts l, IsContained (escape x) ∧ unescape (escape x) = x) ∧
    ∀ (l' : Linker) (m' : Message), m.outline = m'.outline →
      m.template = m'.template ∧ tokens (m.html l).text = tokens (m'.html l').text := by
  refine ⟨?_, ?_, fun x _ => ⟨isContained_escape x, unescape_escape x⟩, fun l' m' ho => ?_⟩
  · rw [text_eq_fill, Message.frame_html, Message.holes_html]
  · rw [← Message.frame_html l, length_holes_frame, Message.holes_html]
  · have ht : m.template = m'.template := by
      unfold Message.template
      rw [ho]
    refine ⟨ht, ?_⟩
    rw [Message.tokens_html, Message.tokens_html, ht]

/-- A text that looks like markup, and the name of a file that would leave the link, leave no
trace in the tags. -/
theorem html_contains_text_lookalike :
    (Message.warning "<b class=\"x\">&" (some ⟨"\">a.tex", 7⟩)).outline
        = (Message.warning "" (some ⟨"", 0⟩)).outline ∧
      tokens ((Message.warning "<b class=\"x\">&" (some ⟨"\">a.tex", 7⟩)).html .standard).text
        = [.tag ['p'], .attribute "class".toList, .style "warning".toList,
            .tag ['a'], .attribute "href".toList, .tag ['/', 'a'], .tag ['/', 'p']] := by
  have hsame := (html_contains_text .standard
    (.warning "<b class=\"x\">&" (some ⟨"\">a.tex", 7⟩))).2.2.2 .standard
    (.warning "" (some ⟨"", 0⟩)) rfl
  refine ⟨rfl, ?_⟩
  rw [hsame.2, Message.tokens_html]
  rfl

end TexTranscript
