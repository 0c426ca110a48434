import Mathlib.Combinatorics.Enumerative.DyckWord
import TexTranscript.Sink

/-!
# Divisions of the HTML output

The section of a tool is shown as a division, whose first tag is written with one
message and whose last tag with another. Which tags of divisions there are in the
output can be told from the messages: nothing that is put into a hole makes one,
and no tag comes about where two pieces meet.

The tags of divisions are read off the text itself, as the steps of a path that
goes up at the first tag of a division and down at the last one. The divisions are
balanced when this path is a Dyck word.

## Main definitions

* `Html.divTags` – the tags of divisions in a text.
* `Message.divTags` – those that a message makes.

## Main statements

* `Html.divTags_append` – no tag comes about behind a text that is at an end.
* `Format.divTags_output` – the tags in the output are those that the messages make.
-/

namespace TexTranscript

open DyckStep

namespace Html

/-- What the first tag of a division begins with. -/
def firstDiv : Text := ['<', 'd', 'i', 'v']

/-- What the last tag of a division begins with. -/
def lastDiv : Text := ['<', '/', 'd', 'i', 'v']

/-- The tag of a division that a text begins with. -/
def divTag? (t : Text) : Option DyckStep :=
  if Text.startsWith firstDiv t then some U
  else if Text.startsWith lastDiv t then some D
  else none

/-- **The tags of divisions in a text**, up for each first one and down for each last one. -/
def divTags (t : Text) : List DyckStep := t.tails.filterMap divTag?

/-- A tag is found at each place of a text in turn. -/
theorem divTags_cons (c : Char) (t : Text) :
    divTags (c :: t) = (divTag? (c :: t)).toList ++ divTags t := by
  unfold divTags
  rw [List.tails_cons, List.filterMap_cons]
  cases divTag? (c :: t) with
  | none => rfl
  | some step => rfl

/-- A tag begins with a bracket. -/
theorem divTag?_of_ne {c : Char} (h : c ≠ '<') (t : Text) : divTag? (c :: t) = none := by
  have hno : ∀ tag : Text, Text.startsWith ('<' :: tag) (c :: t) = false := fun tag => by
    unfold Text.startsWith Text.after?
    rw [if_neg h.symm]
    rfl
  unfold divTag? firstDiv lastDiv
  rw [hno, hno]
  rfl

/-- What holds no bracket makes no tag. Nothing can be a tag, or the beginning of one, without its
bracket. -/
theorem divTags_append_of_notMem {x : Text} (h : '<' ∉ x) (t : Text) :
    divTags (x ++ t) = divTags t := by
  induction x with
  | nil => rfl
  | cons c x ih =>
    rw [List.mem_cons, not_or] at h
    rw [List.cons_append, divTags_cons, divTag?_of_ne (Ne.symm h.1), ih h.2]
    rfl

/-- **The text is at an end**: with its last character no tag goes on. -/
def AtEnd (x : Text) : Prop := ∀ c ∈ x.getLast?, c ∉ lastDiv

instance (x : Text) : Decidable (AtEnd x) :=
  Option.decidableForallMem x.getLast?

theorem AtEnd.tail {c : Char} {x : Text} (h : AtEnd (c :: x)) : AtEnd x := by
  intro d hd
  refine h d ?_
  cases x with
  | nil => exact absurd hd (by simp)
  | cons e x => rwa [List.getLast?_cons_cons]

/-- What is put behind a text decides how the whole ends. -/
theorem AtEnd.append {x y : Text} (hx : AtEnd x) (hy : AtEnd y) : AtEnd (x ++ y) := by
  cases y with
  | nil => rwa [List.append_nil]
  | cons d y =>
    intro c hc
    rw [List.getLast?_append_of_ne_nil x (List.cons_ne_nil d y)] at hc
    exact hy c hc

/-- A tag that a text begins with does not reach beyond its end. If it did, the last character of
the text would be one of the tag. -/
theorem startsWith_append_of_atEnd {tag y : Text} (htag : ∀ c ∈ tag, c ∈ lastDiv)
    (hy : AtEnd y) (hne : y ≠ []) (t : Text) :
    Text.startsWith tag (y ++ t) = Text.startsWith tag y := by
  rw [Bool.eq_iff_iff, Text.startsWith_iff, Text.startsWith_iff]
  constructor
  · rintro ⟨rest, h⟩
    rcases List.append_eq_append_iff.1 h with ⟨as, htag', -⟩ | ⟨bs, hy', -⟩
    · -- otherwise the last character would be one of the tag
      have hlast : y.getLast hne ∈ y := List.getLast_mem hne
      have hmem : y.getLast hne ∈ tag := by
        rw [htag']
        exact List.mem_append_left as hlast
      exact absurd (htag _ hmem) (hy _ (List.getLast?_eq_some_getLast hne))
    · exact ⟨bs, hy'⟩
  · rintro ⟨rest, h⟩
    exact ⟨rest ++ t, by rw [h, List.append_assoc]⟩

/-- **No tag comes about behind a text that is at an end.** This is what allows pieces to be looked
at one at a time: the tags of a whole are those of its parts, as long as no part ends in the middle
of one. -/
theorem divTags_append {x : Text} (h : AtEnd x) (t : Text) :
    divTags (x ++ t) = divTags x ++ divTags t := by
  induction x with
  | nil => rfl
  | cons c x ih =>
    have hfirst : divTag? (c :: x ++ t) = divTag? (c :: x) := by
      unfold divTag?
      rw [startsWith_append_of_atEnd (by simp [firstDiv, lastDiv]) h (List.cons_ne_nil c x),
        startsWith_append_of_atEnd (fun _ hc => hc) h (List.cons_ne_nil c x)]
    rw [List.cons_append] at hfirst
    rw [List.cons_append, divTags_cons, hfirst, ih h.tail, divTags_cons, List.append_assoc]

/-! ## Fragments -/

/-- The tags that a piece makes. -/
def Piece.divTags : Piece → List DyckStep
  | markup tags => Html.divTags tags.toList
  | hole _ => []

/-- The piece is at an end, if it is markup. -/
def Piece.AtEnd : Piece → Prop
  | markup tags => Html.AtEnd tags.toList
  | hole _ => True

/-- The tags that a fragment makes, if its pieces are at an end. Holes are escaped, so that no
bracket of a tag can come out of them. -/
theorem divTags_text_append {h : Html} (hend : ∀ p ∈ h, p.AtEnd) (t : Text) :
    divTags (h.text ++ t) = h.flatMap Piece.divTags ++ divTags t := by
  induction h with
  | nil => rfl
  | cons p h ih =>
    have hrest := ih fun q hq => hend q (List.mem_cons_of_mem p hq)
    have htext : text (p :: h) ++ t = p.text ++ (text h ++ t) := List.append_assoc ..
    rw [htext, List.flatMap_cons, List.append_assoc, ← hrest]
    cases p with
    | markup tags => exact divTags_append (hend _ List.mem_cons_self) _
    | hole content => exact divTags_append_of_notMem (not_mem_escape (.inl rfl) content) _

/-- **The piece is plain**: it is at an end, and makes no tag of a division. -/
def Piece.IsPlain (p : Piece) : Prop := p.AtEnd ∧ p.divTags = []

/-- All pieces of the fragment are plain. -/
def IsPlain (h : Html) : Prop := ∀ p ∈ h, p.IsPlain

theorem IsPlain.divTags_eq {h : Html} (hp : IsPlain h) : h.flatMap Piece.divTags = [] :=
  List.flatMap_eq_nil_iff.2 fun p hm => (hp p hm).2

theorem IsPlain.append {h h' : Html} (hp : IsPlain h) (hp' : IsPlain h') : IsPlain (h ++ h') :=
  List.forall_mem_append.2 ⟨hp, hp'⟩

/-- Markup that is plain. -/
def PlainMarkup (tags : String) : Prop := AtEnd tags.toList ∧ divTags tags.toList = []

/-- What is to be checked of the characters of a literal. -/
theorem PlainMarkup.ofList {cs : Text} (h : AtEnd cs ∧ divTags cs = []) :
    PlainMarkup (String.ofList cs) := by
  unfold PlainMarkup
  rwa [String.toList_ofList]

theorem PlainMarkup.append {tags tags' : String} (h : PlainMarkup tags) (h' : PlainMarkup tags') :
    PlainMarkup (tags ++ tags') := by
  unfold PlainMarkup
  rw [String.toList_append, divTags_append h.1, h.2, h'.2]
  exact ⟨h.1.append h'.1, rfl⟩

theorem PlainMarkup.isPlain {tags : String} (h : PlainMarkup tags) : IsPlain [.markup tags] := by
  intro p hp
  obtain rfl := List.mem_singleton.1 hp
  exact h

theorem isPlain_markup {cs : Text} (h : AtEnd cs ∧ divTags cs = []) :
    IsPlain [.markup (String.ofList cs)] := (PlainMarkup.ofList h).isPlain

theorem isPlain_hole (content : Text) : IsPlain [.hole content] := by
  intro p hp
  obtain rfl := List.mem_singleton.1 hp
  exact ⟨trivial, rfl⟩

theorem isPlain_shown (s : String) : IsPlain (shown s) := isPlain_hole s.toList

theorem isPlain_within {first last : String} {h : Html} (hf : PlainMarkup first)
    (hl : PlainMarkup last) (hp : IsPlain h) : IsPlain (within first last h) :=
  (hf.isPlain.append hp).append hl.isPlain

theorem isPlain_paragraph {style : String} {h : Html} (hs : PlainMarkup style) (hp : IsPlain h) :
    IsPlain (paragraph style h) := by
  have hfirst : PlainMarkup "<p class=\"" := .ofList (by decide)
  have hlast : PlainMarkup "\">" := .ofList (by decide)
  exact isPlain_within ((hfirst.append hs).append hlast) (.ofList (by decide)) hp

theorem isPlain_strong (s : String) : IsPlain (strong s) :=
  isPlain_within (.ofList (by decide)) (.ofList (by decide)) (isPlain_shown s)

theorem isPlain_anchor (l : Linker) (file : String) (line : UInt32) (label : String) :
    IsPlain (anchor l file line label) := by
  have hfirst : IsPlain [.markup "<a href=\""] := isPlain_markup (by decide)
  have hlast : IsPlain [.markup "\">"] := isPlain_markup (by decide)
  have hclose : IsPlain [.markup "</a>"] := isPlain_markup (by decide)
  have hopen := IsPlain.append hfirst (.append (isPlain_hole (l.link file.toList line)) hlast)
  exact IsPlain.append (.append hopen (isPlain_shown label)) hclose

theorem isPlain_fileAnchor (l : Linker) (file : String) : IsPlain (fileAnchor l file) :=
  isPlain_anchor l file 1 file

/-- A text with a location is plain, for neither the link nor the text makes a tag of its own. -/
theorem isPlain_located (l : Linker) {style : String} (hs : PlainMarkup style)
    (text : String) (location : Option Location) : IsPlain (located l style text location) := by
  cases location with
  | none => exact isPlain_paragraph hs (isPlain_shown text)
  | some loc =>
    have hspace : IsPlain [.markup " "] := isPlain_markup (by decide)
    exact isPlain_paragraph hs
      (.append (.append (isPlain_anchor l _ _ _) hspace) (isPlain_shown text))

/-! ## Numbers -/

/-- A number holds digits, and nothing else. -/
theorem plainMarkup_toString (n : Nat) : PlainMarkup (toString n) := by
  have hdigits : (toString n).toList = Nat.toDigits 10 n := String.toList_ofList
  have hdigit : ∀ c ∈ (toString n).toList, c.isDigit = true := by
    rw [hdigits]
    exact fun c hc => Nat.isDigit_of_mem_toDigits (by decide) (by decide) hc
  have hno : '<' ∉ (toString n).toList := fun h => absurd (hdigit _ h) (by decide)
  have htags := divTags_append_of_notMem hno []
  rw [List.append_nil] at htags
  refine ⟨fun c hc htag => ?_, htags⟩
  have hother : ∀ d ∈ lastDiv, (!d.isDigit) = true := List.all_eq_true.1 rfl
  exact absurd (hdigit c (List.mem_of_getLast? hc)) (by simpa using hother c htag)

/-- The summary of a run is plain. -/
theorem plainMarkup_runSummary (errors warnings : Nat) :
    PlainMarkup s!"<hr><p> {errors} Errors {warnings} Warnings in this run.</p>" := by
  have hfirst : PlainMarkup "<hr><p> " := .ofList (by decide)
  have hbetween : PlainMarkup " Errors " := .ofList (by decide)
  have hlast : PlainMarkup " Warnings in this run.</p>" := .ofList (by decide)
  exact (((hfirst.append (plainMarkup_toString errors)).append hbetween).append
    (plainMarkup_toString warnings)).append hlast

/-- The summary of a parse is plain, however many errors there are. -/
theorem plainMarkup_summary (outcome : Outcome) (runs : Nat) :
    PlainMarkup ((if outcome.fatal then "Fatal error. " else "") ++
      s!"Found {outcome.errors} errors, and {outcome.warnings} warnings in {runs} run" ++
      if runs = 1 then "" else "s") := by
  have hfatal : PlainMarkup (if outcome.fatal then "Fatal error. " else "") := by
    split
    · exact .ofList (by decide)
    · exact .ofList (by decide)
  have hplural : PlainMarkup (if runs = 1 then "" else "s") := by
    split
    · exact .ofList (by decide)
    · exact .ofList (by decide)
  have hfound : PlainMarkup "Found " := .ofList (by decide)
  have herrors : PlainMarkup " errors, and " := .ofList (by decide)
  have hwarnings : PlainMarkup " warnings in " := .ofList (by decide)
  have hruns : PlainMarkup " run" := .ofList (by decide)
  have hcounts := ((hfound.append (plainMarkup_toString outcome.errors)).append herrors).append
    (plainMarkup_toString outcome.warnings)
  exact (hfatal.append (((hcounts.append hwarnings).append (plainMarkup_toString runs)).append
    hruns)).append hplural

end Html

open Html

namespace Message

/-- **The tags of divisions that a message makes**: none, unless it opens or closes the
section of a tool. -/
def divTags : Message → List DyckStep
  | toolStarted .. => [U]
  | toolFinished .. => [D]
  | _ => []

/-- What the message is shown as makes no tag, unless it opens or closes a section. There is one
case for each kind of message, and the literals in it are checked by evaluation. -/
theorem isPlain_html (l : Linker) {m : Message} (h : m.divTags = []) : IsPlain (m.html l) := by
  cases m with
  | info text => exact isPlain_paragraph (.ofList (by decide)) (isPlain_shown text)
  | warning text location => exact isPlain_located l (.ofList (by decide)) text location
  | error text location => exact isPlain_located l (.ofList (by decide)) text location
  | fatal text => exact isPlain_paragraph (.ofList (by decide)) (isPlain_shown text)
  | formatWarning text => exact isPlain_paragraph (.ofList (by decide)) (isPlain_shown text)
  | verbatim text => exact isPlain_shown text
  | excerpt lines =>
    exact isPlain_within (.ofList (by decide)) (.ofList (by decide)) (isPlain_shown _)
  | latexmk text => exact isPlain_paragraph (.ofList (by decide)) (isPlain_shown text)
  | toolStarted tool banner => exact absurd h (List.cons_ne_nil U [])
  | toolFinished tool => exact absurd h (List.cons_ne_nil D [])
  | toolVersion tool version =>
    have hname : IsPlain [.markup s!"Run <strong>{tool.displayName}</strong>, version "] := by
      have hname : PlainMarkup tool.displayName := by
        cases tool <;> exact .ofList (by decide)
      have hfirst : PlainMarkup "Run <strong>" := .ofList (by decide)
      have hlast : PlainMarkup "</strong>, version " := .ofList (by decide)
      exact ((hfirst.append hname).append hlast).isPlain
    exact isPlain_paragraph (.ofList (by decide)) (hname.append (isPlain_shown version))
  | fileEntered path =>
    exact isPlain_within (.ofList (by decide)) (.ofList (by decide)) (isPlain_shown path)
  | inclusion path =>
    exact isPlain_within (.ofList (by decide)) (.ofList (by decide)) (isPlain_shown path)
  | progress description file status =>
    have hspace : IsPlain [.markup " "] := isPlain_markup (by decide)
    have hcolon : IsPlain [.markup ": "] := isPlain_markup (by decide)
    exact isPlain_paragraph (.ofList (by decide)) (.append (.append (.append (.append
      (isPlain_shown description) hspace) (isPlain_shown file)) hcolon) (isPlain_strong status))
  | sorting status =>
    have hsorting : IsPlain [.markup "Sorting entries: "] := isPlain_markup (by decide)
    exact isPlain_paragraph (.ofList (by decide)) (hsorting.append (isPlain_strong status))
  | artifact description path =>
    have hspace : IsPlain [.markup " "] := isPlain_markup (by decide)
    exact isPlain_paragraph (.ofList (by decide))
      (.append (.append (isPlain_shown description) hspace) (isPlain_fileAnchor l path))
  | transcript path =>
    exact isPlain_within (.ofList (by decide)) (.ofList (by decide)) (isPlain_fileAnchor l path)
  | glossaryType name files =>
    have htype : IsPlain [.markup "Add Glossary Type "] := isPlain_markup (by decide)
    exact isPlain_paragraph (.ofList (by decide)) (.append (htype.append (isPlain_strong name))
      (isPlain_within (.ofList (by decide)) (.ofList (by decide)) (isPlain_shown files)))
  | xindyRun glossary language =>
    have hlanguage : IsPlain [.markup "Language: "] := isPlain_markup (by decide)
    have htitle : IsPlain (within "<h3>Run xindy for glossary type " "</h3>" (shown glossary)) :=
      isPlain_within (.ofList (by decide)) (.ofList (by decide)) (isPlain_shown glossary)
    exact htitle.append
      (isPlain_paragraph (.ofList (by decide)) (hlanguage.append (isPlain_shown language)))
  | glossaryFinished name path =>
    have hfinished : IsPlain [.markup "Finished glossary for type "] :=
      isPlain_markup (by decide)
    have houtput : IsPlain [.markup ". Output is in "] := isPlain_markup (by decide)
    have hname := hfinished.append (isPlain_strong name)
    exact isPlain_paragraph (.ofList (by decide))
      (.append (hname.append houtput) (isPlain_fileAnchor l path))
  | abnormalTermination log =>
    have hfatal : IsPlain [.markup "A fatal error occurred, log file is in "] :=
      isPlain_markup (by decide)
    exact isPlain_paragraph (.ofList (by decide)) (hfatal.append (isPlain_fileAnchor l log))
  | runSummary run errors warnings => exact PlainMarkup.isPlain (plainMarkup_runSummary ..)
  | summary outcome runs =>
    exact isPlain_paragraph (.ofList (by decide)) (PlainMarkup.isPlain (plainMarkup_summary ..))

theorem divTags_html_of_nil (l : Linker) {m : Message} (h : m.divTags = []) (t : Text) :
    Html.divTags ((m.html l).text ++ t) = m.divTags ++ Html.divTags t := by
  have hplain := isPlain_html l h
  rw [divTags_text_append fun p hp => (hplain p hp).1, hplain.divTags_eq, h]

/-- The pieces that a section is opened with, of which the first one opens a division. -/
theorem html_toolStarted (l : Linker) (tool : Tool) (banner : String) :
    (∀ p ∈ (toolStarted tool banner).html l, p.AtEnd) ∧
      ((toolStarted tool banner).html l).flatMap Piece.divTags = [U] := by
  have hrest : IsPlain ((if tool = .latex then [.markup "<hr>"] else []) ++
      within "<h3>" "</h3>" (shown banner)) := by
    refine IsPlain.append ?_
      (isPlain_within (.ofList (by decide)) (.ofList (by decide)) (isPlain_shown banner))
    split
    · exact isPlain_markup (by decide)
    · exact fun p hp => absurd hp List.not_mem_nil
  have hname : PlainMarkup tool.name := by
    cases tool <;> exact .ofList (by decide)
  have hlast : PlainMarkup "\">" := .ofList (by decide)
  have hfirst : Html.AtEnd s!"<div class=\"{tool.name}\">".toList ∧
      Html.divTags s!"<div class=\"{tool.name}\">".toList = [U] := by
    have hdiv : Html.AtEnd "<div class=\"".toList ∧ Html.divTags "<div class=\"".toList = [U] := by
      decide
    show Html.AtEnd ("<div class=\"" ++ tool.name ++ "\">").toList ∧
      Html.divTags ("<div class=\"" ++ tool.name ++ "\">").toList = [U]
    rw [String.toList_append, String.toList_append, divTags_append (hdiv.1.append hname.1),
      divTags_append hdiv.1, hdiv.2, hname.2, hlast.2]
    exact ⟨(hdiv.1.append hname.1).append hlast.1, rfl⟩
  constructor
  · intro p hp
    rcases List.mem_cons.1 hp with rfl | hp
    · exact hfirst.1
    · exact (hrest p hp).1
  · show Html.divTags _ ++ List.flatMap Piece.divTags _ = _
    rw [hfirst.2]
    exact congrArg ([U] ++ ·) hrest.divTags_eq

/-- **The tags in what a message is shown as** are those that it makes, whatever comes behind it.
Only the two messages around a section are not plain, and these are computed. -/
theorem divTags_html (l : Linker) (m : Message) (t : Text) :
    Html.divTags ((m.html l).text ++ t) = m.divTags ++ Html.divTags t := by
  cases m with
  | toolStarted tool banner =>
    obtain ⟨hend, htags⟩ := html_toolStarted l tool banner
    rw [divTags_text_append hend, htags]
    rfl
  | toolFinished tool => exact divTags_append (x := "</div>".toList) (by decide) t
  | _ => exact divTags_html_of_nil l rfl t

end Message

/-- **The tags of divisions in the output** are those that the messages make. Behind each message
there is a line break, which is part of no tag. -/
theorem Format.divTags_output (l : Linker) (messages : List Message) :
    Html.divTags (Format.html.output l messages) = messages.flatMap Message.divTags := by
  induction messages with
  | nil => rfl
  | cons m messages ih =>
    have hline : Format.html.output l (m :: messages)
        = (m.html l).text ++ '\n' :: Format.html.output l messages := List.append_assoc ..
    rw [hline, Message.divTags_html, Html.divTags_cons, Html.divTag?_of_ne (by decide), ih]
    rfl

end TexTranscript
