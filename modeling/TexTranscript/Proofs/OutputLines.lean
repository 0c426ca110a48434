import TexTranscript.Proofs.EditorLinks
import TexTranscript.Proofs.Templates
import TexTranscript.Proofs.Unbroken

/-!
# One line for a message

In HTML, a message is written on one line. A template holds no line feed, and neither does a link,
whatever it leads to: what could break a line in it is encoded or left out. And the texts in the
other holes are those of the message, which hold no line feed if the message comes from a parse.

There is one exception. The lines of an excerpt stand in one hole, with line feeds between them, and
so they stay lines; an excerpt without any is written on one line as well. So the number of lines
that an output has can be told from the messages.

## Main definitions

* `Message.rows` – the lines that a message is written on.
* `Message.height` – how many there should be.

## Main statements

* `Html.count_lineFeed_text` – line feeds are in the markup or in what is shown.
* `Linker.lineFeed_notMem_link` – links hold no line feed.
* `Message.length_rows` – a message without line feeds has the rows that it should have.
* `Format.splitOn_output_html` – an output is read line by line.
* `Dialect.one_line_for_each` – the messages of a parse, and what is written of them.
-/

namespace TexTranscript

/-- **A text is split into one line more** than it holds line feeds. -/
theorem Text.length_splitOn (c : Char) (t : Text) : (t.splitOn c).length = t.count c + 1 :=
  length_splitOnP t

/-! ## Fragments -/

namespace Html

/-- Line feeds are not escaped, and nothing is escaped by them. A line feed is not a character that
HTML has to escape. -/
theorem count_lineFeed_escape (t : Text) : (escape t).count '\n' = t.count '\n' := by
  have hchar (c : Char) : (escapeChar c).count '\n' = [c].count '\n' := by
    unfold escapeChar
    split <;> rfl
  induction t with
  | nil => rfl
  | cons c t ih =>
    show (escapeChar c ++ escape t).count '\n' = ([c] ++ t).count '\n'
    rw [List.count_append, List.count_append, hchar, ih]

/-- **The line feeds of a fragment** are in its markup, or in what is in its holes. -/
theorem count_lineFeed_text (h : Html) :
    h.text.count '\n' = h.frame.text.count '\n' + (h.holes.map (List.count '\n')).sum := by
  induction h with
  | nil => rfl
  | cons p h ih =>
    cases p with
    | markup tags =>
      show (tags.toList ++ text h).count '\n' = (tags.toList ++ text (frame h)).count '\n' + _
      rw [List.count_append, List.count_append, ih, Nat.add_assoc]
      rfl
    | hole content =>
      show (escape content ++ text h).count '\n'
        = (text (frame h)).count '\n' + (content.count '\n' + ((holes h).map _).sum)
      rw [List.count_append, count_lineFeed_escape, ih]
      omega

end Html

/-! ## Links -/

namespace Url

/-- The fragment of an address is encoded. -/
theorem fragment_read {t : Text} {u : Url} (h : read t = .ok u) :
    ∃ fragment : Option Text,
      u.fragment = fragment.map (Percent.encodeText inFragment ∘ unbroken) := by
  unfold read at h
  split at h
  · dsimp only at h
    split at h <;>
      · obtain ⟨parts, -, h⟩ := exists_of_bind_ok h
        obtain rfl := Except.ok.inj h
        exact ⟨_, rfl⟩
  · exact nomatch h

/-- The fragment of an address holds no line feed: every line feed is taken out before it is read,
and what is encoded is written in other characters. -/
theorem lineFeed_notMem_fragment {t : Text} {u : Url} (h : read t = .ok u) :
    ∀ fragment ∈ u.fragment, '\n' ∉ fragment := by
  have hbyte : ∀ b, inFragment b = true → Char.ofNat b.toNat ≠ '\n' :=
    forall_byte (by decide +kernel)
  intro fragment hfragment hm
  obtain ⟨read, hread⟩ := fragment_read h
  obtain ⟨t, -, rfl⟩ := Option.map_eq_some_iff.1 (hread.symm.trans hfragment)
  exact Percent.forall_mem_encode (p := (· ≠ '\n')) (by decide) (by decide)
    (fun b _ => hbyte b) _ hm rfl

/-- An address holds no line feed if none of its parts does. -/
theorem lineFeed_notMem_text {u : Url} (hscheme : '\n' ∉ u.scheme)
    (hauthority : ∀ authority ∈ u.authority, '\n' ∉ authority) (hpath : '\n' ∉ u.path)
    (hquery : ∀ query ∈ u.query, '\n' ∉ query)
    (hfragment : ∀ fragment ∈ u.fragment, '\n' ∉ fragment) : '\n' ∉ u.text := by
  have hcons {c : Char} {t : Text} (hc : '\n' ≠ c) (ht : '\n' ∉ t) : '\n' ∉ c :: t :=
    List.not_mem_cons_of_ne_of_not_mem hc ht
  unfold Url.text
  refine List.not_mem_append (List.not_mem_append (List.not_mem_append (List.not_mem_append
    (List.not_mem_append hscheme (by decide)) ?_) hpath) ?_) ?_
  · split
    · next authority ha => exact List.not_mem_append (by decide) (hauthority authority ha)
    · split <;> decide
  · split
    · next query hq => exact hcons (by decide) (hquery query hq)
    · exact List.not_mem_nil
  · split
    · next fragment hf => exact hcons (by decide) (hfragment fragment hf)
    · exact List.not_mem_nil

end Url

namespace Linker

variable {l : Linker}

/-- The address of a linker that was made from a template has no line feed in its fragment. -/
theorem IsMade.lineFeed_notMem_fragment (h : l.IsMade) :
    ∀ fragment ∈ l.base.fragment, '\n' ∉ fragment := by
  induction h with
  | standard => exact fun _ hfragment => nomatch hfragment
  | ofScheme h =>
    obtain ⟨u, hread, hl⟩ := exists_of_bind_ok h
    obtain rfl := Except.ok.inj hl
    exact Url.lineFeed_notMem_fragment hread
  | withRoot root h ih => exact ih

/-- **A link holds no line feed**, whatever it leads to. -/
theorem lineFeed_notMem_link (h : l.IsMade) (file : Text) (line : UInt32) :
    '\n' ∉ l.link file line := by
  obtain ⟨hscheme, hauthority, hpath⟩ := h.sealed
  refine Url.lineFeed_notMem_text (hscheme.notMem rfl)
    (fun authority ha => (hauthority authority ha).notMem rfl) (hpath.notMem rfl)
    (fun query hquery => ?_) h.lineFeed_notMem_fragment
  obtain rfl := Option.some.inj hquery
  exact (sealed_query _ _).notMem rfl

end Linker

/-! ## Messages -/

theorem lineFeed_notMem_append {s s' : String} (h : '\n' ∉ s.toList) (h' : '\n' ∉ s'.toList) :
    '\n' ∉ (s ++ s').toList := by
  rw [String.toList_append]
  exact List.not_mem_append h h'

/-- No number is written with a line feed. -/
theorem lineFeed_notMem_toString (n : ℕ) : '\n' ∉ (toString n).toList :=
  (Url.sealed_toString n).notMem rfl

/-- A number between two strings brings no line feed with it. -/
theorem lineFeed_notMem_around {s s' : String} (h : '\n' ∉ s.toList) (n : ℕ)
    (h' : '\n' ∉ s'.toList) : '\n' ∉ (s ++ toString n ++ s').toList :=
  lineFeed_notMem_append (lineFeed_notMem_append h (lineFeed_notMem_toString n)) h'

namespace Message

open Html

variable {l : Linker} {m : Message}

/-- **The lines that a message is written on** in HTML. -/
def rows (l : Linker) (m : Message) : List Text := (m.html l).text.splitOn '\n'

/-- **The number of lines that a message takes**: an excerpt takes as many as it has, or one if it
has none, and any other message takes one. -/
def height : Message → ℕ
  | excerpt lines => max lines.length 1
  | _ => 1

/-- A message that is no excerpt takes one line. -/
theorem height_of_single (hsingle : ∀ lines, m ≠ excerpt lines) : m.height = 1 := by
  cases m with
  | excerpt lines => exact absurd rfl (hsingle lines)
  | _ => rfl

/-- **A template is written on one line.** There are as many templates as outlines, and each of them
is a fixed text. -/
theorem lineFeed_notMem_template (m : Message) : '\n' ∉ m.template.text := by
  have hfixed {t : Text} (ht : t.contains '\n' = false) : '\n' ∉ t := by
    rw [← List.contains_iff_mem, ht]
    exact Bool.false_ne_true
  cases m with
  | warning text location => cases location <;> exact hfixed rfl
  | error text location => cases location <;> exact hfixed rfl
  | toolStarted tool banner => cases tool <;> exact hfixed rfl
  | toolVersion tool version => cases tool <;> exact hfixed rfl
  | runSummary run errors warnings =>
    exact List.not_mem_append (lineFeed_notMem_around
      (lineFeed_notMem_around (by decide) errors (by decide)) warnings (by decide))
      List.not_mem_nil
  | summary outcome runs =>
    have hfatal : '\n' ∉ (if outcome.fatal then "Fatal error. " else "").toList := by
      split <;> decide
    have hplural : '\n' ∉ (if runs = 1 then "" else "s").toList := by
      split <;> decide
    have hcounts : '\n' ∉
        s!"Found {outcome.errors} errors, and {outcome.warnings} warnings in {runs} run".toList :=
      lineFeed_notMem_around (lineFeed_notMem_around (lineFeed_notMem_around (by decide)
        outcome.errors (by decide)) outcome.warnings (by decide)) runs (by decide)
    exact List.not_mem_append (hfixed rfl) (List.not_mem_append
      (lineFeed_notMem_append (lineFeed_notMem_append hfatal hcounts) hplural) (hfixed rfl))
  | _ => exact hfixed rfl

/-- The line feeds that a message is written with are those in what is shown of it, since its
template has none. -/
theorem count_lineFeed_html (l : Linker) (m : Message) :
    (m.html l).text.count '\n' = ((m.shownTexts l).map (List.count '\n')).sum := by
  rw [Html.count_lineFeed_text, frame_html, holes_html,
    List.count_eq_zero.2 (lineFeed_notMem_template m), Nat.zero_add]

/-- What is shown of a message that is no excerpt holds no line feed if the message does not. -/
theorem lineFeed_notMem_shownTexts (hl : l.IsMade) (hm : m.Unbroken)
    (hsingle : ∀ lines, m ≠ excerpt lines) : ∀ t ∈ m.shownTexts l, '\n' ∉ t := by
  have hanchor {file label : String} {line : UInt32} (hlabel : '\n' ∉ label.toList) :
      ∀ t ∈ anchorTexts l file line label, '\n' ∉ t :=
    List.forall_mem_cons.2 ⟨Linker.lineFeed_notMem_link hl _ _, List.forall_mem_singleton.2 hlabel⟩
  have hlocated {text : String} {location : Option Location}
      (h : ∀ s ∈ text :: (location.map Location.file).toList, '\n' ∉ s.toList) :
      ∀ t ∈ locatedTexts l text location, '\n' ∉ t := by
    obtain ⟨htext, hfile⟩ := List.forall_mem_cons.1 h
    cases location with
    | none => exact List.forall_mem_singleton.2 htext
    | some loc =>
      have hlabel : '\n' ∉ s!"{loc.file}:{loc.line}".toList :=
        lineFeed_notMem_append (lineFeed_notMem_append (hfile _ List.mem_cons_self)
          (by decide)) (lineFeed_notMem_toString loc.line.toNat)
      exact List.forall_mem_append.2 ⟨hanchor hlabel, List.forall_mem_singleton.2 htext⟩
  have hplain {strings : List String} (h : ∀ s ∈ strings, '\n' ∉ s.toList) :
      ∀ t ∈ strings.map String.toList, '\n' ∉ t := List.forall_mem_map.2 h
  cases m with
  | warning text location => exact hlocated hm
  | error text location => exact hlocated hm
  | excerpt lines => exact absurd rfl (hsingle lines)
  | artifact description path =>
    obtain ⟨hdescription, hpath⟩ := List.forall_mem_cons.1 hm
    exact List.forall_mem_cons.2 ⟨hdescription, hanchor (hpath _ List.mem_cons_self)⟩
  | transcript path => exact hanchor (hm _ List.mem_cons_self)
  | glossaryFinished name path =>
    obtain ⟨hname, hpath⟩ := List.forall_mem_cons.1 hm
    exact List.forall_mem_cons.2 ⟨hname, hanchor (hpath _ List.mem_cons_self)⟩
  | abnormalTermination log => exact hanchor (hm _ List.mem_cons_self)
  | _ => exact hplain hm

/-- The lines of an excerpt are joined by as many line feeds as there are lines but one. -/
theorem count_lineFeed_excerpt {lines : List String} (h : ∀ s ∈ lines, '\n' ∉ s.toList) :
    ("\n".intercalate lines).toList.count '\n' + 1 = max lines.length 1 := by
  rw [← Text.length_splitOn, String.toList_intercalate]
  cases lines with
  | nil => rfl
  | cons line lines =>
    have hsplit := List.splitOn_intercalate '\n' (List.forall_mem_map.2 h)
      (List.cons_ne_nil line.toList (lines.map String.toList))
    show ((['\n'].intercalate ((line :: lines).map String.toList)).splitOn '\n').length = _
    rw [hsplit, List.length_map, List.length_cons]
    omega

/-- **A message is written on the lines that it takes**, if there are no line feeds in it. -/
theorem length_rows (hl : l.IsMade) (hm : m.Unbroken) : (m.rows l).length = m.height := by
  unfold rows
  rw [Text.length_splitOn, count_lineFeed_html]
  by_cases hexcerpt : ∃ lines, m = excerpt lines
  · obtain ⟨lines, rfl⟩ := hexcerpt
    exact count_lineFeed_excerpt hm
  · have hsingle : ∀ lines, m ≠ excerpt lines := fun lines h => hexcerpt ⟨lines, h⟩
    have hnone : ∀ n ∈ (m.shownTexts l).map (List.count '\n'), n = 0 :=
      List.forall_mem_map.2 fun t ht =>
        List.count_eq_zero.2 (lineFeed_notMem_shownTexts hl hm hsingle t ht)
    rw [List.sum_eq_zero hnone, height_of_single hsingle]

end Message

/-- **An output in HTML is read line by line**: there are the lines of one message after those of
the other, and behind the last line feed there is nothing. -/
theorem Format.splitOn_output_html (l : Linker) (ms : List Message) :
    (Format.html.output l ms).splitOn '\n' = ms.flatMap (Message.rows l) ++ [[]] := by
  induction ms with
  | nil => rfl
  | cons m ms ih =>
    have hcons : Format.html.output l (m :: ms)
        = (m.html l).text ++ '\n' :: Format.html.output l ms := by
      show ((m.html l).text ++ ['\n']) ++ Format.html.output l ms = _
      rw [List.append_assoc]
      rfl
    rw [hcons, List.splitOn_append_cons_self, ih, List.flatMap_cons, List.append_assoc]
    rfl

namespace Dialect

/-- **The messages of a parse hold no line feeds.** Whatever tool the transcript is from, and
however it comes, there is none in any text of a message, and none in any line of an excerpt, if
there is none in the name of the master document. So in HTML, whoever makes the links, the output is
read line by line: every message is on a line of its own, but an excerpt of several lines is on as
many, and there is nothing else. All texts are taken from statements and lines, none of which holds
a line feed, or from the document; the sources of the messages are sustained along the tour of the
parse. -/
theorem one_line_for_each {d : Dialect} (hd : d.isTool = true)
    (hmaster : ∀ master ∈ d.master?, '\n' ∉ master) (verbose : Bool) (source : LineReader) :
    let said := (d.parse verbose source).scope.messages.toList
    (∀ m ∈ said, ∀ s ∈ m.strings, '\n' ∉ s.toList) ∧
      ∀ l : Linker, l.IsMade →
        (Format.html.output l said).splitOn '\n' = said.flatMap (Message.rows l) ++ [[]] ∧
        (∀ m ∈ said, (m.rows l).length = m.height) ∧
        (Format.html.output l said).count '\n' = (said.map Message.height).sum := by
  intro said
  have hunbroken : ∀ m ∈ said, m.Unbroken :=
    (unbroken_parse hd hmaster verbose fun _ => LineReader.lineFeed_notMem_bytes).messages
  refine ⟨hunbroken, fun l hl => ?_⟩
  have hlines := Format.splitOn_output_html l said
  have hrows : ∀ m ∈ said, (m.rows l).length = m.height := fun m hm =>
    Message.length_rows hl (hunbroken m hm)
  refine ⟨hlines, hrows, ?_⟩
  have hcount := congrArg List.length hlines
  rw [Text.length_splitOn, List.length_append, List.length_flatMap, List.map_congr_left hrows]
    at hcount
  exact Nat.succ.inj hcount

/-- A warning of an engine, in the document that it was called for, and a problem that ChkTeX
quotes two lines for. -/
theorem one_line_for_each_excerpt :
    let engine := latex "a\tb.tex".toList
    let transcript := LineReader.ofBytes (Utf8.encode
      "LaTeX Warning: Float too large on input line 7.\nTranscript written on a.log.\n".toList)
    let findings := LineReader.ofBytes (Utf8.encode
      "Warning 8 in a.tex line 1: Wrong length.\nx--y\n ^^\n".toList)
    engine.isTool = true ∧ chktex.isTool = true ∧ (∀ master ∈ engine.master?, '\n' ∉ master) ∧
      (Format.html.output .standard
        (engine.parse false transcript).scope.messages.toList).count '\n' = 1 + 1 ∧
      (Format.html.output .standard
        (chktex.parse false findings).scope.messages.toList).count '\n' = 1 + 2 := by
  intro engine transcript findings
  have hmaster : ∀ master ∈ engine.master?, '\n' ∉ master := by
    rintro _ ⟨⟩
    decide
  have hnone : ∀ master ∈ chktex.master?, '\n' ∉ master := fun _ hm => nomatch hm
  obtain ⟨-, hengine⟩ := one_line_for_each (d := engine) rfl hmaster false transcript
  obtain ⟨-, hlinter⟩ := one_line_for_each (d := chktex) rfl hnone false findings
  obtain ⟨-, -, hengine⟩ := hengine .standard .standard
  obtain ⟨-, -, hlinter⟩ := hlinter .standard .standard
  have htwo : ((engine.parse false transcript).scope.messages.toList.map Message.height).sum
      = 1 + 1 := by decide +kernel
  have hthree : ((chktex.parse false findings).scope.messages.toList.map Message.height).sum
      = 1 + 2 := by decide +kernel
  exact ⟨rfl, rfl, hmaster, hengine.trans htwo, hlinter.trans hthree⟩

end Dialect

end TexTranscript
