import Mathlib.Data.List.Basic
import Mathlib.Data.List.TakeWhile
import TexTranscript.Link.Url
import TexTranscript.Proofs.Encoding

/-!
# The parts of an address

In an address, a question mark begins the query and a number sign the fragment. So an address can
be taken apart again only if neither of them stands in a part in front; and it stands on one line
only if there is no line feed in it. Neither is a matter of course: what is read is decoded in
places, mapped to other characters and encoded anew.

No part in front of the query holds any of the three. Where bytes are encoded they are encoded, or
they were cut off or left out before. Internet addresses are made of digits. And of a name in ASCII
every label is what a *sound* label is written as, or a code that such a label is written by; the
characters of a code are digits of Punycode, or stand in the label as well.

## Main definitions

* `Url.isStop`, `Url.Sealed` – what begins a query, a fragment or a line, and texts without it.

## Main statements

* `HostName.sealed_ascii?` – names of hosts are sealed.
* `Host.sealed_domain`, `Host.sealed_plain` – and so are all hosts.
* `Url.sealed_read` – and all that stands in front of the query of an address.
-/

namespace TexTranscript

/-! ## Texts without stops -/

namespace Url

/-- **What begins a query, a fragment or a line.** -/
def isStop (c : Char) : Bool := c == '?' || c == '#' || c == '\n'

/-- **No query, no fragment and no line begins** in the text. -/
def Sealed (t : Text) : Prop := ∀ c ∈ t, isStop c = false

instance (t : Text) : Decidable (Sealed t) := List.decidableBAll _ t

/-- The stops are the question mark, the number sign and the line feed. -/
theorem isStop_iff {c : Char} : isStop c = true ↔ c = '?' ∨ c = '#' ∨ c = '\n' := by
  unfold isStop
  rw [Bool.or_eq_true, Bool.or_eq_true, beq_iff_eq, beq_iff_eq, beq_iff_eq, or_assoc]

/-- A character with a property that none of the stops has is no stop. -/
theorem isStop_eq_false {p : Char → Prop} (hquery : ¬p '?') (hfragment : ¬p '#') (hline : ¬p '\n')
    {c : Char} (h : p c) : isStop c = false := by
  rw [← Bool.not_eq_true, isStop_iff]
  rintro (rfl | rfl | rfl)
  · exact hquery h
  · exact hfragment h
  · exact hline h

namespace Sealed

variable {s t : Text} {c : Char}

theorem nil : Sealed [] := List.forall_mem_nil _

/-- A text is sealed if none of the three stops is in it. -/
theorem of_notMem (hquery : '?' ∉ t) (hfragment : '#' ∉ t) (hline : '\n' ∉ t) : Sealed t :=
  fun _ => isStop_eq_false hquery hfragment hline

theorem cons (hc : isStop c = false) (ht : Sealed t) : Sealed (c :: t) :=
  List.forall_mem_cons.2 ⟨hc, ht⟩

theorem append (hs : Sealed s) (ht : Sealed t) : Sealed (s ++ t) :=
  List.forall_mem_append.2 ⟨hs, ht⟩

/-- A text is sealed if all its characters are among those of a sealed one. -/
theorem mono (ht : Sealed t) (h : s ⊆ t) : Sealed s := fun c hc => ht c (h hc)

/-- Sealed pieces are sealed together if what joins them is. -/
theorem join {sep : Text} {ts : List Text} (hsep : Sealed sep) (hts : ∀ t ∈ ts, Sealed t) :
    Sealed (Text.join sep ts) := by
  induction ts with
  | nil => exact nil
  | cons t ts ih =>
    obtain ⟨ht, hts⟩ := List.forall_mem_cons.1 hts
    cases ts with
    | nil =>
      show Sealed (t ++ [])
      exact ht.append nil
    | cons t' ts =>
      show Sealed (t ++ (sep ++ Text.join sep (t' :: ts)))
      exact ht.append (hsep.append (ih hts))

end Sealed

/-- **Numbers are sealed**, whatever base they are written in. Digits are letters and figures up to
base sixteen. -/
theorem sealed_toDigits {base : ℕ} (hbase : 1 < base) (hle : base ≤ 16) (n : ℕ) :
    Sealed (Nat.toDigits base n) := by
  have hdigit : ∀ m < 16, isStop (Nat.digitChar m) = false := by decide
  induction n using Nat.strongRecOn with
  | ind n ih =>
    rw [Nat.toDigits_eq_if hbase]
    split
    · next hn => exact Sealed.nil.cons (hdigit n (by omega))
    · have hmod : n % base < 16 := Nat.lt_of_lt_of_le (Nat.mod_lt n (by omega)) hle
      have hdiv : n / base < n := Nat.div_lt_self (by omega) hbase
      exact (ih (n / base) hdiv).append (Sealed.nil.cons (hdigit _ hmod))

/-- A number is written by its decimal digits. -/
theorem toList_toString (n : ℕ) : (toString n).toList = Nat.toDigits 10 n := String.toList_ofList

/-- A number is sealed as it is written. -/
theorem sealed_toString (n : ℕ) : Sealed (toString n).toList := by
  rw [toList_toString]
  exact sealed_toDigits (by decide) (by decide) n

end Url

/-! ## Bytes that are encoded -/

namespace Utf8

variable {b : UInt8}

/-- A byte of ASCII is written for one character only. All bytes of a longer character are at least
`0x80`. -/
theorem toNat_eq_of_writes {v : ℕ} {bs : List UInt8} (h : Writes v bs) (hb : b ∈ bs)
    (hascii : b < 0x80) : b.toNat = v := by
  have hlarge {k x : ℕ} (hk : 0x80 ≤ k) (hx : k + x < 256) : b ≠ .ofNat (k + x) := by
    rintro rfl
    have hlt := UInt8.lt_iff_toNat_lt.1 hascii
    rw [toNat_ofNat hx] at hlt
    exact absurd hlt (by show ¬k + x < 0x80; omega)
  cases h with
  | one hv =>
    obtain rfl := List.mem_singleton.1 hb
    exact toNat_ofNat (by omega)
  | two hx hy =>
    simp only [List.mem_cons, List.not_mem_nil, or_false] at hb
    rcases hb with hb | hb
    · exact absurd hb (hlarge (by decide) (by omega))
    · exact absurd hb (hlarge (by decide) (by omega))
  | three hx hy hz =>
    simp only [List.mem_cons, List.not_mem_nil, or_false] at hb
    rcases hb with hb | hb | hb
    · exact absurd hb (hlarge (by decide) (by omega))
    · exact absurd hb (hlarge (by decide) (by omega))
    · exact absurd hb (hlarge (by decide) (by omega))
  | four hx hy hz hu =>
    simp only [List.mem_cons, List.not_mem_nil, or_false] at hb
    rcases hb with hb | hb | hb | hb
    · exact absurd hb (hlarge (by decide) (by omega))
    · exact absurd hb (hlarge (by decide) (by omega))
    · exact absurd hb (hlarge (by decide) (by omega))
    · exact absurd hb (hlarge (by decide) (by omega))

/-- **What is a byte of ASCII** among the bytes of a text is a character of it. -/
theorem mem_of_mem_encode {t : Text} (hb : b ∈ encode t) (hascii : b < 0x80) :
    Char.ofNat b.toNat ∈ t := by
  obtain ⟨c, hc, hb⟩ := List.mem_flatMap.1 hb
  rw [toNat_eq_of_writes (writes_utf8EncodeChar c) hb hascii, Char.ofNat_toNat]
  exact hc

end Utf8

namespace Percent

open Url

/-- A character of what is encoded is a byte that stands for itself, a percent sign or a digit. -/
theorem forall_mem_encode {keep : UInt8 → Bool} {bytes : List UInt8} {p : Char → Prop}
    (hpercent : p '%') (hdigit : ∀ n < 16, p (digit n))
    (h : ∀ b ∈ bytes, keep b = true → p (Char.ofNat b.toNat)) : ∀ c ∈ encode keep bytes, p c := by
  intro c hc
  obtain ⟨b, hb, hc⟩ := List.mem_flatMap.1 hc
  unfold encodeByte at hc
  split at hc
  · next hkeep =>
    obtain rfl := List.mem_singleton.1 hc
    exact h b hb hkeep
  · have hlt := b.toNat_lt
    simp only [List.mem_cons, List.not_mem_nil, or_false] at hc
    rcases hc with rfl | rfl | rfl
    · exact hpercent
    · exact hdigit _ (by omega)
    · exact hdigit _ (by omega)

/-- **What is encoded is sealed** if the stops among the bytes do not stand for themselves. -/
theorem sealed_encode {keep : UInt8 → Bool} {bytes : List UInt8}
    (h : ∀ b ∈ bytes, keep b = true → isStop (Char.ofNat b.toNat) = false) :
    Sealed (encode keep bytes) := forall_mem_encode rfl (by decide) h

/-- Text that is encoded is sealed if the bytes of the stops do not stand for themselves. -/
theorem sealed_encodeText {keep : UInt8 → Bool} (hquery : keep 0x3F = false)
    (hfragment : keep 0x23 = false) (hline : keep 0x0A = false) (t : Text) :
    Sealed (encodeText keep t) := by
  have hall : ∀ n < 256, isStop (Char.ofNat n) = true → n = 0x3F ∨ n = 0x23 ∨ n = 0x0A := by
    decide +kernel
  refine sealed_encode fun b _ hkeep => ?_
  rw [← Bool.not_eq_true]
  intro hstop
  rcases hall b.toNat b.toNat_lt hstop with hb | hb | hb
  · rw [UInt8.toNat_inj.1 (show b.toNat = (0x3F : UInt8).toNat from hb), hquery] at hkeep
    exact Bool.noConfusion hkeep
  · rw [UInt8.toNat_inj.1 (show b.toNat = (0x23 : UInt8).toNat from hb), hfragment] at hkeep
    exact Bool.noConfusion hkeep
  · rw [UInt8.toNat_inj.1 (show b.toNat = (0x0A : UInt8).toNat from hb), hline] at hkeep
    exact Bool.noConfusion hkeep

/-- What was sealed stays so, whatever is encoded. -/
theorem sealed_encodeText_of_sealed (keep : UInt8 → Bool) {t : Text} (h : Sealed t) :
    Sealed (encodeText keep t) := by
  have hall : ∀ n < 256, isStop (Char.ofNat n) = true → n < 0x80 := by decide +kernel
  refine sealed_encode fun b hb _ => ?_
  rw [← Bool.not_eq_true]
  intro hstop
  have hmem := Utf8.mem_of_mem_encode hb (hall b.toNat b.toNat_lt hstop)
  rw [h _ hmem] at hstop
  exact Bool.noConfusion hstop

end Percent

/-! ## Punycode -/

/-- A text ends with what follows the last separator, or does not have any. -/
theorem Text.afterLast_cases (sep : Char) (t : Text) :
    afterLast sep t = t ∨ ∃ front, t = front ++ sep :: afterLast sep t := by
  have hsplit := List.takeWhile_append_dropWhile (p := (· != sep)) (l := t.reverse)
  have hhead := List.head?_dropWhile_not (· != sep) t.reverse
  unfold afterLast
  rcases hbehind : t.reverse.dropWhile (· != sep) with _ | ⟨c, rest⟩
  · rw [hbehind, List.append_nil] at hsplit
    rw [hsplit]
    exact .inl (List.reverse_reverse t)
  · rw [hbehind] at hsplit hhead
    obtain rfl : c = sep := by simpa using hhead
    refine .inr ⟨rest.reverse, ?_⟩
    have hreverse := congrArg List.reverse hsplit
    rw [List.reverse_append, List.reverse_cons, List.append_assoc, List.reverse_reverse] at hreverse
    exact hreverse.symm

namespace Punycode

open Url

theorem threshold_le (place bias : ℕ) : threshold place bias ≤ 26 := by
  unfold threshold
  omega

/-- The digits of a number in Punycode are sealed. -/
theorem sealed_digits (bias place n : ℕ) : Sealed (digits bias place n) := by
  have hdigit : ∀ m < 36, isStop (digit m) = false := by decide
  fun_induction digits bias place n with
  | case1 place n t hn =>
    have hle : t ≤ 26 := threshold_le place bias
    exact Sealed.nil.cons (hdigit n (by omega))
  | case2 place n t hn ih =>
    have hle : t ≤ 26 := threshold_le place bias
    have hmod : (n - t) % (36 - t) < 36 - t := Nat.mod_lt _ (by omega)
    exact ih.cons (hdigit _ (by omega))

/-- To pass the places of a label writes digits only. -/
theorem sealed_passed (basic : ℕ) (c : Char) (label : Text) {p : Progress}
    (h : Sealed p.written) : Sealed (label.foldl (visit basic c) p).written := by
  induction label generalizing p with
  | nil => exact h
  | cons d label ih =>
    refine ih ?_
    unfold visit
    split
    · exact h
    split
    · exact h.append (sealed_digits _ _ _)
    · exact h

/-- To put characters into a label, one after the other, writes digits only. -/
theorem sealed_putIn (label : Text) (basic : ℕ) (others : List Char) (next : ℕ) {p : Progress}
    (h : Sealed p.written) : Sealed (putIn label basic others next p).written := by
  induction others generalizing next p with
  | nil => exact h
  | cons c others ih => exact ih _ (sealed_passed basic c label h)

/-- **A label in Punycode is sealed** if the label is. -/
theorem sealed_encode {label : Text} (h : Sealed label) : Sealed (encode label) := by
  have hbasic : Sealed (label.filter (· < '\x80')) := h.mono (List.filter_subset_self label)
  unfold encode
  refine (hbasic.append ?_).append (sealed_putIn _ _ _ _ Sealed.nil)
  split
  · exact Sealed.nil
  · exact Sealed.nil.cons rfl

/-- The digits of a number are read off the front of a text. The induction is on the text, which is
read up to the first digit below its threshold. -/
theorem exists_of_number? {bias place weight n : ℕ} {t rest : Text}
    (h : number? bias place weight t = some (n, rest)) :
    ∃ used, t = used ++ rest ∧ Sealed used := by
  have hdigit {c : Char} {d : ℕ} (hd : digit? c = some d) : isStop c = false :=
    isStop_eq_false (p := (digit? · = some d)) (Option.some_ne_none d).symm
      (Option.some_ne_none d).symm (Option.some_ne_none d).symm hd
  induction t generalizing place weight n with
  | nil => exact absurd h (Option.some_ne_none _).symm
  | cons c t ih =>
    obtain ⟨d, hd, h⟩ := Option.bind_eq_some_iff.1 h
    have hc : Sealed [c] := Sealed.nil.cons (hdigit hd)
    dsimp only at h
    split at h
    · obtain ⟨-, rfl⟩ := Prod.mk.inj (Option.some.inj h)
      exact ⟨[c], rfl, hc⟩
    split at h
    · exact absurd h (Option.some_ne_none _).symm
    · obtain ⟨⟨m, rest'⟩, hm, h⟩ := Option.bind_eq_some_iff.1 h
      obtain ⟨-, rfl⟩ := Prod.mk.inj (Option.some.inj h)
      obtain ⟨used, rfl, hused⟩ := ih hm
      exact ⟨c :: used, rfl, hc.append hused⟩

/-- What is put into a label is written in digits, and the label keeps what it had. -/
theorem sealed_of_insertAll {label t result : Text} {code i bias : ℕ}
    (h : insertAll label code i bias t = some result) : Sealed t ∧ label ⊆ result := by
  fun_induction insertAll label code i bias t with
  | case1 label =>
    obtain rfl := Option.some.inj h
    exact ⟨Sealed.nil, List.Subset.refl _⟩
  | case2 => exact absurd h (Option.some_ne_none _).symm
  | case3 => exact absurd h (Option.some_ne_none _).symm
  | case4 label code i bias t ht n rest hn length code' place hfits ih =>
    obtain ⟨used, rfl, hused⟩ := exists_of_number? hn
    obtain ⟨hrest, hlabel⟩ := ih h
    have hplace : place ≤ label.length := Nat.le_of_lt_succ (Nat.mod_lt _ (Nat.succ_pos _))
    refine ⟨hused.append hrest, fun c hc => hlabel ?_⟩
    exact (List.mem_insertIdx hplace).2 (.inr hc)

/-- **A code is sealed** if the label that it writes is. -/
theorem sealed_of_decode? {t label : Text} (h : decode? t = some label) (hlabel : Sealed label) :
    Sealed t := by
  unfold decode? at h
  dsimp only at h
  split at h
  · exact (sealed_of_insertAll h).1
  · next hne =>
    obtain ⟨hdigits, hbasic⟩ := sealed_of_insertAll h
    rcases Text.afterLast_cases '-' t with hnone | ⟨front, ht⟩
    · rw [hnone, Nat.sub_self, Nat.zero_sub] at hne
      exact absurd List.take_zero hne
    · have hlength : t.length - (Text.afterLast '-' t).length - 1 = front.length := by
        have hsum := congrArg List.length ht
        rw [List.length_append, List.length_cons] at hsum
        omega
      have hfront : t.take front.length = front := by
        rw [ht]
        exact List.take_left
      rw [hlength, hfront] at hbasic
      rw [ht]
      exact (hlabel.mono hbasic).append (hdigits.cons rfl)

end Punycode

/-! ## Hosts -/

namespace HostName

open Url

/-- A sound label is sealed. -/
theorem sealed_of_isSound {label : Text} (h : isSound label = true) : Sealed label := by
  unfold isSound at h
  rw [Bool.and_eq_true, Bool.not_eq_true', List.any_eq_false] at h
  exact .of_notMem (fun hc => h.2 _ hc (by decide)) (fun hc => h.2 _ hc (by decide))
    (fun hc => h.2 _ hc (by decide))

/-- A code is sealed if the label that it stands for is. -/
theorem sealed_of_decoded? {code label : Text} (h : decoded? code = some label)
    (hlabel : Sealed label) : Sealed code := by
  unfold decoded? at h
  split at h
  · exact absurd h (Option.some_ne_none _).symm
  · obtain ⟨label', hdecode, h⟩ := Option.bind_eq_some_iff.1 h
    split at h
    · exact absurd h (Option.some_ne_none _).symm
    · obtain rfl := Option.some.inj h
      exact Punycode.sealed_of_decode? hdecode hlabel

/-- What is written for a label is sealed if what is meant by it is. -/
theorem sealed_of_forms? {label meant written : Text} (h : forms? label = some (meant, written))
    (hmeant : Sealed meant) : Sealed written := by
  have hstart : Sealed codedStart := by decide
  unfold forms? at h
  split at h
  · exact absurd h (Option.some_ne_none _).symm
  · next code _ hcode =>
    obtain ⟨label', hdecoded, heq⟩ := Option.map_eq_some_iff.1 h
    obtain ⟨rfl, rfl⟩ := Prod.mk.inj heq
    rw [Text.after?_eq_some_iff.1 hcode]
    exact hstart.append (sealed_of_decoded? hdecoded hmeant)
  · obtain ⟨rfl, rfl⟩ := Prod.mk.inj (Option.some.inj h)
    split
    · exact hmeant
    · exact hstart.append (Punycode.sealed_encode hmeant)

/-- What is read of many was read of one of them. -/
theorem exists_of_mem_mapM {α β : Type} {f : α → Option β} {as : List α} {bs : List β}
    (h : as.mapM f = some bs) : ∀ b ∈ bs, ∃ a ∈ as, f a = some b := by
  induction as generalizing bs with
  | nil =>
    obtain rfl := Option.some.inj h
    exact List.forall_mem_nil _
  | cons a as ih =>
    rw [List.mapM_cons] at h
    obtain ⟨b, hb, h⟩ := Option.bind_eq_some_iff.1 h
    obtain ⟨bs', hbs, h⟩ := Option.bind_eq_some_iff.1 h
    obtain rfl := Option.some.inj h
    refine List.forall_mem_cons.2 ⟨⟨a, List.mem_cons_self, hb⟩, fun b' hb' => ?_⟩
    obtain ⟨a', ha', hf⟩ := ih hbs b' hb'
    exact ⟨a', List.mem_cons_of_mem a ha', hf⟩

/-- **Names of hosts are sealed.** Each label was found sound before its form is written, and the
forms are joined by full stops. -/
theorem sealed_ascii? {t name : Text} (h : ascii? t = some name) : Sealed name := by
  obtain ⟨mapped, -, h⟩ := Option.bind_eq_some_iff.1 h
  obtain ⟨forms, hforms, h⟩ := Option.bind_eq_some_iff.1 h
  split at h
  · next hfit =>
    obtain rfl := Option.some.inj h
    refine Sealed.join (by decide) fun written hwritten => ?_
    obtain ⟨form, hform, rfl⟩ := List.mem_map.1 hwritten
    obtain ⟨label, -, hread⟩ := exists_of_mem_mapM hforms form hform
    refine sealed_of_forms? hread (sealed_of_isSound ?_)
    unfold fit at hfit
    rw [Bool.and_eq_true, List.all_eq_true] at hfit
    exact (Bool.and_eq_true_iff.1 (hfit.1 form.1 (List.mem_map_of_mem hform))).1
  · exact absurd h (Option.some_ne_none _).symm

end HostName

/-- What comes of two steps came of the first one, and then of the second. -/
theorem exists_of_bind_ok {ε α β : Type} {x : Except ε α} {f : α → Except ε β} {b : β}
    (h : x >>= f = .ok b) : ∃ a, x = .ok a ∧ f a = .ok b := by
  cases x with
  | error e => exact nomatch h
  | ok a => exact ⟨a, rfl, h⟩

namespace Host

open Url

/-- An address of eight groups is sealed: its groups are written in digits, and joined by colons. -/
theorem sealed_sixText (ns : List ℕ) : Sealed (Address.sixText ns) := by
  have hwritten (ns : List ℕ) : Sealed (Text.join [':'] (ns.map (Nat.toDigits 16))) := by
    refine Sealed.join (by decide) fun t ht => ?_
    obtain ⟨n, -, rfl⟩ := List.mem_map.1 ht
    exact sealed_toDigits (by decide) (by decide) n
  unfold Address.sixText
  dsimp only
  split
  · exact hwritten _
  · exact ((hwritten _).append (by decide)).append (hwritten _)

/-- An address of four numbers is sealed: its numbers are joined by full stops. -/
theorem sealed_fourText (n : ℕ) : Sealed (Address.fourText n) := by
  refine Sealed.join (by decide) fun t ht => ?_
  obtain ⟨left, -, rfl⟩ := List.mem_map.1 ht
  exact sealed_toString _

/-- An address in brackets is sealed. -/
theorem sealed_bracketed {t host : Text} (h : bracketed t = .ok host) : Sealed host := by
  unfold bracketed at h
  split at h
  · obtain rfl := Except.ok.inj h
    exact ((Sealed.nil.cons rfl).append (sealed_sixText _)).append (by decide)
  · exact nomatch h

/-- **Hosts outside the network are sealed.** They are encoded, or addresses in brackets. -/
theorem sealed_plain {t host : Text} (h : plain t = .ok host) : Sealed host := by
  unfold plain at h
  split at h
  · exact sealed_bracketed h
  split at h
  · exact nomatch h
  · next hseparators =>
    obtain rfl := Except.ok.inj h
    rw [Bool.not_eq_true, List.any_eq_false] at hseparators
    exact Percent.sealed_encodeText_of_sealed _ (.of_notMem
      (fun hc => hseparators _ hc (by decide)) (fun hc => hseparators _ hc (by decide))
      (fun hc => hseparators _ hc (by decide)))

/-- **Hosts in the network are sealed.** They are addresses, or names that are written in ASCII. -/
theorem sealed_domain {t host : Text} (h : domain t = .ok host) : Sealed host := by
  unfold domain at h
  split at h
  · exact sealed_bracketed h
  · split at h
    · next name hname =>
      obtain ⟨text, -, hascii⟩ := Option.bind_eq_some_iff.1 hname
      dsimp only at h
      split at h
      · exact nomatch h
      split at h
      · split at h
        · obtain rfl := Except.ok.inj h
          exact sealed_fourText _
        · exact nomatch h
      · obtain rfl := Except.ok.inj h
        exact HostName.sealed_ascii? hascii
    · exact nomatch h

end Host

/-! ## Parts of an address -/

namespace Url

variable {t : Text}

theorem unbroken_subset (t : Text) : unbroken t ⊆ t := List.filter_subset_self t

/-- A text without its breaks has no line feed. -/
theorem lineFeed_notMem_unbroken (t : Text) : '\n' ∉ unbroken t := fun hc =>
  Bool.noConfusion (List.mem_filter.1 hc).2

/-- A part that is cut off at a character does not hold it. -/
theorem notMem_cutAt (c : Char) (t : Text) : c ∉ (cutAt c t).1 := by
  unfold cutAt
  split
  · next hnone =>
    intro hc
    exact of_decide_eq_true (List.dropWhile_eq_nil_iff.1 hnone c hc) rfl
  · intro hc
    exact of_decide_eq_true (List.mem_takeWhile_imp (p := fun d => decide (d ≠ c)) hc) rfl

/-- A part that is cut off at a character has no other characters than the text. -/
theorem cutAt_subset (c : Char) (t : Text) : (cutAt c t).1 ⊆ t := by
  unfold cutAt
  split
  · exact List.Subset.refl t
  · exact (List.takeWhile_prefix _).subset

/-- What is left of an address in front of its fragment and its query is sealed, without its
breaks. -/
theorem sealed_bare (t : Text) : Sealed (unbroken (cutAt '?' (cutAt '#' t).1).1) :=
  .of_notMem (fun hc => notMem_cutAt '?' _ (unbroken_subset _ hc))
    (fun hc => notMem_cutAt '#' t (cutAt_subset '?' _ (unbroken_subset _ hc)))
    (lineFeed_notMem_unbroken _)

/-- A small letter is all that comes of a capital one. -/
theorem eq_of_toLower_eq {c d : Char} (hd : d.toNat < 'a'.toNat) (h : c.toLower = d) : c = d := by
  have hd : d.toNat < 97 := hd
  unfold Char.toLower at h
  split at h
  · next hupper =>
    have hlow : 65 ≤ c.val.toNat := UInt32.le_iff_toNat_le.1 hupper.1
    have hhigh : c.val.toNat ≤ 90 := UInt32.le_iff_toNat_le.1 hupper.2
    have hsum : (c.val.toNat + 32) % 2 ^ 32 = d.toNat := congrArg Char.toNat h
    omega
  · exact h

/-- A scheme is made of letters, digits, `+`, `-` and `.`. -/
theorem sealed_splitScheme? {scheme rest : Text} (h : splitScheme? t = some (scheme, rest)) :
    Sealed scheme := by
  have hlower {c : Char} (hc : (c.isAlphanum || c = '+' || c = '-' || c = '.') = true) :
      isStop c.toLower = false := by
    refine isStop_eq_false (p := (c.toLower = ·)) (fun hquery => ?_) (fun hfragment => ?_)
      (fun hline => ?_) rfl
    · rw [eq_of_toLower_eq (by decide) hquery] at hc
      exact absurd hc (by decide)
    · rw [eq_of_toLower_eq (by decide) hfragment] at hc
      exact absurd hc (by decide)
    · rw [eq_of_toLower_eq (by decide) hline] at hc
      exact absurd hc (by decide)
  unfold splitScheme? at h
  split at h
  · next c name d rest' hname hrest =>
    split at h
    · next hfits =>
      obtain ⟨rfl, rfl⟩ := Prod.mk.inj (Option.some.inj h)
      have hfirst : (c.isAlphanum || c = '+' || c = '-' || c = '.') = true := by
        unfold Char.isAlphanum
        rw [hfits.1]
        rfl
      have hall : ∀ x ∈ c :: name,
          (x.isAlphanum || x = '+' || x = '-' || x = '.') = true :=
        List.forall_mem_cons.2 ⟨hfirst, List.all_eq_true.1 hfits.2⟩
      intro c' hc'
      obtain ⟨x, hx, rfl⟩ := List.mem_map.1 hc'
      exact hlower (hall x hx)
    · exact absurd h (Option.some_ne_none _).symm
  · exact absurd h (Option.some_ne_none _).symm

/-- The name of a user and the password are encoded, with a colon between them. -/
theorem sealed_userInfo {info rest : Text} (h : userInfo t = .ok (info, rest)) : Sealed info := by
  have huser (t : Text) : Sealed (Percent.encodeText inUserInfo t) :=
    Percent.sealed_encodeText rfl rfl rfl t
  unfold userInfo at h
  dsimp only at h
  split at h
  · obtain ⟨rfl, -⟩ := Prod.mk.inj (Except.ok.inj h)
    exact Sealed.nil
  split at h
  · exact nomatch h
  split at h
  · obtain ⟨rfl, -⟩ := Prod.mk.inj (Except.ok.inj h)
    exact Sealed.nil
  · obtain ⟨rfl, -⟩ := Prod.mk.inj (Except.ok.inj h)
    refine ((huser _).append ?_).append (by decide)
    split
    · exact Sealed.nil
    · exact (huser _).cons rfl

/-- The number of a port is written in digits, behind a colon. -/
theorem sealed_socket {scheme number rest : Text} (h : socket scheme t = .ok (number, rest)) :
    Sealed number := by
  have hnumber {n : ℕ} {digits behind : Text} (h : (if 0xFFFF < n then .error .badSocket
      else if digits = [] ∨ networkSchemes.lookup scheme = some n then .ok ([], behind)
      else .ok (':' :: (toString n).toList, behind) : Except Refusal (Text × Text))
        = .ok (number, rest)) : Sealed number := by
    split at h
    · exact nomatch h
    split at h
    · obtain ⟨rfl, -⟩ := Prod.mk.inj (Except.ok.inj h)
      exact Sealed.nil
    · obtain ⟨rfl, -⟩ := Prod.mk.inj (Except.ok.inj h)
      exact (sealed_toString n).cons rfl
  unfold socket at h
  dsimp only at h
  split at h
  · exact hnumber h
  · exact hnumber h
  · exact nomatch h

/-- An authority is sealed, since the user, the host and the port are. -/
theorem sealed_authorityParts {scheme authority rest : Text}
    (h : authorityParts scheme t = .ok (authority, rest)) : Sealed authority := by
  have hsocket {info host : Text} {x : Except Refusal (Text × Text)} (hinfo : Sealed info)
      (hhost : Sealed host) (hx : (∃ t, x = socket scheme t) ∨ ∃ more, x = .ok ([], more))
      (h : (x >>= fun p => pure (info ++ host ++ p.1, p.2)) = .ok (authority, rest)) :
      Sealed authority := by
    obtain ⟨⟨number, more⟩, hnumber, h⟩ := exists_of_bind_ok h
    obtain ⟨rfl, -⟩ := Prod.mk.inj (Except.ok.inj h)
    rcases hx with ⟨t, rfl⟩ | ⟨more', rfl⟩
    · exact (hinfo.append hhost).append (sealed_socket hnumber)
    · obtain ⟨rfl, -⟩ := Prod.mk.inj (Except.ok.inj hnumber)
      exact (hinfo.append hhost).append Sealed.nil
  unfold authorityParts at h
  obtain ⟨⟨info, t'⟩, hinfo, h⟩ := exists_of_bind_ok h
  dsimp only at h
  split at h
  · exact nomatch h
  split at h
  · obtain ⟨host, hhost, h⟩ := exists_of_bind_ok h
    split at h
    · exact hsocket (sealed_userInfo hinfo) (Host.sealed_plain hhost) (.inl ⟨_, rfl⟩) h
    · exact hsocket (sealed_userInfo hinfo) (Host.sealed_plain hhost) (.inr ⟨_, rfl⟩) h
  · obtain ⟨host, hhost, h⟩ := exists_of_bind_ok h
    split at h
    · exact hsocket (sealed_userInfo hinfo) (Host.sealed_domain hhost) (.inl ⟨_, rfl⟩) h
    · exact hsocket (sealed_userInfo hinfo) (Host.sealed_domain hhost) (.inr ⟨_, rfl⟩) h

/-! ### Paths -/

/-- A drive is a letter and a colon or a bar. -/
theorem sealed_drive {s : Text} (h : isDrive s = true) : Sealed s := by
  unfold isDrive at h
  split at h
  · next c d =>
    obtain ⟨hc, hd⟩ := Bool.and_eq_true_iff.1 h
    have hletter : isStop c = false :=
      isStop_eq_false (p := (·.isAlpha = true)) (by decide) (by decide) (by decide) hc
    have hmark : isStop d = false :=
      isStop_eq_false (p := fun d => (d = ':' || d = '|') = true) (by decide) (by decide)
        (by decide) hd
    exact (Sealed.nil.cons hmark).cons hletter
  · exact Bool.noConfusion h

/-- What stands in front of a break behind a drive is the drive. -/
theorem sealed_afterDrive? {s drive rest : Text} (h : afterDrive? s = some (drive, rest)) :
    Sealed drive := by
  unfold afterDrive? at h
  split at h
  · dsimp only at h
    split at h
    · next hdrive =>
      obtain ⟨rfl, -⟩ := Prod.mk.inj (Option.some.inj h)
      exact sealed_drive hdrive.1
    · exact absurd h (Option.some_ne_none _).symm
  · exact absurd h (Option.some_ne_none _).symm

/-- **A trail stays one of sealed parts**, wherever it leads. -/
theorem sealed_follow (k : Kind) (isLast : Bool) {t : Trail} (segment : Text)
    (h : ∀ s ∈ t.parts, Sealed s) : ∀ s ∈ (t.follow k isLast segment).parts, Sealed s := by
  have hpart (segment : Text) : Sealed (Percent.encodeText inPath segment) :=
    Percent.sealed_encodeText rfl rfl rfl segment
  have hclose {parts : List Text} (hparts : ∀ s ∈ parts, Sealed s) :
      ∀ s ∈ (if isLast then [] :: parts else parts), Sealed s := by
    split
    · exact List.forall_mem_cons.2 ⟨Sealed.nil, hparts⟩
    · exact hparts
  unfold Trail.follow
  dsimp only
  split
  · exact hclose h
  · refine hclose ?_
    split
    · exact h
    · exact fun s hs => h s (List.mem_of_mem_tail hs)
  · split
    · split
      · next hdrive =>
        exact List.forall_mem_cons.2
          ⟨hpart _, List.forall_mem_singleton.2 (sealed_afterDrive? hdrive)⟩
      · split
        · exact List.forall_mem_singleton.2
            (((hpart _).mono (List.take_subset 1 _)).append (by decide))
        · exact List.forall_mem_singleton.2 (hpart _)
    · exact List.forall_mem_cons.2 ⟨hpart _, h⟩

/-- A trail stays one of sealed parts along a whole path. -/
theorem sealed_followAll (k : Kind) {t : Trail} (segments : List Text)
    (h : ∀ s ∈ t.parts, Sealed s) : ∀ s ∈ (t.followAll k segments).parts, Sealed s := by
  fun_induction Trail.followAll k t segments with
  | case1 t => exact h
  | case2 t s => exact sealed_follow k true s h
  | case3 t s ss _ ih => exact ih (sealed_follow k false s h)

/-- **Paths that begin with a slash are sealed.** -/
theorem sealed_path (k : Kind) {t : Trail} (h : ∀ s ∈ t.parts, Sealed s) : Sealed (t.path k) := by
  have hjoin : Sealed (Text.join ['/'] t.parts.reverse) :=
    Sealed.join (by decide) fun s hs => h s (List.mem_reverse.1 hs)
  unfold Trail.path
  dsimp only
  split
  · exact (hjoin.mono (List.dropWhile_suffix _).subset).cons rfl
  · exact hjoin.cons rfl

/-- The trail of a path that begins nowhere has sealed parts. -/
theorem sealed_trail (k : Kind) (t : Text) : ∀ s ∈ (trail k t).parts, Sealed s :=
  sealed_followAll k _ (List.forall_mem_nil _)

/-- The path of an address with a root is sealed. -/
theorem sealed_rooted (k : Kind) (t : Text) : Sealed (rooted k t) :=
  sealed_path k (sealed_trail k t)

/-! ### Addresses -/

/-- Authority and path are sealed. -/
def SealedParts (parts : Option Text × Text) : Prop :=
  (∀ authority ∈ parts.1, Sealed authority) ∧ Sealed parts.2

/-- The parts of an address in the network are sealed. -/
theorem sealed_networkParts {scheme : Text} {parts : Option Text × Text}
    (h : networkParts scheme t = .ok parts) : SealedParts parts := by
  obtain ⟨⟨authority, rest⟩, hauthority, h⟩ := exists_of_bind_ok h
  obtain rfl := Except.ok.inj h
  exact ⟨fun _ ha => Option.some.inj ha ▸ sealed_authorityParts hauthority, sealed_rooted _ _⟩

/-- The parts of an address outside the network are sealed if what is left of it is. -/
theorem sealed_otherParts {scheme : Text} {parts : Option Text × Text} (ht : Sealed t)
    (h : otherParts scheme t = .ok parts) : SealedParts parts := by
  unfold otherParts at h
  split at h
  · obtain ⟨⟨authority, rest⟩, hauthority, h⟩ := exists_of_bind_ok h
    obtain rfl := Except.ok.inj h
    refine ⟨fun _ ha => Option.some.inj ha ▸ sealed_authorityParts hauthority, ?_⟩
    dsimp only
    split
    · exact Sealed.nil
    · exact sealed_rooted _ _
  · obtain rfl := Except.ok.inj h
    exact ⟨fun _ ha => absurd ha.symm (Option.some_ne_none _), sealed_rooted _ _⟩
  · obtain rfl := Except.ok.inj h
    exact ⟨fun _ ha => absurd ha.symm (Option.some_ne_none _),
      Percent.sealed_encodeText_of_sealed _ ht⟩

/-- The parts of the address of a file are sealed. -/
theorem sealed_fileParts {parts : Option Text × Text} (h : fileParts t = .ok parts) :
    SealedParts parts := by
  have hnone : ∀ authority ∈ some ([] : Text), Sealed authority := fun _ ha =>
    Option.some.inj ha ▸ Sealed.nil
  unfold fileParts at h
  split at h
  · next t' _ =>
    dsimp only at h
    split at h
    · obtain rfl := Except.ok.inj h
      exact ⟨hnone, sealed_rooted _ _⟩
    obtain ⟨host, hhost, h⟩ := exists_of_bind_ok h
    split at h
    · obtain rfl := Except.ok.inj h
      exact ⟨hnone, sealed_rooted _ _⟩
    · obtain rfl := Except.ok.inj h
      refine ⟨fun authority ha => ?_, sealed_path _ (sealed_trail _ _)⟩
      obtain rfl := Option.some.inj ha
      split
      · exact Sealed.nil
      · exact Host.sealed_domain hhost
  · obtain rfl := Except.ok.inj h
    exact ⟨hnone, sealed_rooted _ _⟩

/-- **All that stands in front of the query of an address is sealed.** The cases are those of the
scheme: a file, one in the network, or another. -/
theorem sealed_read {u : Url} (h : read t = .ok u) :
    Sealed u.scheme ∧ SealedParts (u.authority, u.path) := by
  unfold read at h
  split at h
  · next scheme behind hscheme =>
    have hbare := sealed_bare behind
    rcases hfragment : cutAt '#' behind with ⟨front, fragment⟩
    rcases hquery : cutAt '?' front with ⟨bare, query⟩
    rw [hfragment, hquery] at hbare
    rw [hfragment] at h
    dsimp only at h
    rw [hquery] at h
    dsimp only at h
    split at h
    · obtain ⟨⟨authority, path⟩, hparts, h⟩ := exists_of_bind_ok h
      obtain rfl := Except.ok.inj h
      exact ⟨sealed_splitScheme? hscheme, sealed_networkParts hparts⟩
    · obtain ⟨⟨authority, path⟩, hparts, h⟩ := exists_of_bind_ok h
      obtain rfl := Except.ok.inj h
      exact ⟨sealed_splitScheme? hscheme, sealed_fileParts hparts⟩
    · obtain ⟨⟨authority, path⟩, hparts, h⟩ := exists_of_bind_ok h
      obtain rfl := Except.ok.inj h
      exact ⟨sealed_splitScheme? hscheme, sealed_otherParts hbare hparts⟩
  · exact nomatch h

end Url

end TexTranscript
