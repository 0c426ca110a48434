import Mathlib.Order.Basic
import TexTranscript.Text.Utf8

/-!
# Texts and their bytes

The code point of a character is written in digits to the base 64: as few as possible,
the first of them in a byte that says how many follow. Which code points take how many
bytes is fixed by the standard, and so is what must not be written: a surrogate, a
value beyond the last one, and a value with more digits than it needs.

What is written that way is read back, and it sorts the same way as the characters do.
For a value with more digits has the greater first byte, and values with as many are
compared digit by digit.

## Main definitions

* `Utf8.Writes` – the bytes that write a code point.

## Main statements

* `Utf8.decode?_encode` – a text is read back from its bytes.
* `Utf8.encode_lt_encode` – bytes are in the order of the characters.
-/

namespace TexTranscript

namespace Utf8

/-- **The bytes that write a code point**, by its digits to the base 64. -/
inductive Writes : Nat → List UInt8 → Prop
  | one {v : Nat} (hv : v < 0x80) : Writes v [.ofNat v]
  | two {x y : Nat} (hx : x < 0x20) (hy : y < 64) (hleast : 0x80 ≤ 64 * x + y) :
      Writes (64 * x + y) [.ofNat (0xC0 + x), .ofNat (0x80 + y)]
  | three {x y z : Nat} (hx : x < 0x10) (hy : y < 64) (hz : z < 64)
      (hleast : 0x800 ≤ 64 * (64 * x + y) + z) (hsurrogate : x = 0xD → y < 0x20) :
      Writes (64 * (64 * x + y) + z) [.ofNat (0xE0 + x), .ofNat (0x80 + y), .ofNat (0x80 + z)]
  | four {x y z u : Nat} (hx : x < 5) (hy : y < 64) (hz : z < 64) (hu : u < 64)
      (hleast : 0x10000 ≤ 64 * (64 * (64 * x + y) + z) + u) (hlast : x = 4 → y < 0x10) :
      Writes (64 * (64 * (64 * x + y) + z) + u)
        [.ofNat (0xF0 + x), .ofNat (0x80 + y), .ofNat (0x80 + z), .ofNat (0x80 + u)]

/-- Every number has a last digit. -/
theorem exists_digit (v : Nat) : ∃ x y, y < 64 ∧ v = 64 * x + y :=
  ⟨v / 64, v % 64, Nat.mod_lt v (by decide), (Nat.div_add_mod v 64).symm⟩

/-- Every character is written so. The bounds of the four forms are those at which a digit to the
base 64 is added, and what is excluded among three digits are the surrogates. -/
theorem writes_utf8EncodeChar (c : Char) : Writes c.toNat (String.utf8EncodeChar c) := by
  have hvalid : c.val.toNat < 0xD800 ∨ 0xDFFF < c.val.toNat ∧ c.val.toNat < 0x110000 := c.valid
  unfold String.utf8EncodeChar
  show Writes c.val.toNat _
  generalize c.val.toNat = v at hvalid
  dsimp only
  split
  · exact .one (by omega)
  split
  · obtain ⟨x, y, hy, rfl⟩ := exists_digit v
    have hfirst : (64 * x + y) / 64 % 32 + 192 = 0xC0 + x := by omega
    have hlast : (64 * x + y) % 64 + 128 = 0x80 + y := by omega
    rw [hfirst, hlast]
    exact .two (by omega) hy (by omega)
  split
  · obtain ⟨w, z, hz, rfl⟩ := exists_digit v
    obtain ⟨x, y, hy, rfl⟩ := exists_digit w
    have hfirst : (64 * (64 * x + y) + z) / 4096 % 16 + 224 = 0xE0 + x := by omega
    have hsecond : (64 * (64 * x + y) + z) / 64 % 64 + 128 = 0x80 + y := by omega
    have hlast : (64 * (64 * x + y) + z) % 64 + 128 = 0x80 + z := by omega
    rw [hfirst, hsecond, hlast]
    exact .three (by omega) hy hz (by omega) (by omega)
  · obtain ⟨w, u, hu, rfl⟩ := exists_digit v
    obtain ⟨w, z, hz, rfl⟩ := exists_digit w
    obtain ⟨x, y, hy, rfl⟩ := exists_digit w
    have hfirst : (64 * (64 * (64 * x + y) + z) + u) / 262144 % 8 + 240 = 0xF0 + x := by omega
    have hsecond : (64 * (64 * (64 * x + y) + z) + u) / 4096 % 64 + 128 = 0x80 + y := by omega
    have hthird : (64 * (64 * (64 * x + y) + z) + u) / 64 % 64 + 128 = 0x80 + z := by omega
    have hlast : (64 * (64 * (64 * x + y) + z) + u) % 64 + 128 = 0x80 + u := by omega
    rw [hfirst, hsecond, hthird, hlast]
    exact .four (by omega) hy hz hu (by omega) (by omega)

/-! ## Reading back -/

/-- The lead byte of two has five bits of the code point. -/
theorem lead?_two {x : Nat} (hx : x < 0x20) (hleast : 2 ≤ x) :
    lead? (.ofNat (0xC0 + x)) = some ⟨1, x, 0x80, 0xBF⟩ := by
  revert x
  decide

/-- The lead byte of three has four bits, and the first one of them wants a higher second byte. -/
theorem lead?_three {x : Nat} (hx : x < 0x10) :
    lead? (.ofNat (0xE0 + x)) =
      some ⟨2, x, if x = 0 then 0xA0 else 0x80, if x = 0xD then 0x9F else 0xBF⟩ := by
  revert x
  decide

/-- The lead byte of four has three bits. -/
theorem lead?_four {x : Nat} (hx : x < 5) :
    lead? (.ofNat (0xF0 + x)) =
      some ⟨3, x, if x = 0 then 0x90 else 0x80, if x = 4 then 0x8F else 0xBF⟩ := by
  revert x
  decide

/-- A byte below 256 is what it is. -/
theorem toNat_ofNat {k : Nat} (hk : k < 256) : (UInt8.ofNat k).toNat = k :=
  UInt8.toNat_ofNat_of_lt' hk

/-- One more digit is taken in, if it is in range. -/
theorem complete_digit {low high : UInt8} (n bits : Nat) {y : Nat} (hy : y < 64)
    (hlow : low.toNat ≤ 0x80 + y) (hhigh : 0x80 + y ≤ high.toNat) (bytes : List UInt8) :
    complete low high (n + 1) bits (.ofNat (0x80 + y) :: bytes) =
      complete 0x80 0xBF n (64 * bits + y) bytes := by
  have hbyte : (UInt8.ofNat (0x80 + y)).toNat = 0x80 + y := toNat_ofNat (by omega)
  have hrange : low ≤ .ofNat (0x80 + y) ∧ .ofNat (0x80 + y) ≤ high := by
    rw [UInt8.le_iff_toNat_le, UInt8.le_iff_toNat_le, hbyte]
    exact ⟨hlow, hhigh⟩
  rw [complete, if_pos hrange, hbyte, Nat.add_sub_cancel_left]

/-- In most places every digit is. -/
theorem complete_any (n bits : Nat) {y : Nat} (hy : y < 64) (bytes : List UInt8) :
    complete 0x80 0xBF (n + 1) bits (.ofNat (0x80 + y) :: bytes) =
      complete 0x80 0xBF n (64 * bits + y) bytes :=
  complete_digit n bits hy (Nat.le_add_right _ _) (by show 0x80 + y ≤ 191; omega) bytes

/-- A lead byte is read together with the bytes that complete it. -/
theorem readings_of_complete {b : UInt8} {l : Lead} {v : Nat} {bs bytes : List UInt8}
    (hlead : lead? b = some l)
    (hcomplete : complete l.low l.high l.following l.bits bs = (some v, bytes)) :
    readings (b :: bs) = some (Char.ofNat v) :: readings bytes := by
  rw [readings, hlead]
  dsimp only
  rw [hcomplete]
  rfl

/-- A digit is above a bound that is raised only where the digit is large enough. -/
theorem ite_le_digit {p : Prop} [Decidable p] {low : UInt8} {y : Nat}
    (h : p → low.toNat ≤ 0x80 + y) : (if p then low else 0x80).toNat ≤ 0x80 + y := by
  split
  · next hp => exact h hp
  · exact Nat.le_add_right 0x80 y

/-- A digit is below a bound that is lowered only where the digit is small enough. -/
theorem digit_le_ite {p : Prop} [Decidable p] {high : UInt8} {y : Nat} (hy : y < 64)
    (h : p → 0x80 + y ≤ high.toNat) : 0x80 + y ≤ (if p then high else 0xBF).toNat := by
  split
  · next hp => exact h hp
  · exact Nat.add_le_add_left (Nat.le_of_lt_succ hy) 0x80

/-- **What writes a code point is read as that.** The cases are the numbers of bytes. In each of
them the lead byte asks for as many more as there are, and their digits add up to the code point
again. -/
theorem readings_of_writes {v : Nat} {bs : List UInt8} (h : Writes v bs) (bytes : List UInt8) :
    readings (bs ++ bytes) = some (Char.ofNat v) :: readings bytes := by
  cases h with
  | one hv =>
    have hbyte : (UInt8.ofNat v).toNat = v := toNat_ofNat (by omega)
    have hascii : UInt8.ofNat v ≤ 0x7F := by
      rw [UInt8.le_iff_toNat_le, hbyte]
      exact Nat.le_of_lt_succ hv
    rw [List.singleton_append, readings_ascii hascii, hbyte]
  | two hx hy hleast =>
    refine readings_of_complete (lead?_two hx (by omega)) ?_
    exact complete_any 0 _ hy bytes
  | @three x y z hx hy hz hleast hsurrogate =>
    refine readings_of_complete (lead?_three hx) ?_
    show complete (if x = 0 then 0xA0 else 0x80) (if x = 0xD then 0x9F else 0xBF) 2 x
      (.ofNat (0x80 + y) :: .ofNat (0x80 + z) :: bytes) = _
    rw [complete_digit 1 x hy ?low ?high, complete_any 0 _ hz]
    · rfl
    case low => exact ite_le_digit fun _ => show 0xA0 ≤ 0x80 + y by omega
    case high => exact digit_le_ite hy fun _ => show 0x80 + y ≤ 0x9F by omega
  | @four x y z u hx hy hz hu hleast hlast =>
    refine readings_of_complete (lead?_four hx) ?_
    show complete (if x = 0 then 0x90 else 0x80) (if x = 4 then 0x8F else 0xBF) 3 x
      (.ofNat (0x80 + y) :: .ofNat (0x80 + z) :: .ofNat (0x80 + u) :: bytes) = _
    rw [complete_digit 2 x hy ?low ?high, complete_any 1 _ hz, complete_any 0 _ hu]
    · rfl
    case low => exact ite_le_digit fun _ => show 0x90 ≤ 0x80 + y by omega
    case high => exact digit_le_ite hy fun _ => show 0x80 + y ≤ 0x8F by omega

/-- The bytes of a text are read as its characters, one after the other. -/
theorem readings_encode (t : Text) : readings (encode t) = t.map some := by
  induction t with
  | nil => exact readings_nil
  | cons c t ih =>
    show readings (String.utf8EncodeChar c ++ encode t) = _
    rw [readings_of_writes (writes_utf8EncodeChar c), ih, Char.ofNat_toNat]
    rfl

/-- There are no gaps where bytes write a text. -/
theorem decodeLossy_encode (t : Text) : decodeLossy (encode t) = t := by
  unfold decodeLossy
  rw [readings_encode, List.map_map]
  exact List.map_id t

/-- **A text is read back from its bytes.** -/
theorem decode?_encode (t : Text) : decode? (encode t) = some t := by
  unfold decode?
  rw [readings_encode]
  induction t with
  | nil => rfl
  | cons c t ih =>
    rw [List.map_cons, List.mapM_cons, ih]
    rfl

/-! ## Order -/

theorem head_lt {a b : Nat} (hab : a < b) (hb : b < 256) (s t : List UInt8) :
    UInt8.ofNat a :: s < UInt8.ofNat b :: t := by
  refine List.cons_lt_cons_iff.2 (.inl ?_)
  rwa [UInt8.lt_iff_toNat_lt, toNat_ofNat (by omega), toNat_ofNat hb]

/-- If two digits are equal the next ones decide. -/
theorem digit_lt {k x x' : Nat} (hk : k + x' < 256) (hle : x ≤ x') {s t : List UInt8}
    (hrest : x = x' → s < t) : UInt8.ofNat (k + x) :: s < UInt8.ofNat (k + x') :: t := by
  rcases Nat.lt_or_eq_of_le hle with hlt | rfl
  · exact head_lt (Nat.add_lt_add_left hlt k) hk s t
  · exact List.cons_lt_cons_iff.2 (.inr ⟨rfl, hrest rfl⟩)

/-- **The greater code point has the greater bytes**, whatever comes behind. Fewer bytes have a
smaller lead byte, and among as many bytes the first digit that differs decides. -/
theorem append_lt_of_writes {v w : Nat} {bs cs : List UInt8} (h : Writes v bs) (h' : Writes w cs)
    (hlt : v < w) (s t : List UInt8) : bs ++ s < cs ++ t := by
  cases h with
  | one hv =>
    cases h' with
    | one hw => exact head_lt hlt (by omega) s t
    | two hx => exact head_lt (by omega) (by omega) s _
    | three hx => exact head_lt (by omega) (by omega) s _
    | four hx => exact head_lt (by omega) (by omega) s _
  | two hx hy =>
    -- longer characters begin with larger bytes, and equally long ones differ in some digit
    cases h' with
    | one hw => omega
    | two hx' hy' =>
      refine digit_lt (by omega) (by omega) fun hx => ?_
      exact head_lt (by omega) (by omega) s t
    | three hx' => exact head_lt (by omega) (by omega) _ _
    | four hx' => exact head_lt (by omega) (by omega) _ _
  | three hx hy hz hleast =>
    cases h' with
    | one hw => omega
    | two hx' => omega
    | three hx' hy' hz' =>
      refine digit_lt (by omega) (by omega) fun hx => ?_
      refine digit_lt (by omega) (by omega) fun hy => ?_
      exact head_lt (by omega) (by omega) s t
    | four hx' => exact head_lt (by omega) (by omega) _ _
  | four hx hy hz hu hleast =>
    cases h' with
    | one hw => omega
    | two hx' => omega
    | three hx' => omega
    | four hx' hy' hz' hu' =>
      refine digit_lt (by omega) (by omega) fun hx => ?_
      refine digit_lt (by omega) (by omega) fun hy => ?_
      refine digit_lt (by omega) (by omega) fun hz => ?_
      exact head_lt (by omega) (by omega) s t

/-- **Bytes are in the order of the characters.** The induction is on the order of the two texts: up
to the first difference their bytes are equal, and there the greater character has the greater
bytes. -/
theorem encode_lt_encode {s t : Text} (h : s < t) : encode s < encode t := by
  induction h with
  | @nil c t =>
    show [] < String.utf8EncodeChar c ++ encode t
    obtain ⟨b, bs, hb⟩ := List.exists_cons_of_ne_nil (String.utf8EncodeChar_ne_nil (c := c))
    rw [hb]
    exact List.Lex.nil
  | @rel c s d t hcd =>
    exact append_lt_of_writes (writes_utf8EncodeChar c) (writes_utf8EncodeChar d) hcd _ _
  | cons _ ih => exact List.append_left_lt ih

end Utf8

end TexTranscript
