import Mathlib.Data.List.Infix
import Mathlib.Data.List.TakeWhile
import TexTranscript.Grammar.Reaction
import TexTranscript.Stream.Reader

/-!
# Physical lines, one at a time

A reaction may ask for the next physical line, whatever the lines would gather to. It is given
what the first of the lines says that are left, and the others are left then.

What a line says holds no line feed: none is among its bytes, because a reader stops at the first
one that comes, and no other bytes are read as one, because what more than one byte writes is not
below the control characters.

## Main statements

* `LineSource.takeLine_spec` – the next line, and what is left.
* `LineReader.lineFeed_notMem_text` – a line holds no line feed.
-/

namespace TexTranscript

namespace LineSource

/-- **The next line is the first** of those that are left, with the others behind it. What a source
promises about its next line is said here of both components. -/
theorem takeLine_spec {R : Type} [LineSource R] (r : R) :
    (takeLine r).1 = (lines r).head?.map Line.text ∧ lines (takeLine r).2 = (lines r).tail := by
  have hlaw : (takeLine r).map id lines = ((lines r).head?.map Line.text, (lines r).tail) := by
    rw [lines_takeLine]
    cases lines r with
    | nil => rfl
    | cons l ls => rfl
  exact ⟨congrArg Prod.fst hlaw, congrArg Prod.snd hlaw⟩

end LineSource

/-- **A reaction that asks for the next line** goes on with what that says. -/
theorem Reaction.run_nextLine_bind {R ν α : Type} [LineSource R] (verbose : Bool)
    (f : Option Text → Reaction ν α) (s : Scope R) :
    (nextLine.bind f).run verbose s = (f ((LineSource.lines s.unread).head?.map Line.text)).run
      verbose (s.withUnread (LineSource.takeLine s.unread).2) := by
  rw [← (LineSource.takeLine_spec s.unread).1]
  rfl

/-! ## No line feed among the bytes -/

/-- What is read up to a byte holds it nowhere but at the end. -/
theorem ByteSource.notMem_dropLast_readUntil {stop : UInt8} {buf : List UInt8} (h : stop ∉ buf)
    (held : List UInt8) (fills : List Fill) :
    stop ∉ (readUntil stop buf held fills).2.1.dropLast := by
  have hmiss {held : List UInt8} (hheld : held.dropWhile (· != stop) = []) : stop ∉ held := by
    intro hm
    have hne := List.dropWhile_eq_nil_iff.1 hheld stop hm
    exact Bool.false_ne_true ((bne_self_eq_false stop).symm.trans hne)
  fun_induction readUntil stop buf held fills with
  | case1 fills buf held b rest hheld =>
    rw [← List.append_assoc, List.dropLast_concat]
    intro hm
    rcases List.mem_append.1 hm with hm | hm
    · exact h hm
    · have hne := List.mem_takeWhile_imp (p := (· != stop)) hm
      exact Bool.false_ne_true ((bne_self_eq_false stop).symm.trans hne)
  | case2 buf held hheld | case3 buf held hheld fills | case6 buf held hheld fills =>
    intro hm
    rcases List.mem_append.1 (List.mem_of_mem_dropLast hm) with hm | hm
    · exact h hm
    · exact hmiss hheld hm
  | case4 buf held hheld b chunk fills ih | case5 buf held hheld fills ih =>
    refine ih fun hm => ?_
    rcases List.mem_append.1 hm with hm | hm
    · exact h hm
    · exact hmiss hheld hm

/-- A line is read without the line feed at the end. -/
theorem Line.lineFeed_notMem_ofRead {read : List UInt8} (h : lineFeed ∉ read.dropLast) :
    lineFeed ∉ (ofRead read).bytes := by
  unfold ofRead
  split
  · unfold dropReturn
    split
    · exact fun hm => h (List.mem_of_mem_dropLast hm)
    · exact h
  · next hlast =>
    intro hm
    obtain ⟨front, last, rfl⟩ := List.eq_nil_or_concat' read |>.resolve_left (List.ne_nil_of_mem hm)
    rw [List.dropLast_concat] at h
    rw [List.getLast?_concat] at hlast
    rcases List.mem_append.1 hm with hm | hm
    · exact h hm
    · exact hlast (congrArg some (List.mem_singleton.1 hm).symm)

namespace LineReader

/-- The buffer holds no line feed once a line was read. -/
theorem lineFeed_notMem_readLine {r r' : LineReader} {terminated : Bool}
    (h : r.readLine = (some terminated, r')) : lineFeed ∉ r'.buf := by
  have hread : lineFeed ∉
      (ByteSource.readUntil lineFeed [] r.inner.held r.inner.fills).2.1.dropLast :=
    ByteSource.notMem_dropLast_readUntil List.not_mem_nil _ _
  unfold readLine at h
  split at h
  · exact absurd (congrArg Prod.fst h).symm (Option.some_ne_none _)
  · split at h
    · next b read inner hr =>
      rw [hr] at hread
      obtain rfl := congrArg Prod.snd h
      exact Line.lineFeed_notMem_ofRead hread
    · exact absurd (congrArg Prod.fst h).symm (Option.some_ne_none _)

/-- **No line holds a line feed**, whatever comes of the bytes, since a line is read up to the first
one, which is taken off. -/
theorem lineFeed_notMem_bytes {r : LineReader} {l : Line} (h : l ∈ r.lines) :
    lineFeed ∉ l.bytes := by
  fun_induction lines r with
  | case1 r terminated r' hr ih =>
    rcases List.mem_cons.1 h with rfl | h
    · exact lineFeed_notMem_readLine hr
    · exact ih h
  | case2 r r' hr => exact absurd h List.not_mem_nil

end LineReader

/-! ## No line feed in the text -/

namespace Utf8

variable {low high : UInt8} {n bits v : Nat} {bytes : List UInt8}

/-- The bytes behind a character are the last ones. -/
theorem complete_suffix (low high : UInt8) (n bits : Nat) (bytes : List UInt8) :
    (complete low high n bits bytes).2 <:+ bytes := by
  induction bytes generalizing low high n bits with
  | nil =>
    cases n with
    | zero => exact List.suffix_refl _
    | succ n => exact List.suffix_refl _
  | cons b bytes ih =>
    cases n with
    | zero => exact List.suffix_refl _
    | succ n =>
      unfold complete
      split
      · exact (ih ..).trans (List.suffix_cons b bytes)
      · exact List.suffix_refl _

/-- More bytes make a character no smaller. -/
theorem le_of_complete (h : (complete low high n bits bytes).1 = some v) : bits ≤ v := by
  induction bytes generalizing low high n bits with
  | nil =>
    cases n with
    | zero => exact Nat.le_of_eq (Option.some.inj h)
    | succ n => exact absurd h.symm (Option.some_ne_none v)
  | cons b bytes ih =>
    cases n with
    | zero => exact Nat.le_of_eq (Option.some.inj h)
    | succ n =>
      unfold complete at h
      split at h
      · have hle := ih h
        omega
      · exact absurd h.symm (Option.some_ne_none v)

/-- The second byte says what a character is at least. -/
theorem le_of_complete_succ (h : (complete low high (n + 1) bits bytes).1 = some v) :
    64 * bits + (low.toNat - 0x80) ≤ v := by
  cases bytes with
  | nil => exact absurd h.symm (Option.some_ne_none v)
  | cons b bytes =>
    unfold complete at h
    split at h
    · next hrange =>
      have hlow := UInt8.le_iff_toNat_le.1 hrange.1
      have hle := le_of_complete h
      omega
    · exact absurd h.symm (Option.some_ne_none v)

/-- A character of one byte is that byte. All others are beyond the line feed. -/
theorem lead?_below {b : UInt8} {l : Lead} (h : lead? b = some l) :
    (l.following = 0 ∧ l.bits = b.toNat) ∨
      ∃ n, l.following = n + 1 ∧ 0x0A < 64 * l.bits + (l.low.toNat - 0x80) := by
  have hall : ∀ x < 256, (lead? (.ofNat x)).all fun l => decide (l.following = 0 ∧ l.bits = x ∨
      l.following ≠ 0 ∧ 0x0A < 64 * l.bits + (l.low.toNat - 0x80)) := by decide +kernel
  have hb := hall b.toNat b.toNat_lt
  rw [UInt8.ofNat_toNat, h] at hb
  rcases of_decide_eq_true hb with hone | ⟨hmore, hlt⟩
  · exact .inl hone
  · exact .inr ⟨_, (Nat.succ_pred hmore).symm, hlt⟩

/-- **A line feed is read** only where there is one. -/
theorem lineFeed_mem_of_mem_readings (h : some '\n' ∈ readings bytes) : lineFeed ∈ bytes := by
  fun_induction readings bytes with
  | case1 => exact absurd h List.not_mem_nil
  | case2 b bytes hlead ih =>
    exact List.mem_cons_of_mem b (ih ((List.mem_cons.1 h).resolve_left (Option.some_ne_none _)))
  | case3 b bytes l hlead ih =>
    rcases List.mem_cons.1 h with h | h
    · obtain ⟨v, hv, hchar⟩ := Option.map_eq_some_iff.1 h.symm
      have hcode : v = 0x0A := by
        by_cases hvalid : v.isValidChar
        · rw [Char.ofNat, dif_pos hvalid] at hchar
          exact congrArg Char.toNat hchar
        · rw [Char.ofNat, dif_neg hvalid] at hchar
          exact absurd hchar (by decide)
      rcases lead?_below hlead with ⟨hone, hbits⟩ | ⟨n, hmore, hlt⟩
      · rw [hone, complete] at hv
        have hb : b.toNat = lineFeed.toNat := hbits.symm.trans ((Option.some.inj hv).trans hcode)
        rw [UInt8.toNat_inj.1 hb]
        exact List.mem_cons_self
      · rw [hmore] at hv
        have hle := le_of_complete_succ hv
        omega
    · exact List.mem_cons_of_mem b ((complete_suffix ..).subset (ih h))

/-- A text that is decoded holds no line feed if the bytes do not: neither a longer character nor
the replacement of malformed bytes is one. -/
theorem lineFeed_notMem_decodeLossy (h : lineFeed ∉ bytes) : '\n' ∉ decodeLossy bytes := by
  intro hm
  obtain ⟨reading, hreading, hchar⟩ := List.mem_map.1 hm
  cases reading with
  | none => exact absurd hchar (by decide)
  | some c =>
    obtain rfl : c = '\n' := hchar
    exact h (lineFeed_mem_of_mem_readings hreading)

end Utf8

/-- **What a line says holds no line feed.** -/
theorem LineReader.lineFeed_notMem_text {r : LineReader} {l : Line} (h : l ∈ r.lines) :
    '\n' ∉ l.text := Utf8.lineFeed_notMem_decodeLossy (lineFeed_notMem_bytes h)

end TexTranscript
