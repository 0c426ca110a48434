import Mathlib.Data.List.TakeDrop
import Mathlib.Tactic.IntervalCases
import TexTranscript.Json.Reader
import TexTranscript.Json.Writer

/-!
# Values and their spellings

A value can be written in many ways, on one line or on several. What they have in
common is told by a grammar: which texts *spell* a value, with white space wherever a
layout puts some. The grammar is indexed by what the reader takes in one go – a value,
or the items or members of one, up to the closing bracket – so that a single induction
goes through all of them.

The reader takes exactly what is spelled off a text and leaves the rest alone. Only
after a number it matters what comes next, for a number goes on as long as it can; in
a value it is a comma, a bracket or white space.

To the reader a natural number has sixty-four bits, and is foreign if it has more. So
the values that are read back are those whose numbers *fit*.

## Main definitions

* `Json.Part`, `Json.Spells` – the grammar.
* `Json.Takes` – the reader takes a part off a text.
* `Json.Fits` – all numbers of a value have sixty-four bits.

## Main statements

* `Json.takes_of_spells` – what is spelled is taken.
* `Json.spells_compact`, `Json.spells_spread` – both layouts spell the value.
* `Json.read?_compact`, `Json.read?_spread` – a value is read back.
-/

namespace TexTranscript

namespace Json

/-! ## White space -/

/-- White space that may stand around values. -/
def isBlank (c : Char) : Bool := c == ' ' || c == '\t' || c == '\n' || c == '\r'

/-- All of the text is white space. -/
def IsBlank (w : Text) : Prop := ∀ c ∈ w, isBlank c = true

theorem isBlank_nil : IsBlank [] := List.forall_mem_nil _

theorem isBlank_space : IsBlank [' '] := List.forall_mem_singleton.2 rfl

theorem isBlank_newLine (level : Nat) : IsBlank (newLine level) := by
  intro c hc
  rcases List.mem_cons.1 hc with rfl | hc
  · rfl
  · rw [List.eq_of_mem_replicate hc]
    rfl

/-- White space in front is skipped. -/
theorem skipBlank_append {w : Text} (hw : IsBlank w) (t : Text) :
    skipBlank (w ++ t) = skipBlank t := by
  induction w with
  | nil => rfl
  | cons c w ih =>
    obtain ⟨hc, hw⟩ := List.forall_mem_cons.1 hw
    exact (List.dropWhile_cons_of_pos hc).trans (ih hw)

/-- Nothing but white space is skipped. -/
theorem skipBlank_cons {c : Char} (hc : isBlank c = false) (t : Text) :
    skipBlank (c :: t) = c :: t :=
  List.dropWhile_cons_of_neg (Bool.eq_false_iff.1 hc)

/-- White space that was skipped is not there to be skipped again. -/
theorem skipBlank_skipBlank (t : Text) : skipBlank (skipBlank t) = skipBlank t := by
  induction t with
  | nil => rfl
  | cons c t ih =>
    cases hc : isBlank c with
    | true =>
      have hskip : skipBlank (c :: t) = skipBlank t := List.dropWhile_cons_of_pos hc
      rw [hskip, ih]
    | false => rw [skipBlank_cons hc, skipBlank_cons hc]

/-! ## Texts -/

/-- A digit of base sixteen is read as what it was written for. -/
theorem hexValue?_hexDigit {n : Nat} (h : n < 16) : hexValue? (hexDigit n) = some n := by
  revert n
  decide

/-- A byte that is written as two digits behind two zeros is read back. -/
theorem hexValue4?_of_lt {n : Nat} (h : n < 256) :
    hexValue4? '0' '0' (hexDigit (n / 16)) (hexDigit (n % 16)) = some n := by
  have hzero : hexValue? '0' = some 0 := rfl
  unfold hexValue4?
  rw [hzero, hexValue?_hexDigit (by omega), hexValue?_hexDigit (Nat.mod_lt n (by decide))]
  show some (0 + n / 16 * 16 + n % 16) = some n
  rw [Nat.zero_add, Nat.div_add_mod']

variable {t rest : Text} {ps : List Unit16}

/-- A character that needs no escape is read as itself. -/
theorem pieces?_self {c : Char} (hq : c ≠ '"') (hb : c ≠ '\\') (hc : 0x20 ≤ c.toNat)
    (h : pieces? t = some (ps, rest)) : pieces? (c :: t) = some (.char c :: ps, rest) := by
  rw [pieces?.eq_5 c t hq (fun _ _ _ _ _ hc' _ => hb hc') (fun _ _ hc' _ => hb hc'), h,
    if_neg (not_or.2 ⟨hb, Nat.not_lt.2 hc⟩)]
  rfl

/-- A character that is escaped by a letter is read back. -/
theorem pieces?_letter {c e : Char} (he : unescape? e = some c)
    (h : pieces? t = some (ps, rest)) : pieces? ('\\' :: e :: t) = some (.char c :: ps, rest) := by
  have hu : e ≠ 'u' := by
    rintro rfl
    exact Option.some_ne_none c he.symm
  rw [pieces?.eq_4 e t (fun _ _ _ _ _ he' _ => hu he'), he, h]
  rfl

/-- A control character that is escaped by its code is read back. -/
theorem pieces?_code {c : Char} (hc : c.toNat < 0x20) (h : pieces? t = some (ps, rest)) :
    pieces? ('\\' :: 'u' :: '0' :: '0' :: hexDigit (c.toNat / 16) :: hexDigit (c.toNat % 16) :: t)
      = some (.char c :: ps, rest) := by
  have hcode : Unit16.ofCode c.toNat = .char c := by
    unfold Unit16.ofCode
    rw [if_neg (by omega), Char.ofNat_toNat]
  rw [pieces?.eq_3, hexValue4?_of_lt (by omega), h]
  show some (Unit16.ofCode c.toNat :: ps, rest) = _
  rw [hcode]

/-- **A character is read back**, however it was escaped. -/
theorem pieces?_escapeChar (c : Char) (h : pieces? t = some (ps, rest)) :
    pieces? (escapeChar c ++ t) = some (.char c :: ps, rest) := by
  unfold escapeChar
  split
  · next hq => exact pieces?_letter (by rw [hq]; rfl) h
  split
  · next hb => exact pieces?_letter (by rw [hb]; rfl) h
  split
  · next hq hb hc => exact pieces?_self hq hb hc h
  split
  · next hc => exact pieces?_letter (by rw [hc]; rfl) h
  split
  · next hc => exact pieces?_letter (by rw [hc]; rfl) h
  split
  · next hc => exact pieces?_letter (by rw [hc]; rfl) h
  split
  · next hc => exact pieces?_letter (by rw [hc]; rfl) h
  split
  · next hc => exact pieces?_letter (by rw [hc]; rfl) h
  · next hc _ _ _ _ _ => exact pieces?_code (Nat.lt_of_not_le hc) h

/-- A quoted text is read back. -/
theorem pieces?_quoted (s rest : Text) :
    pieces? (s.flatMap escapeChar ++ '"' :: rest) = some (s.map .char, rest) := by
  induction s with
  | nil => rfl
  | cons c s ih =>
    rw [List.flatMap_cons, List.append_assoc]
    exact pieces?_escapeChar c ih

/-- Characters that were read one by one make up their text. -/
theorem assemble?_map_char (s : Text) : assemble? (s.map .char) = some s := by
  induction s with
  | nil => rfl
  | cons c s ih =>
    rw [List.map_cons, assemble?, ih]
    rfl

/-! ## Numbers -/

/-- **No number goes on** with this text. -/
def EndsNumber (rest : Text) : Prop :=
  ∀ c ∈ rest.head?, ¬('0' ≤ c ∧ c ≤ '9') ∧ c ≠ '.' ∧ c ≠ 'e' ∧ c ≠ 'E'

/-- A number is written in digits. -/
theorem mem_toDigits {n : Nat} {c : Char} (hc : c ∈ Nat.toDigits 10 n) : '0' ≤ c ∧ c ≤ '9' := by
  have hdigit := Nat.isDigit_of_mem_toDigits (by decide) (by decide) hc
  simpa [Char.isDigit, Char.le_def] using hdigit

/-- All digits are taken, up to what ends the number. -/
theorem takeDigits_append {digits rest : Text} (hd : ∀ c ∈ digits, '0' ≤ c ∧ c ≤ '9')
    (hrest : EndsNumber rest) : takeDigits (digits ++ rest) = (digits, rest) := by
  let p : Char → Bool := fun c => decide ('0' ≤ c ∧ c ≤ '9')
  have hp : ∀ c ∈ digits, p c = true := fun c hc => decide_eq_true (hd c hc)
  have hstop : rest.takeWhile p = [] ∧ rest.dropWhile p = rest := by
    cases rest with
    | nil => exact ⟨rfl, rfl⟩
    | cons c rest =>
      have hc : ¬p c = true := fun h => (hrest c rfl).1 (of_decide_eq_true h)
      exact ⟨List.takeWhile_cons_of_neg hc, List.dropWhile_cons_of_neg hc⟩
  show (digits ++ rest).span p = _
  rw [List.span_eq_takeWhile_dropWhile, List.takeWhile_append_of_pos hp,
    List.dropWhile_append_of_pos hp, hstop.1, hstop.2, List.append_nil]

/-- Digits are read from the first one, each of which makes ten times as much of those before it. -/
theorem asciiNumberFrom_eq {digits : Text} (hd : ∀ c ∈ digits, '0' ≤ c ∧ c ≤ '9') (value : Nat) :
    Text.asciiNumberFrom value digits = some (Nat.ofDigitChars 10 digits value) := by
  induction digits generalizing value with
  | nil => rfl
  | cons c digits ih =>
    obtain ⟨hc, hd⟩ := List.forall_mem_cons.1 hd
    rw [Text.asciiNumberFrom, Text.asciiDigit?, if_pos hc, Option.bind_some, ih hd,
      Nat.ofDigitChars_cons]

/-- Digits have the value of the number that they were written for. -/
theorem valueOf_toDigits (n : Nat) : valueOf (Nat.toDigits 10 n) = n := by
  unfold valueOf
  rw [asciiNumberFrom_eq fun c hc => mem_toDigits hc, Nat.ofDigitChars_ten_toDigits]
  rfl

/-- A number begins with a digit, and with a zero only if it is one. -/
theorem toDigits_cons (n : Nat) :
    ∃ d < 10, ∃ ds, Nat.toDigits 10 n = Nat.digitChar d :: ds ∧ (d = 0 → n = 0) := by
  by_cases hn : n < 10
  · exact ⟨n, hn, [], Nat.toDigits_of_lt_base hn, id⟩
  · rw [Nat.toDigits_of_base_le (by decide) (by omega)]
    obtain ⟨d, hd, ds, htext, hzero⟩ := toDigits_cons (n / 10)
    exact ⟨d, hd, ds ++ [_], congrArg (· ++ [_]) htext, fun h => by have := hzero h; omega⟩

/-- The digits of a number are its whole part, since it begins with a zero only if it is zero. -/
theorem whole?_toDigits (n : Nat) {rest : Text} (hrest : EndsNumber rest) :
    whole? (Nat.toDigits 10 n ++ rest) = some (Nat.toDigits 10 n, rest) := by
  unfold whole?
  rw [takeDigits_append (fun c hc => mem_toDigits hc) hrest]
  by_cases hn : n = 0
  · subst hn
    rfl
  · obtain ⟨d, hd, ds, htext, hzero⟩ := toDigits_cons n
    have hne : ∀ d < 10, Nat.digitChar d = '0' → d = 0 := by decide
    rw [htext]
    split
    · next h => exact absurd (Prod.mk.inj h).1 (List.cons_ne_nil _ _)
    · next h => exact absurd (hzero (hne d hd (List.cons.inj (Prod.mk.inj h).1).1)) hn
    · next h => rw [(Prod.mk.inj h).1, (Prod.mk.inj h).2]

/-- What ends a number is not the point of a fraction. -/
theorem fraction?_of_endsNumber {rest : Text} (hrest : EndsNumber rest) :
    fraction? rest = some (none, rest) := by
  cases rest with
  | nil => rfl
  | cons c rest =>
    unfold fraction?
    split
    · next h => exact absurd (List.cons.inj h).1 (hrest c rfl).2.1
    · rfl

/-- What ends a number is not the letter of an exponent. -/
theorem exponent?_of_endsNumber {rest : Text} (hrest : EndsNumber rest) :
    exponent? rest = some (none, rest) := by
  cases rest with
  | nil => rfl
  | cons c rest =>
    obtain ⟨-, -, he, hE⟩ := hrest c rfl
    unfold exponent?
    exact if_neg (by simp [he, hE])

/-- A number without point and exponent is natural, unless it has a sign or too many bits. -/
theorem number?_toDigits (negative : Bool) (n : Nat) {rest : Text} (hrest : EndsNumber rest) :
    number? negative (Nat.toDigits 10 n ++ rest) =
      some (if !negative && decide (n < UInt64.size) then .natural n
        else .foreign (DecimalText.inRange ⟨Nat.toDigits 10 n, [], 0⟩), rest) := by
  unfold number?
  rw [whole?_toDigits n hrest]
  show (fraction? rest).bind _ = _
  rw [fraction?_of_endsNumber hrest]
  show (exponent? rest).bind _ = _
  rw [exponent?_of_endsNumber hrest]
  show (if (!negative && true && true && decide (valueOf (Nat.toDigits 10 n) < UInt64.size)) = true
    then some (Json.natural (valueOf (Nat.toDigits 10 n)), rest) else _) = _
  rw [valueOf_toDigits, Bool.and_true, Bool.and_true]
  split <;> rfl

/-! ## Values -/

/-- White space in front of a value does not matter. -/
theorem value?_skipBlank (n : Nat) (t : Text) : value? n (skipBlank t) = value? n t := by
  cases n with
  | zero => rfl
  | succ n => rw [value?, value?, skipBlank_skipBlank]

/-- White space in front of items does not matter. -/
theorem items?_skipBlank (n : Nat) (t : Text) : items? n (skipBlank t) = items? n t := by
  cases n with
  | zero => rfl
  | succ n => rw [items?, items?, value?_skipBlank]

/-- White space in front of members does not matter. -/
theorem members?_skipBlank (n : Nat) (t : Text) : members? n (skipBlank t) = members? n t := by
  have hkey : members?.key? (skipBlank t) = members?.key? t := by
    rw [members?.key?, members?.key?, skipBlank_skipBlank]
  cases n with
  | zero => rfl
  | succ n => rw [members?, members?, hkey]

/-- **What the reader takes in one go**: a value, or the items or members that are left of one. -/
inductive Part where
  | value (j : Json)
  | items (js : List Json)
  | members (ms : List (String × Json))

/-- **The texts that spell a part.** Those of items and of members go up to the bracket that
closes them, and there is at least one. -/
inductive Spells : Part → Text → Prop
  | null : Spells (.value .null) "null".toList
  | bool (b : Bool) : Spells (.value (.bool b)) (if b then "true".toList else "false".toList)
  | natural {n : Nat} (h : n < UInt64.size) : Spells (.value (.natural n)) (Nat.toDigits 10 n)
  | string (s : String) : Spells (.value (.string s)) (quote s)
  | foreign (holdable : Bool) : Spells (.value (.foreign holdable)) (writeForeign holdable)
  | emptyArray : Spells (.value (.array [])) ['[', ']']
  | array {js : List Json} {t : Text} (h : Spells (.items js) t) :
      Spells (.value (.array js)) ('[' :: t)
  | emptyObject : Spells (.value (.object [])) ['\x7b', '\x7d']
  | object {ms : List (String × Json)} {t : Text} (h : Spells (.members ms) t) :
      Spells (.value (.object ms)) ('\x7b' :: t)
  | lastItem {j : Json} {w t w' : Text} (hw : IsBlank w) (h : Spells (.value j) t)
      (hw' : IsBlank w') : Spells (.items [j]) (w ++ (t ++ (w' ++ [']'])))
  | item {j : Json} {js : List Json} {w t w' rest : Text} (hw : IsBlank w)
      (h : Spells (.value j) t) (hw' : IsBlank w') (hrest : Spells (.items js) rest) :
      Spells (.items (j :: js)) (w ++ (t ++ (w' ++ ',' :: rest)))
  | lastMember {key : String} {j : Json} {w v t w' : Text} (hw : IsBlank w) (hv : IsBlank v)
      (h : Spells (.value j) t) (hw' : IsBlank w') :
      Spells (.members [(key, j)]) (w ++ (quote key ++ ':' :: (v ++ (t ++ (w' ++ ['\x7d'])))))
  | member {key : String} {j : Json} {ms : List (String × Json)} {w v t w' rest : Text}
      (hw : IsBlank w) (hv : IsBlank v) (h : Spells (.value j) t) (hw' : IsBlank w')
      (hrest : Spells (.members ms) rest) :
      Spells (.members ((key, j) :: ms))
        (w ++ (quote key ++ ':' :: (v ++ (t ++ (w' ++ ',' :: rest)))))

/-- **The reader takes the part** off any text that begins with `t`, if it may make steps
enough. What comes behind a value must not look like more of a number. -/
def Takes : Part → Text → Prop
  | .value j, t => ∀ n rest, 2 * t.length ≤ n → EndsNumber rest →
      value? n (t ++ rest) = some (j, rest)
  | .items js, t => ∀ n rest, 2 * t.length + 1 ≤ n → items? n (t ++ rest) = some (js, rest)
  | .members ms, t => ∀ n rest, 2 * t.length + 1 ≤ n →
      members? n (t ++ rest) = some (ms.map fun m => (some m.1.toList, m.2), rest)

/-! ## What is spelled is taken -/

variable {j : Json} {js : List Json} {ms : List (String × Json)} {w : Text}

/-- A value is read behind white space. -/
theorem value?_blank (n : Nat) (hw : IsBlank w) (t : Text) : value? n (w ++ t) = value? n t := by
  rw [← value?_skipBlank, skipBlank_append hw, value?_skipBlank]

/-- No white space stands in front of a value, and no closing bracket. -/
theorem Spells.value_head (h : Spells (.value j) t) :
    ∃ c t', t = c :: t' ∧ isBlank c = false ∧ c ≠ ']' := by
  cases h with
  | null => exact ⟨'n', _, rfl, rfl, by decide⟩
  | bool b => cases b with
    | true => exact ⟨'t', _, rfl, rfl, by decide⟩
    | false => exact ⟨'f', _, rfl, rfl, by decide⟩
  | natural h =>
    obtain ⟨k, hk, ds, hd, -⟩ := toDigits_cons _
    have hdigit : ∀ k < 10, isBlank (Nat.digitChar k) = false ∧ Nat.digitChar k ≠ ']' := by decide
    exact ⟨_, ds, hd, hdigit k hk⟩
  | string s => exact ⟨'"', _, rfl, rfl, by decide⟩
  | foreign holdable => cases holdable with
    | true => exact ⟨'-', _, rfl, rfl, by decide⟩
    | false => exact ⟨'"', _, rfl, rfl, by decide⟩
  | emptyArray => exact ⟨'[', _, rfl, rfl, by decide⟩
  | array _ => exact ⟨'[', _, rfl, rfl, by decide⟩
  | emptyObject => exact ⟨'\x7b', _, rfl, rfl, by decide⟩
  | object _ => exact ⟨'\x7b', _, rfl, rfl, by decide⟩

/-- Items do not begin with the closing bracket. -/
theorem Spells.items_head (h : Spells (.items js) t) (rest : Text) :
    ∃ c t', c ≠ ']' ∧ skipBlank (t ++ rest) = c :: t' := by
  cases h with
  | lastItem hw hv hw' =>
    obtain ⟨c, t', rfl, hc, hne⟩ := hv.value_head
    rw [List.append_assoc, skipBlank_append hw]
    exact ⟨c, _, hne, skipBlank_cons hc _⟩
  | item hw hv hw' hrest =>
    obtain ⟨c, t', rfl, hc, hne⟩ := hv.value_head
    rw [List.append_assoc, skipBlank_append hw]
    exact ⟨c, _, hne, skipBlank_cons hc _⟩

/-- Members begin with a quotation mark. -/
theorem Spells.members_head (h : Spells (.members ms) t) (rest : Text) :
    ∃ t', skipBlank (t ++ rest) = '"' :: t' := by
  cases h with
  | lastMember hw hv h hw' =>
    rw [List.append_assoc, skipBlank_append hw]
    exact ⟨_, skipBlank_cons rfl _⟩
  | member hw hv h hw' hrest =>
    rw [List.append_assoc, skipBlank_append hw]
    exact ⟨_, skipBlank_cons rfl _⟩

/-- A text is read back as a value. -/
theorem value?_quote (n : Nat) (s : String) (rest : Text) :
    value? (n + 1) (quote s ++ rest) = some (.string s, rest) := by
  unfold quote
  rw [List.append_assoc, List.cons_append, value?, skipBlank_cons rfl]
  show (pieces? (s.toList.flatMap escapeChar ++ '"' :: rest)).bind _ = _
  rw [pieces?_quoted, Option.bind_some]
  dsimp only
  rw [assemble?_map_char]
  exact congrArg (fun k => some (Json.string k, rest)) String.ofList_toList

/-- A number that can be stored is read back as a value. -/
theorem value?_toDigits (n : Nat) {k : Nat} (hk : k < UInt64.size) {rest : Text}
    (hrest : EndsNumber rest) :
    value? (n + 1) (Nat.toDigits 10 k ++ rest) = some (.natural k, rest) := by
  have hnumber : value? (n + 1) (Nat.toDigits 10 k ++ rest) =
      number? false (Nat.toDigits 10 k ++ rest) := by
    obtain ⟨d, hd, ds, htext, -⟩ := toDigits_cons k
    rw [htext, List.cons_append, value?]
    interval_cases d <;> rfl
  rw [hnumber, number?_toDigits false k hrest, if_pos (by simpa using hk)]

/-- The name of a member is read back, with the colon behind it. -/
theorem key?_quote (key : String) (rest : Text) :
    members?.key? (quote key ++ ':' :: rest) = some (some key.toList, rest) := by
  unfold quote
  rw [List.append_assoc, List.cons_append, members?.key?, skipBlank_cons rfl]
  show (pieces? (key.toList.flatMap escapeChar ++ '"' :: ':' :: rest)).bind _ = _
  rw [pieces?_quoted, Option.bind_some]
  show some (assemble? (key.toList.map .char), rest) = _
  rw [assemble?_map_char]

/-- No white space, comma or closing bracket goes on with a number. -/
theorem not_number_of_mark {d : Char}
    (hd : isBlank d = true ∨ d = ',' ∨ d = ']' ∨ d = '\x7d') :
    ¬('0' ≤ d ∧ d ≤ '9') ∧ d ≠ '.' ∧ d ≠ 'e' ∧ d ≠ 'E' := by
  simp only [isBlank, Bool.or_eq_true, beq_iff_eq] at hd
  rcases hd with (((rfl | rfl) | rfl) | rfl) | rfl | rfl | rfl <;> decide

/-- White space ends a number. -/
theorem EndsNumber.blank {w : Text} (hw : IsBlank w) : EndsNumber w :=
  fun d hd => not_number_of_mark (.inl (hw d (List.mem_of_mem_head? hd)))

/-- White space with a comma or a closing bracket behind it ends a number. -/
theorem EndsNumber.mark {w : Text} (hw : IsBlank w) {c : Char}
    (hc : c = ',' ∨ c = ']' ∨ c = '\x7d') (rest : Text) : EndsNumber (w ++ c :: rest) := by
  intro d hd
  cases w with
  | nil => exact not_number_of_mark (.inr (Option.some.inj hd ▸ hc))
  | cons a w => exact not_number_of_mark (.inl (hw d (Option.some.inj hd ▸ List.mem_cons_self)))

variable {n : Nat} {s : Text}

/-- After an item, the next mark decides. -/
theorem items?_eq (hw : IsBlank w) (h : Takes (.value j) t) (hn : 2 * t.length + 1 ≤ n)
    (hs : EndsNumber s) :
    items? n (w ++ (t ++ s)) =
      match skipBlank s with
      | ',' :: t => (items? (n - 1) t).bind fun r => some (j :: r.1, r.2)
      | ']' :: rest => some ([j], rest)
      | _ => none := by
  obtain _ | n := n
  · omega
  rw [items?, value?_blank n hw, h n _ (by omega) hs]
  rfl

/-- After a member, the next mark decides. -/
theorem members?_eq {key : String} {v : Text} (hw : IsBlank w) (hv : IsBlank v)
    (h : Takes (.value j) t) (hn : 2 * t.length + 1 ≤ n) (hs : EndsNumber s) :
    members? n (w ++ (quote key ++ ':' :: (v ++ (t ++ s)))) =
      match skipBlank s with
      | ',' :: t => (members? (n - 1) t).bind fun r => some ((some key.toList, j) :: r.1, r.2)
      | '\x7d' :: rest => some ([(some key.toList, j)], rest)
      | _ => none := by
  have hkey : members?.key? (w ++ (quote key ++ ':' :: (v ++ (t ++ s)))) =
      some (some key.toList, v ++ (t ++ s)) := by
    rw [members?.key?, skipBlank_append hw, ← members?.key?, key?_quote]
  obtain _ | n := n
  · omega
  rw [members?, hkey]
  show (value? n (v ++ (t ++ s))).bind _ = _
  rw [value?_blank n hv, h n _ (by omega) hs]
  rfl

/-- Members that were read make up their object. -/
theorem ofMembers_map (ms : List (String × Json)) :
    ofMembers (ms.map fun m => (some m.1.toList, m.2)) = .object ms := by
  have hkeys : (ms.map fun m => (some m.1.toList, m.2)).mapM
      (fun (m : Option Text × Json) => m.1.map fun k => (String.ofList k, m.2)) = some ms := by
    induction ms with
    | nil => rfl
    | cons m ms ih =>
      rw [List.map_cons, List.mapM_cons, ih]
      show some ((String.ofList m.1.toList, m.2) :: ms) = _
      rw [String.ofList_toList]
  unfold ofMembers
  rw [hkeys]

/-- Behind an opening bracket the next mark decides whether there are items at all. -/
theorem value?_bracket (n : Nat) (t : Text) :
    value? (n + 1) ('[' :: t) =
      match skipBlank t with
      | ']' :: rest => some (.array [], rest)
      | t => (items? n t).map fun r => (.array r.1, r.2) := by
  rw [value?, skipBlank_cons rfl]
  rfl

/-- Behind an opening brace the next mark decides whether there are members at all. -/
theorem value?_brace (n : Nat) (t : Text) :
    value? (n + 1) ('\x7b' :: t) =
      match skipBlank t with
      | '\x7d' :: rest => some (.object [], rest)
      | t => (members? n t).map fun r => (ofMembers r.1, r.2) := by
  rw [value?, skipBlank_cons rfl]
  rfl

/-- A list that is not empty is read item by item. -/
theorem value?_array {rest : Text} (h : Spells (.items js) t)
    (hread : items? n (t ++ rest) = some (js, rest)) :
    value? (n + 1) ('[' :: t ++ rest) = some (.array js, rest) := by
  obtain ⟨c, t', hc, ht⟩ := h.items_head rest
  rw [← items?_skipBlank, ht] at hread
  rw [List.cons_append, value?_bracket, ht]
  split
  · next h => exact absurd (List.cons.inj h).1 hc
  · rw [hread]
    rfl

/-- An object that is not empty is read member by member. -/
theorem value?_object {rest : Text} (h : Spells (.members ms) t)
    (hread : members? n (t ++ rest) = some (ms.map fun m => (some m.1.toList, m.2), rest)) :
    value? (n + 1) ('\x7b' :: t ++ rest) = some (.object ms, rest) := by
  obtain ⟨t', ht⟩ := h.members_head rest
  rw [← members?_skipBlank, ht] at hread
  rw [List.cons_append, value?_brace, ht]
  show (members? n ('"' :: t')).map _ = _
  rw [hread, Option.map_some, ofMembers_map]

/-- A value that is written takes the reader one step at least. -/
theorem Takes.value (ht : t ≠ []) (h : ∀ n rest, 2 * t.length ≤ n + 1 → EndsNumber rest →
    value? (n + 1) (t ++ rest) = some (j, rest)) : Takes (.value j) t := by
  intro n rest hn hrest
  have hpos := List.length_pos_iff.2 ht
  cases n with
  | zero => omega
  | succ n => exact h n rest hn hrest

/-- **What is spelled is taken.** The induction is on how the part is spelled; each part takes the
reader no more steps than it has characters, twice. -/
theorem takes_of_spells {p : Part} (h : Spells p t) : Takes p t := by
  induction h with
  | null => exact .value (by decide) fun _ _ _ _ => rfl
  | bool b => cases b <;> exact .value (by decide) fun _ _ _ _ => rfl
  | natural h => exact .value Nat.toDigits_ne_nil fun n _ _ hrest => value?_toDigits n h hrest
  | string s => exact .value (List.cons_ne_nil _ _) fun n rest _ _ => value?_quote n s rest
  | foreign holdable =>
    cases holdable with
    | true =>
      refine .value (by decide) fun n rest _ hrest => ?_
      exact (number?_toDigits true 1 hrest).trans rfl
    | false => exact .value (by decide) fun _ _ _ _ => rfl
  | emptyArray => exact .value (by decide) fun _ _ _ _ => rfl
  | array h ih =>
    refine .value (List.cons_ne_nil _ _) fun n rest hn _ => value?_array h (ih n rest ?_)
    simpa [Nat.mul_add] using hn
  | emptyObject => exact .value (by decide) fun _ _ _ _ => rfl
  | object h ih =>
    refine .value (List.cons_ne_nil _ _) fun n rest hn _ => value?_object h (ih n rest ?_)
    simpa [Nat.mul_add] using hn
  | lastItem hw h hw' ih =>
    intro n rest hn
    simp only [List.length_append, List.length_cons] at hn
    simp only [List.append_assoc, List.cons_append, List.nil_append]
    rw [items?_eq hw ih (by omega) (.mark hw' (by decide) _), skipBlank_append hw',
      skipBlank_cons rfl]
    rfl
  | item hw h hw' hrest ih ihrest =>
    intro n rest hn
    simp only [List.length_append, List.length_cons] at hn
    simp only [List.append_assoc, List.cons_append]
    rw [items?_eq hw ih (by omega) (.mark hw' (by decide) _), skipBlank_append hw',
      skipBlank_cons rfl]
    show (items? (n - 1) _).bind _ = _
    rw [ihrest (n - 1) rest (by omega)]
    rfl
  | lastMember hw hv h hw' ih =>
    intro n rest hn
    simp only [List.length_append, List.length_cons] at hn
    simp only [List.append_assoc, List.cons_append, List.nil_append]
    rw [members?_eq hw hv ih (by omega) (.mark hw' (by decide) _), skipBlank_append hw',
      skipBlank_cons rfl]
    rfl
  | member hw hv h hw' hrest ih ihrest =>
    intro n rest hn
    simp only [List.length_append, List.length_cons] at hn
    simp only [List.append_assoc, List.cons_append]
    rw [members?_eq hw hv ih (by omega) (.mark hw' (by decide) _), skipBlank_append hw',
      skipBlank_cons rfl]
    show (members? (n - 1) _).bind _ = _
    rw [ihrest (n - 1) rest (by omega)]
    rfl

/-! ## Both layouts -/

mutual

/-- **All numbers of the value have sixty-four bits.** -/
def Fits : Json → Prop
  | .natural n => n < UInt64.size
  | .array items => ItemsFit items
  | .object members => MembersFit members
  | .null => True
  | .bool _ => True
  | .string _ => True
  | .foreign _ => True

/-- **All numbers of the items have sixty-four bits.** -/
def ItemsFit : List Json → Prop
  | [] => True
  | j :: js => j.Fits ∧ ItemsFit js

/-- **All numbers of the values of the members have sixty-four bits.** -/
def MembersFit : List (String × Json) → Prop
  | [] => True
  | (_, j) :: ms => j.Fits ∧ MembersFit ms

end

mutual

/-- **The value on one line spells it.** -/
theorem spells_compact : ∀ j : Json, j.Fits → Spells (.value j) j.compact
  | .null, _ => .null
  | .bool b, _ => .bool b
  | .natural _, h => .natural h
  | .string s, _ => .string s
  | .foreign holdable, _ => .foreign holdable
  | .array [], _ => .emptyArray
  | .array (j :: js), h => .array (spells_compactItems (j :: js) (List.cons_ne_nil j js) h)
  | .object [], _ => .emptyObject
  | .object (m :: ms), h => .object (spells_compactMembers (m :: ms) (List.cons_ne_nil m ms) h)

/-- Items on one line, with the closing bracket, are spelled. -/
theorem spells_compactItems :
    ∀ js : List Json, js ≠ [] → ItemsFit js → Spells (.items js) (compactItems js ++ [']'])
  | [], hne, _ => absurd rfl hne
  | [j], _, h => .lastItem isBlank_nil (spells_compact j h.1) isBlank_nil
  | j :: k :: js, _, h => by
    rw [compactItems, List.append_assoc]
    exact .item isBlank_nil (spells_compact j h.1) isBlank_nil
      (spells_compactItems (k :: js) (List.cons_ne_nil k js) h.2)

/-- Members on one line, with the closing brace, are spelled. -/
theorem spells_compactMembers : ∀ ms : List (String × Json), ms ≠ [] → MembersFit ms →
    Spells (.members ms) (compactMembers ms ++ ['\x7d'])
  | [], hne, _ => absurd rfl hne
  | [(key, j)], _, h => by
    rw [compactMembers, List.append_assoc]
    exact .lastMember isBlank_nil isBlank_nil (spells_compact j h.1) isBlank_nil
  | (key, j) :: m :: ms, _, h => by
    rw [compactMembers, List.append_assoc, List.append_assoc]
    exact .member isBlank_nil isBlank_nil (spells_compact j h.1) isBlank_nil
      (spells_compactMembers (m :: ms) (List.cons_ne_nil m ms) h.2)

end

mutual

/-- **The value on several lines spells it.** -/
theorem spells_spread : ∀ (level : Nat) (j : Json), j.Fits → Spells (.value j) (j.spread level)
  | _, .null, _ => .null
  | _, .bool b, _ => .bool b
  | _, .natural _, h => .natural h
  | _, .string s, _ => .string s
  | _, .foreign holdable, _ => .foreign holdable
  | _, .array [], _ => .emptyArray
  | level, .array (j :: js), h => by
    rw [spread]
    simp only [List.append_assoc, List.cons_append]
    exact .array (spells_spreadItems (level + 1) js (isBlank_newLine level)
      (spells_spread (level + 1) j h.1) h.2)
  | _, .object [], _ => .emptyObject
  | level, .object ((key, j) :: ms), h => by
    rw [spread]
    simp only [List.append_assoc, List.cons_append]
    exact .object (spells_spreadMembers (level + 1) ms (isBlank_newLine level)
      (spells_spread (level + 1) j h.1) h.2)

/-- Items on several lines are spelled, behind one that is spelled already. -/
theorem spells_spreadItems (level : Nat) {j : Json} {t w : Text} : ∀ js : List Json, IsBlank w →
    Spells (.value j) t → ItemsFit js →
    Spells (.items (j :: js)) (newLine level ++ (t ++ (spreadItems level js ++ (w ++ [']']))))
  | [], hw, h, _ => .lastItem (isBlank_newLine level) h hw
  | k :: js, hw, h, hjs => by
    rw [spreadItems]
    simp only [List.append_assoc, List.cons_append]
    exact .item (isBlank_newLine level) h isBlank_nil
      (spells_spreadItems level js hw (spells_spread level k hjs.1) hjs.2)

/-- Members on several lines are spelled, behind one whose value is spelled already. -/
theorem spells_spreadMembers (level : Nat) {key : String} {j : Json} {t w : Text} :
    ∀ ms : List (String × Json), IsBlank w → Spells (.value j) t → MembersFit ms →
    Spells (.members ((key, j) :: ms))
      (newLine level ++ (quote key ++ (": ".toList ++
        (t ++ (spreadMembers level ms ++ (w ++ ['\x7d']))))))
  | [], hw, h, _ => .lastMember (v := [' ']) (isBlank_newLine level) isBlank_space h hw
  | (key', k) :: ms, hw, h, hms => by
    rw [spreadMembers]
    simp only [List.append_assoc, List.cons_append]
    exact .member (v := [' ']) (isBlank_newLine level) isBlank_space h isBlank_nil
      (spells_spreadMembers level ms hw (spells_spread level k hms.1) hms.2)

end

/-! ## Reading back -/

/-- **A value that is spelled is read**, with white space behind it. -/
theorem read?_append_of_spells (h : Spells (.value j) t) (hw : IsBlank w) :
    read? (t ++ w) = some j := by
  have htake := takes_of_spells h (2 * (t ++ w).length + 2) w
    (by rw [List.length_append]; omega) (.blank hw)
  have hblank : skipBlank w = [] := by
    rw [← List.append_nil w]
    exact skipBlank_append hw []
  unfold read?
  rw [htake]
  show (if (skipBlank w).isEmpty then some j else none) = some j
  rw [hblank]
  rfl

/-- **A value that is spelled is read.** -/
theorem read?_of_spells (h : Spells (.value j) t) : read? t = some j := by
  have hread := read?_append_of_spells h isBlank_nil
  rwa [List.append_nil] at hread

/-- **A value is read back** from one line. -/
theorem read?_compact (h : j.Fits) : read? j.compact = some j :=
  read?_of_spells (spells_compact j h)

/-- **A value is read back** from several lines, which may be indented. -/
theorem read?_spread (level : Nat) (h : j.Fits) : read? (j.spread level) = some j :=
  read?_of_spells (spells_spread level j h)

end Json

end TexTranscript
