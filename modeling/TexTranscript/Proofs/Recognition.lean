import Mathlib.Data.List.Basic
import Mathlib.Data.Option.Basic
import TexTranscript.Grammar.Basic

/-!
# How statements are recognized

What follows for a statement from the finding that a grammar reads off it: some
rule of the table matches it (`Grammar.exists_rule_of_classify`). What a simple
pattern matches is said apart.

A rule might refuse what its pattern captures. Those of the tables never do, since a match
captures as many texts as there are groups in the pattern (`Pattern.length_of_captures`), so
that a statement is passed over only if no rule matches it (`Grammar.classify_eq_none_iff`).

## Main statements

* `Pattern.matchesStart_lit` – a literal matches the texts that begin with it.
* `Rule.reading?_sign` – what a sign reads.
* `Grammar.exists_rule_of_classify` – a finding comes from a rule.
* `Pattern.length_of_captures` – how many texts a match captures.
* `Grammar.classify_eq_none_iff` – no finding where no rule matches.
-/

namespace TexTranscript

/-- What stands between two runs of characters that are stripped stays, whatever follows it. No
character of it is stripped from either side. -/
theorem Text.startsWith_stripBy {p : Char → Bool} (space front : Text)
    (hspace : ∀ c ∈ space, p c = true) (hfront : ∀ c ∈ front, p c = false) (rest : Text) :
    startsWith front (stripBy p (space ++ (front ++ rest))) = true := by
  cases front with
  | nil => rw [startsWith, after?_nil]; rfl
  | cons c front =>
    have hc : p c = false := hfront c List.mem_cons_self
    -- what is stripped in front ends with the first run
    have hd : (space ++ (c :: front ++ rest)).dropWhile p = c :: front ++ rest := by
      rw [List.dropWhile_append_of_pos hspace, List.cons_append,
        List.dropWhile_cons_of_neg (by simp [hc])]
    -- and what is stripped behind does not get past the end of the second
    have hr : (c :: front).reverse.dropWhile p = (c :: front).reverse := by
      have hne : (c :: front).reverse ≠ [] := by simp
      obtain ⟨last, init, hl⟩ := List.exists_cons_of_ne_nil hne
      have hm : last ∈ c :: front := by
        rw [← List.mem_reverse, hl]
        exact List.mem_cons_self
      rw [hl, List.dropWhile_cons_of_neg (by simp [hfront last hm])]
    rw [stripBy, hd, List.reverse_append, List.dropWhile_append, hr, startsWith_iff]
    split
    · exact ⟨[], by simp⟩
    · exact ⟨(rest.reverse.dropWhile p).reverse, by rw [List.reverse_append, List.reverse_reverse]⟩

/-- **A literal matches** the texts that begin with it. -/
theorem Pattern.matchesStart_lit (s : String) (t : Text) :
    (lit s).matchesStart t = Text.startsWith s.toList t := by
  unfold matchesStart
  rw [captures?_eq_search]
  show ((Text.after? s.toList t).bind _).isSome = (Text.after? s.toList t).isSome
  cases Text.after? s.toList t with
  | none => rfl
  | some rest => rfl

/-- Several characters of a class begin with one of them. -/
theorem Pattern.head_of_matchesStart_several {c : CharClass} {q : Pattern} {t : Text}
    (h : (several c ++ q).matchesStart t = true) : ∃ x u, t = x :: u ∧ c.contains x = true := by
  unfold matchesStart at h
  rw [captures?_eq_search] at h
  change ((several c).search (fun spans rest => q.search _ spans rest) [] t).isSome = true at h
  unfold search at h
  split at h
  · simp at h
  · next x u =>
    split at h
    · next hx => exact ⟨x, u, rfl, hx⟩
    · simp at h

/-- **A sign reads** the same off all statements that its pattern matches. A sign takes no notice of
what is captured. -/
theorem Rule.reading?_sign {ι : Type} (p : Pattern) (found : ι) (statement : Text) :
    (Rule.sign p found).reading? statement
      = if p.matchesStart statement then some found else none := by
  unfold Rule.sign Rule.reading? Pattern.matchesStart
  cases p.captures? statement with
  | none => rfl
  | some groups => rfl

/-- **A finding comes from a rule** of the table, which matches the statement. It is the first one
that reads anything. -/
theorem Grammar.exists_rule_of_classify {σ ι ν : Type} {g : Grammar σ ι ν} {statement : Text}
    {found : ι} (h : g.classify statement = some found) :
    ∃ rule ∈ g.rules, rule.pattern.matchesStart statement = true ∧
      ∃ groups, rule.read groups = some found := by
  obtain ⟨rule, hrule, hread⟩ := List.exists_of_findSome?_eq_some h
  obtain ⟨groups, hg, hfound⟩ := Option.bind_eq_some_iff.1 hread
  refine ⟨rule, hrule, ?_, groups, hfound⟩
  unfold Pattern.matchesStart
  rw [hg]
  rfl

/-! ## Rules that read whatever they match -/

/-- How many groups a match closes, if that is the same for every match. -/
def Pattern.groups? : Pattern → Option Nat
  | .seq p q => p.groups?.bind fun m => q.groups?.map (m + ·)
  | .alt p q => if p.groups? = q.groups? then p.groups? else none
  | .optional p => if p.groups? = some 0 then some 0 else none
  | .bracket p => p.groups?
  | .group p => p.groups?.map (· + 1)
  | _ => some 0

/-- A sequence has the groups of its parts. -/
theorem Pattern.groups?_append (p q : Pattern) :
    (p ++ q).groups? = p.groups?.bind fun m => q.groups?.map (m + ·) := rfl

/-- **A match closes its groups**: where a search succeeds, the continuation was given that many
more. The induction is on the pattern; all parts of a choice have the same number of groups, and
what is repeated has none. -/
theorem Pattern.exists_groups {α : Type} {p : Pattern} {n : Nat} (hn : p.groups? = some n)
    {k : List Span → Text → Option α} {spans : List Span} {t : Text} {a : α}
    (h : p.search k spans t = some a) :
    ∃ inner rest, inner.length = n ∧ k (inner ++ spans) rest = some a := by
  induction p generalizing n k spans t with
  | literal s | quoted s =>
    obtain ⟨rest, -, hk⟩ := Option.bind_eq_some_iff.1 h
    exact ⟨[], rest, Option.some.inj hn, hk⟩
  | one c =>
    unfold search at h
    split at h
    · simp at h
    · next x u =>
      split at h
      · exact ⟨[], u, Option.some.inj hn, h⟩
      · simp at h
  | many c =>
    obtain ⟨rest, -, hk⟩ := List.exists_of_findSome?_eq_some h
    exact ⟨[], rest, Option.some.inj hn, hk⟩
  | several c =>
    unfold search at h
    split at h
    · simp at h
    · split at h
      · obtain ⟨rest, -, hk⟩ := List.exists_of_findSome?_eq_some h
        exact ⟨[], rest, Option.some.inj hn, hk⟩
      · simp at h
  | fewest c =>
    unfold search at h
    rw [searchFewest_eq] at h
    obtain ⟨rest, -, hk⟩ := List.exists_of_findSome?_eq_some h
    exact ⟨[], rest, Option.some.inj hn, hk⟩
  | optional p ih =>
    unfold groups? at hn
    split at hn
    · next hp =>
      unfold search at h
      rcases (Option.orElse_eq_some _ _ _).1 h with h | ⟨-, h⟩
      · obtain ⟨inner, rest, hlen, hk⟩ := ih hp h
        exact ⟨inner, rest, hlen.trans (Option.some.inj hn), hk⟩
      · exact ⟨[], t, Option.some.inj hn, h⟩
    · simp at hn
  | seq p q ihp ihq =>
    obtain ⟨m, hp, hq⟩ := Option.bind_eq_some_iff.1 hn
    obtain ⟨m', hq, hm⟩ := Option.map_eq_some_iff.1 hq
    obtain ⟨inner, rest, hlen, h⟩ := ihp hp h
    obtain ⟨inner', rest', hlen', hk⟩ := ihq hq h
    refine ⟨inner' ++ inner, rest', ?_, by rwa [List.append_assoc]⟩
    rw [List.length_append]
    omega
  | alt p q ihp ihq =>
    unfold groups? at hn
    split at hn
    · next hpq =>
      unfold search at h
      rcases (Option.orElse_eq_some _ _ _).1 h with h | ⟨-, h⟩
      · exact ihp hn h
      · exact ihq (hpq ▸ hn) h
    · simp at hn
  | group p ih =>
    obtain ⟨m, hp, hm⟩ := Option.map_eq_some_iff.1 hn
    obtain ⟨inner, rest, hlen, hk⟩ := ih hp h
    exact ⟨⟨t, rest⟩ :: inner, rest, by rw [List.length_cons]; omega, hk⟩
  | bracket p ih => exact ih hn h
  | atEnd =>
    unfold search at h
    split at h
    · exact ⟨[], t, Option.some.inj hn, h⟩
    · simp at h

/-- **The captured texts are as many as there are groups.** -/
theorem Pattern.length_of_captures {p : Pattern} {n : Nat} (hn : p.groups? = some n) {t : Text}
    {groups : List Text} (h : p.captures? t = some groups) : groups.length = n := by
  rw [captures?_eq_search] at h
  obtain ⟨inner, rest, hlen, hk⟩ := exists_groups hn h
  rw [← Option.some.inj hk, List.length_map, List.length_reverse, List.append_nil]
  exact hlen

/-- Of patterns that capture nothing, the first that can be matched captures nothing. -/
theorem Pattern.groups?_firstOf {ps : List Pattern} (h : ∀ p ∈ ps, p.groups? = some 0) :
    (firstOf ps).groups? = some 0 := by
  induction ps with
  | nil => rfl
  | cons p ps ih =>
    have hp : p.groups? = some 0 := h p List.mem_cons_self
    have hps := ih fun q hq => h q (List.mem_cons_of_mem p hq)
    cases ps with
    | nil => exact hp
    | cons q ps =>
      show (if p.groups? = (firstOf (q :: ps)).groups? then p.groups? else none) = some 0
      rw [hp, hps]
      rfl

/-- The rule **reads whatever it matches**. -/
def Rule.Legible {ι : Type} (r : Rule ι) : Prop :=
  ∀ statement, r.pattern.matchesStart statement = true → (r.reading? statement).isSome = true

/-- A sign is legible. -/
theorem Rule.legible_sign {ι : Type} (p : Pattern) (found : ι) : (Rule.sign p found).Legible := by
  intro statement h
  have hp : p.matchesStart statement = true := h
  rw [reading?_sign, if_pos hp]
  rfl

/-- A rule is legible that reads any texts that are as many as its groups. -/
theorem Rule.legible_of_groups {ι : Type} {r : Rule ι} {n : Nat} (hn : r.pattern.groups? = some n)
    (h : ∀ groups, groups.length = n → (r.read groups).isSome = true) : r.Legible := by
  intro statement hm
  obtain ⟨groups, hg⟩ := Option.isSome_iff_exists.1 hm
  unfold reading?
  rw [hg]
  exact h groups (Pattern.length_of_captures hn hg)

section

variable {ι : Type} {p : Pattern} {read : List Text → Option ι}

/-- A rule is legible that reads any text, if its pattern has one group. -/
theorem Rule.legible_of_one (hn : p.groups? = some 1) (h : ∀ a, (read [a]).isSome = true) :
    (Rule.mk p read).Legible :=
  legible_of_groups hn fun groups hlen => by
    obtain ⟨a, rfl⟩ := List.length_eq_one_iff.1 hlen
    exact h a

/-- A rule is legible that reads any two texts, if its pattern has two groups. -/
theorem Rule.legible_of_two (hn : p.groups? = some 2) (h : ∀ a b, (read [a, b]).isSome = true) :
    (Rule.mk p read).Legible :=
  legible_of_groups hn fun groups hlen => by
    obtain ⟨a, b, rfl⟩ := List.length_eq_two.1 hlen
    exact h a b

/-- A rule is legible that reads any three texts, if its pattern has three groups. -/
theorem Rule.legible_of_three (hn : p.groups? = some 3)
    (h : ∀ a b c, (read [a, b, c]).isSome = true) : (Rule.mk p read).Legible :=
  legible_of_groups hn fun groups hlen => by
    obtain ⟨a, b, c, rfl⟩ := List.length_eq_three.1 hlen
    exact h a b c

end

/-- Where no rule matches, nothing is read. -/
theorem Grammar.classify_eq_none {σ ι ν : Type} {g : Grammar σ ι ν} {statement : Text}
    (h : ∀ rule ∈ g.rules, rule.pattern.matchesStart statement = false) :
    g.classify statement = none := by
  refine List.findSome?_eq_none_iff.2 fun rule hrule => ?_
  have hm := h rule hrule
  unfold Pattern.matchesStart at hm
  rw [Option.isSome_eq_false_iff, Option.isNone_iff_eq_none] at hm
  unfold Rule.reading?
  rw [hm]
  rfl

/-- The first rules decide nothing where they match nothing. -/
theorem Grammar.classify_eq_drop {σ ι ν : Type} {g : Grammar σ ι ν} {n : Nat} {statement : Text}
    (h : ∀ rule ∈ g.rules.take n, rule.pattern.matchesStart statement = false) :
    g.classify statement = (g.rules.drop n).findSome? (·.reading? statement) := by
  have htake : (g.rules.take n).findSome? (·.reading? statement) = none :=
    classify_eq_none (g := { g with rules := g.rules.take n }) h
  show g.rules.findSome? (·.reading? statement) = _
  rw [← List.take_append_drop n g.rules, List.findSome?_append, htake, Option.none_or,
    List.take_append_drop]

/-- **Nothing is read off a statement exactly where no rule matches it**, if all rules read
whatever they match. -/
theorem Grammar.classify_eq_none_iff {σ ι ν : Type} {g : Grammar σ ι ν} {statement : Text}
    (hread : ∀ rule ∈ g.rules, rule.Legible) :
    g.classify statement = none
      ↔ ∀ rule ∈ g.rules, rule.pattern.matchesStart statement = false := by
  refine ⟨fun h rule hrule => ?_, classify_eq_none⟩
  rw [← Bool.not_eq_true]
  intro hm
  have hsome := hread rule hrule statement hm
  have hnone : rule.reading? statement = none := List.findSome?_eq_none_iff.1 h rule hrule
  rw [hnone] at hsome
  exact Bool.noConfusion hsome

end TexTranscript
