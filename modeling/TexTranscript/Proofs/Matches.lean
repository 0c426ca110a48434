import TexTranscript.Proofs.Turns

/-!
# What a pattern matches

The search for a match is a matter of order: which way is tried first, and where it goes on
when the rest refuses. What can be matched at all is not. This module says the latter by
recursion on the pattern (`Pattern.Matches`), with the texts that the groups capture, and
relates the two: a search succeeds only with something that the pattern matches
(`Pattern.exists_matches_of_search`), and it succeeds if there is such a thing that the rest
accepts (`Pattern.Matches.search`).

So whether a rule matches a statement can be read off its pattern. What it captures can be
read off as well, as soon as the statement can be matched in one way only. Where it cannot,
the order matters after all; the one case of this that all tables share is a last group that
takes what is left of the line (`Pattern.exists_of_captures_run`).

## Main definitions

* `Pattern.Matches` – a pattern matches a text in front of a rest.

## Main statements

* `Pattern.exists_matches_of_search`, `Pattern.Matches.search` – the search finds what is matched.
* `Pattern.matchesStart_iff` – when a pattern matches the start of a text.
* `Pattern.exists_matches_of_captures`, `Pattern.exists_of_captures_run` – what is captured.
-/

namespace TexTranscript

/-- **A number**, in the digits of any script. -/
def IsNumber (t : Text) : Prop := t ≠ [] ∧ ∀ c ∈ t, Text.isDigit c = true

instance (t : Text) : Decidable (IsNumber t) :=
  decidable_of_iff (t ≠ [] ∧ t.all Text.isDigit = true) (and_congr_right' List.all_eq_true)

namespace Pattern

/-- **A pattern matches a text** in front of a rest, and its groups capture these texts. -/
def Matches : Pattern → Text → List Text → Text → Prop
  | literal s, t, groups, _ => t = s ∧ groups = []
  | quoted s, t, groups, _ => t = s ∧ groups = []
  | one c, t, groups, _ => (∃ x, t = [x] ∧ c.contains x = true) ∧ groups = []
  | many c, t, groups, _ => (∀ x ∈ t, c.contains x = true) ∧ groups = []
  | several c, t, groups, _ => (t ≠ [] ∧ ∀ x ∈ t, c.contains x = true) ∧ groups = []
  | fewest c, t, groups, _ => (∀ x ∈ t, c.contains x = true) ∧ groups = []
  | optional p, t, groups, rest => p.Matches t groups rest ∨ (t = [] ∧ groups = [])
  | seq p q, t, groups, rest => ∃ t₁ t₂ groups₁ groups₂, t = t₁ ++ t₂ ∧
      groups = groups₁ ++ groups₂ ∧ p.Matches t₁ groups₁ (t₂ ++ rest) ∧ q.Matches t₂ groups₂ rest
  | alt p q, t, groups, rest => p.Matches t groups rest ∨ q.Matches t groups rest
  | group p, t, groups, rest => ∃ inner, groups = inner ++ [t] ∧ p.Matches t inner rest
  | bracket p, t, groups, rest => p.Matches t groups rest
  | atEnd, t, groups, rest => (t = [] ∧ rest = []) ∧ groups = []

variable {α : Type} {p q : Pattern} {c : CharClass} {k : List Span → Text → Option α}
  {spans : List Span} {t u rest : Text} {groups : List Text}

/-- The texts of the groups that were closed, the latest first, in the order in which they close. -/
abbrev captured (inner : List Span) : List Text := inner.reverse.map Span.text

/-- What is captured is in the order in which it was, the last first. -/
theorem captured_append (inner inner' : List Span) :
    captured (inner' ++ inner) = captured inner ++ captured inner' := by
  unfold captured
  rw [List.reverse_append, List.map_append]

/-- A span that is captured last comes last. -/
theorem captured_cons (span : Span) (inner : List Span) :
    captured (span :: inner) = captured inner ++ [span.text] := captured_append inner [span]

/-- **What a search finds is matched**: the continuation was given the groups of a match, and
what stands behind it. The induction is on the pattern, and in a repetition on what is left of
the text. -/
theorem exists_matches_of_search {a : α} (h : p.search k spans t = some a) :
    ∃ u rest inner, t = u ++ rest ∧ p.Matches u (captured inner) rest ∧
      k (inner ++ spans) rest = some a := by
  induction p generalizing k spans t with
  | literal s | quoted s =>
    obtain ⟨rest, hs, hk⟩ := Option.bind_eq_some_iff.1 h
    exact ⟨s, rest, [], Text.after?_eq_some_iff.1 hs, ⟨rfl, rfl⟩, hk⟩
  | one c =>
    unfold search at h
    split at h
    · exact absurd h.symm (Option.some_ne_none a)
    · next x t =>
      split at h
      · next hx => exact ⟨[x], t, [], rfl, ⟨⟨x, rfl, hx⟩, rfl⟩, h⟩
      · exact absurd h.symm (Option.some_ne_none a)
  | many c =>
    obtain ⟨rest, hrest, hk⟩ := List.exists_of_findSome?_eq_some h
    rw [backoffs_eq, List.append_nil, List.mem_reverse] at hrest
    obtain ⟨run, rfl, hrun⟩ := mem_stops_iff.1 hrest
    exact ⟨run, rest, [], rfl, ⟨hrun, rfl⟩, hk⟩
  | several c =>
    unfold search at h
    split at h
    · exact absurd h.symm (Option.some_ne_none a)
    · next x t =>
      split at h
      · next hx =>
        obtain ⟨rest, hrest, hk⟩ := List.exists_of_findSome?_eq_some h
        rw [backoffs_eq, List.append_nil, List.mem_reverse] at hrest
        obtain ⟨run, rfl, hrun⟩ := mem_stops_iff.1 hrest
        exact ⟨x :: run, rest, [], rfl,
          ⟨⟨List.cons_ne_nil _ _, List.forall_mem_cons.2 ⟨hx, hrun⟩⟩, rfl⟩, hk⟩
      · exact absurd h.symm (Option.some_ne_none a)
  | fewest c =>
    unfold search at h
    rw [searchFewest_eq] at h
    obtain ⟨rest, hrest, hk⟩ := List.exists_of_findSome?_eq_some h
    obtain ⟨run, rfl, hrun⟩ := mem_stops_iff.1 hrest
    exact ⟨run, rest, [], rfl, ⟨hrun, rfl⟩, hk⟩
  | optional p ih =>
    unfold search at h
    rcases (Option.orElse_eq_some _ _ _).1 h with h | ⟨-, h⟩
    · obtain ⟨u, rest, inner, ht, hu, hk⟩ := ih h
      exact ⟨u, rest, inner, ht, .inl hu, hk⟩
    · exact ⟨[], t, [], rfl, .inr ⟨rfl, rfl⟩, h⟩
  | seq p q ihp ihq =>
    -- the rest of the sequence is the continuation of its first part
    obtain ⟨u, behind, inner, rfl, hu, hq⟩ := ihp h
    obtain ⟨v, rest, inner', rfl, hv, hk⟩ := ihq hq
    refine ⟨u ++ v, rest, inner' ++ inner, (List.append_assoc ..).symm,
      ⟨u, v, captured inner, captured inner', rfl, captured_append inner inner', hu, hv⟩, ?_⟩
    rwa [List.append_assoc]
  | alt p q ihp ihq =>
    unfold search at h
    rcases (Option.orElse_eq_some _ _ _).1 h with h | ⟨-, h⟩
    · obtain ⟨u, rest, inner, ht, hu, hk⟩ := ihp h
      exact ⟨u, rest, inner, ht, .inl hu, hk⟩
    · obtain ⟨u, rest, inner, ht, hu, hk⟩ := ihq h
      exact ⟨u, rest, inner, ht, .inr hu, hk⟩
  | group p ih =>
    -- the continuation of a group is given the span that the group closes
    obtain ⟨u, rest, inner, rfl, hu, hk⟩ := ih h
    refine ⟨u, rest, ⟨u ++ rest, rest⟩ :: inner, rfl, ⟨captured inner, ?_, hu⟩, hk⟩
    rw [captured_cons, Span.text_append]
  | bracket p ih => exact ih h
  | atEnd =>
    unfold search at h
    split at h
    · next ht =>
      obtain rfl := List.isEmpty_iff.1 ht
      exact ⟨[], [], [], rfl, ⟨⟨rfl, rfl⟩, rfl⟩, h⟩
    · exact absurd h.symm (Option.some_ne_none a)

/-- A search along what can be left after a run succeeds, if it does behind one of the runs. -/
theorem isSome_backoffs {f : Text → Option α} (hrun : ∀ x ∈ u, c.contains x = true)
    (hf : (f rest).isSome = true) : ((backoffs c (u ++ rest) []).findSome? f).isSome = true := by
  rw [List.findSome?_isSome_iff, backoffs_eq, List.append_nil]
  exact ⟨rest, List.mem_reverse.2 (mem_stops_iff.2 ⟨u, rfl, hrun⟩), hf⟩

/-- **What is matched can be found**: a search succeeds if there is a match that the continuation
accepts. It may find another one. An alternative or a repetition may succeed earlier than with the
given match, which is why nothing is said of what is found. -/
theorem Matches.search (h : p.Matches u groups rest)
    (hk : ∀ inner, captured inner = groups → (k (inner ++ spans) rest).isSome = true) :
    (p.search k spans (u ++ rest)).isSome = true := by
  induction p generalizing k spans u groups rest with
  | literal s | quoted s =>
    obtain ⟨rfl, rfl⟩ := h
    show ((Text.after? u (u ++ rest)).bind (k spans)).isSome = true
    rw [Text.after?_eq_some_iff.2 rfl]
    exact hk [] rfl
  | one c =>
    obtain ⟨⟨x, rfl, hx⟩, rfl⟩ := h
    show (if c.contains x then k spans rest else none).isSome = true
    rw [if_pos hx]
    exact hk [] rfl
  | many c =>
    obtain ⟨hrun, rfl⟩ := h
    exact isSome_backoffs hrun (hk [] rfl)
  | several c =>
    obtain ⟨⟨hne, hrun⟩, rfl⟩ := h
    obtain ⟨x, run, rfl⟩ := List.exists_cons_of_ne_nil hne
    obtain ⟨hx, hrun⟩ := List.forall_mem_cons.1 hrun
    show (if c.contains x then (backoffs c (run ++ rest) []).findSome? (k spans) else none).isSome
      = true
    rw [if_pos hx]
    exact isSome_backoffs hrun (hk [] rfl)
  | fewest c =>
    obtain ⟨hrun, rfl⟩ := h
    show (searchFewest c (k spans) (u ++ rest)).isSome = true
    rw [searchFewest_eq, List.findSome?_isSome_iff]
    exact ⟨rest, mem_stops_iff.2 ⟨u, rfl, hrun⟩, hk [] rfl⟩
  | optional p ih =>
    -- the search without the pattern succeeds, too, so only one of the two has to be shown
    show (p.search k spans (u ++ rest) <|> k spans (u ++ rest)).isSome = true
    rw [Option.orElse_eq_orElse, Option.orElse_eq_or, Option.isSome_or, Bool.or_eq_true]
    rcases h with h | ⟨rfl, rfl⟩
    · exact .inl (ih h hk)
    · exact .inr (hk [] rfl)
  | seq p q ihp ihq =>
    -- whatever the first part captures, the second one can be matched behind it
    obtain ⟨t₁, t₂, groups₁, groups₂, rfl, rfl, hp, hq⟩ := h
    rw [List.append_assoc]
    refine ihp hp fun inner hinner => ihq hq fun inner' hinner' => ?_
    rw [← List.append_assoc]
    exact hk (inner' ++ inner) (by rw [captured_append, hinner, hinner'])
  | alt p q ihp ihq =>
    show (p.search k spans (u ++ rest) <|> q.search k spans (u ++ rest)).isSome = true
    rw [Option.orElse_eq_orElse, Option.orElse_eq_or, Option.isSome_or, Bool.or_eq_true]
    rcases h with h | h
    · exact .inl (ihp h hk)
    · exact .inr (ihq h hk)
  | group p ih =>
    obtain ⟨inner, rfl, h⟩ := h
    refine ih h fun inner' hinner' => hk (⟨u ++ rest, rest⟩ :: inner') ?_
    rw [captured_cons, hinner', Span.text_append]
  | bracket p ih => exact ih h hk
  | atEnd =>
    obtain ⟨⟨rfl, rfl⟩, rfl⟩ := h
    exact hk [] rfl

/-- **What a match captures** are the groups of something that is matched. The continuation of the
whole accepts whatever it is given. -/
theorem exists_matches_of_captures (h : p.captures? t = some groups) :
    ∃ u rest, t = u ++ rest ∧ p.Matches u groups rest := by
  rw [captures?_eq_search] at h
  obtain ⟨u, rest, inner, ht, hu, hk⟩ := exists_matches_of_search h
  rw [List.append_nil] at hk
  obtain rfl : captured inner = groups := Option.some.inj hk
  exact ⟨u, rest, ht, hu⟩

/-- What is matched at the start of a text is captured. -/
theorem Matches.isSome_captures (h : p.Matches u groups rest) :
    (p.captures? (u ++ rest)).isSome = true := by
  rw [captures?_eq_search]
  exact h.search fun _ _ => rfl

/-- **A pattern matches the start of a text** just if the text begins with something that it
matches. -/
theorem matchesStart_iff :
    p.matchesStart t = true ↔ ∃ u groups rest, t = u ++ rest ∧ p.Matches u groups rest := by
  constructor
  · intro h
    obtain ⟨groups, hgroups⟩ := Option.isSome_iff_exists.1 h
    obtain ⟨u, rest, ht, hu⟩ := exists_matches_of_captures hgroups
    exact ⟨u, groups, rest, ht, hu⟩
  · rintro ⟨u, groups, rest, rfl, hu⟩
    exact hu.isSome_captures

/-! ## A last group that takes what is left -/

/-- The longest run of a class is the first that is tried. -/
theorem exists_backoffs_eq_cons (c : CharClass) (t : Text) (shorter : List Text) :
    ∃ others, backoffs c t shorter = t.dropWhile c.contains :: others := by
  induction t generalizing shorter with
  | nil => exact ⟨shorter, rfl⟩
  | cons x t ih =>
    unfold backoffs
    by_cases hx : c.contains x = true
    · rw [if_pos hx, List.dropWhile_cons_of_pos hx]
      exact ih _
    · rw [if_neg hx, List.dropWhile_cons_of_neg hx]
      exact ⟨shorter, rfl⟩

/-- **A last group takes all that it can**, behind what the rest of the pattern matches. The longest
run is tried first and nothing is left to fail behind it. -/
theorem exists_of_captures_run (h : (p ++ group (many c)).captures? t = some groups) :
    ∃ u inner rest, t = u ++ rest ∧ p.Matches u inner rest ∧
      groups = inner ++ [rest.takeWhile c.contains] := by
  rw [captures?_eq_search] at h
  change p.search (fun spans t => (group (many c)).search
    (fun spans _ => some (captured spans)) spans t) [] t = some groups at h
  obtain ⟨u, rest, inner, ht, hu, hk⟩ := exists_matches_of_search h
  refine ⟨u, captured inner, rest, ht, hu, ?_⟩
  obtain ⟨others, hothers⟩ := exists_backoffs_eq_cons c rest []
  change (backoffs c rest []).findSome? (fun left =>
    some (captured (⟨rest, left⟩ :: (inner ++ [])))) = some groups at hk
  rw [hothers, List.findSome?_cons_of_isSome rfl, List.append_nil, captured_cons] at hk
  have htext : (Span.mk rest (rest.dropWhile c.contains)).text = rest.takeWhile c.contains := by
    have h := Span.text_append (rest.takeWhile c.contains) (rest.dropWhile c.contains)
    rwa [List.takeWhile_append_dropWhile] at h
  rw [← htext]
  exact (Option.some.inj hk).symm

end Pattern

end TexTranscript
