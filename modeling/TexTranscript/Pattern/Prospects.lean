import TexTranscript.Pattern.Basic

/-!
# Prospects of a search

A search that tries every run of a repetition against everything that follows it can
take very long. It need not: for every end of a text – the text itself, what is left
after one character, and so on – it can be found out beforehand whether a pattern has
any *prospect* there, from where the rest has one, in one pass over the text.

The search for captures looks at the prospects before it goes on behind a repetition.
That does not change its order, and it changes no answer, since nothing is passed over
but what would have been refused (`Pattern.guided_eq_search`).

## Main definitions

* `Prospects` – where something can go on.
* `Pattern.prospects` – where a pattern can, given where the rest can.
* `Pattern.guided` – the search that looks at the prospects.
* `Pattern.captures?` – the texts of the groups of the match.
-/

namespace TexTranscript

/-- **Where something can go on**: one truth value for each end of a text, beginning
with the whole text. -/
abbrev Prospects := List Bool

namespace Prospects

/-- Something can go on at the start of the text. -/
def here (ps : Prospects) : Bool := ps.headD false

/-- Where one of two can go on. -/
def either : Prospects → Prospects → Prospects
  | [], qs => qs
  | p :: ps, [] => p :: ps
  | p :: ps, q :: qs => (p || q) :: either ps qs

/-- Where a given text can be taken. -/
def ofLiteral (s : Text) : Text → Prospects → Prospects
  | [], ps => [Text.startsWith s [] && here (ps.drop s.length)]
  | x :: t, ps =>
    (Text.startsWith s (x :: t) && here (ps.drop s.length)) :: ofLiteral s t ps.tail

/-- Where a character of a class can be taken. -/
def ofOne (c : CharClass) : Text → Prospects → Prospects
  | [], _ => [false]
  | x :: t, ps => (c.contains x && here ps.tail) :: ofOne c t ps.tail

/-- Where a run of characters of a class can be taken. -/
def ofRun (c : CharClass) : Text → Prospects → Prospects
  | [], ps => [here ps]
  | x :: t, ps =>
    let later := ofRun c t ps.tail
    (here ps || (c.contains x && here later)) :: later

/-- Where the text can end. -/
def ofEnd : Text → Prospects → Prospects
  | [], ps => [here ps]
  | _ :: t, ps => false :: ofEnd t ps.tail

/-- Something can go on everywhere. -/
def everywhere (t : Text) : Prospects := List.replicate (t.length + 1) true

@[simp] theorem here_cons (p : Bool) (ps : Prospects) : here (p :: ps) = p := rfl

@[simp] theorem here_either (ps qs : Prospects) : here (either ps qs) = (here ps || here qs) := by
  cases ps <;> cases qs <;> simp [either, here]

theorem tail_either (ps qs : Prospects) : (either ps qs).tail = either ps.tail qs.tail := by
  cases ps with
  | nil => simp [either]
  | cons p ps => cases qs <;> cases ps <;> simp [either]

/-- The ends that a run of characters of a class can lead to, the shortest run first,
without those where nothing can go on. -/
def ends (c : CharClass) : Text → Prospects → List Text
  | [], ps => if here ps then [[]] else []
  | x :: t, ps =>
    let later := if c.contains x then ends c t ps.tail else []
    if here ps then (x :: t) :: later else later

/-- The prospects cover a continuation: it refuses every end where they say that nothing
can go on. -/
def Covers {α : Type} (k : List Span → Text → Option α) : Text → Prospects → Prop
  | [], ps => here ps = false → ∀ spans, k spans [] = none
  | x :: t, ps => (here ps = false → ∀ spans, k spans (x :: t) = none) ∧ Covers k t ps.tail

namespace Covers

variable {α : Type} {k k' : List Span → Text → Option α} {t : Text} {ps qs : Prospects}

theorem refuses (h : Covers k t ps) (hp : here ps = false) (spans : List Span) :
    k spans t = none := by
  cases t with
  | nil => exact h hp spans
  | cons x t => exact h.1 hp spans

theorem drop {s : Text} (h : Covers k (s ++ t) ps) : Covers k t (ps.drop s.length) := by
  induction s generalizing ps with
  | nil => exact h
  | cons x s ih =>
    have := ih h.2
    cases ps <;> simpa using this

/-- A continuation that refuses more is covered as well. -/
theorem mono (h : Covers k t ps)
    (hk : ∀ u, u <:+ t → (∀ spans, k spans u = none) → ∀ spans, k' spans u = none) :
    Covers k' t ps := by
  induction t generalizing ps with
  | nil => exact fun hp => hk _ (List.suffix_refl _) (h hp)
  | cons x t ih =>
    exact ⟨fun hp => hk _ (List.suffix_refl _) (h.1 hp),
      ih h.2 fun u hu => hk u (hu.trans (List.suffix_cons x t))⟩

/-- What is covered for each of its parameters is covered where the parameter is the
text. -/
theorem diagonal {f : Text → List Span → Text → Option α} (h : ∀ u, Covers (f u) t ps) :
    Covers (fun spans u => f u spans u) t ps := by
  induction t generalizing ps with
  | nil => exact fun hp => h [] hp
  | cons x t ih => exact ⟨fun hp => (h (x :: t)).1 hp, ih fun u => (h u).2⟩

theorem everywhere (k : List Span → Text → Option α) (t : Text) :
    Covers k t (Prospects.everywhere t) := by
  induction t with
  | nil => intro h; simp [Prospects.everywhere, here] at h
  | cons x t ih =>
    refine ⟨fun h => by simp [Prospects.everywhere, List.replicate_succ] at h, ?_⟩
    simpa [Prospects.everywhere, List.replicate_succ] using ih

end Covers

end Prospects

namespace Pattern

open Prospects

variable {α : Type}

/-- **Where a pattern has prospects**, given where the rest has. -/
def prospects : Pattern → Text → Prospects → Prospects
  | literal s, t, ps => ofLiteral s t ps
  | quoted s, t, ps => ofLiteral s t ps
  | one c, t, ps => ofOne c t ps
  | many c, t, ps => ofRun c t ps
  | several c, t, ps => ofOne c t (ofRun c t ps)
  | fewest c, t, ps => ofRun c t ps
  | optional p, t, ps => either (prospects p t ps) ps
  | seq p q, t, ps => prospects p t (prospects q t ps)
  | alt p q, t, ps => either (prospects p t ps) (prospects q t ps)
  | group p, t, ps => prospects p t ps
  | bracket p, t, ps => prospects p t ps
  | atEnd, t, ps => ofEnd t ps

/-- The search for a match, which goes on behind a repetition only where the prospects
of the rest allow it. -/
def guided :
    Pattern → Thunk Prospects → (List Span → Text → Option α) → List Span → Text → Option α
  | literal s, _, k, spans, t => (Text.after? s t).bind (k spans)
  | quoted s, _, k, spans, t => (Text.after? s t).bind (k spans)
  | one c, _, k, spans, t =>
    match t with
    | [] => none
    | x :: t => if c.contains x then k spans t else none
  | many c, ps, k, spans, t => (ends c t ps.get).reverse.findSome? (k spans)
  | several c, ps, k, spans, t =>
    match t with
    | [] => none
    | x :: t =>
      if c.contains x then (ends c t ps.get.tail).reverse.findSome? (k spans) else none
  | fewest c, ps, k, spans, t => (ends c t ps.get).findSome? (k spans)
  | optional p, ps, k, spans, t => guided p ps k spans t <|> k spans t
  | seq p q, ps, k, spans, t =>
    guided p (Thunk.mk fun _ => prospects q t ps.get)
      (fun spans u => guided q (Thunk.mk fun _ => ps.get.drop (t.length - u.length)) k spans u)
      spans t
  | alt p q, ps, k, spans, t => guided p ps k spans t <|> guided q ps k spans t
  | group p, ps, k, spans, t => guided p ps (fun inner rest => k (⟨t, rest⟩ :: inner) rest) spans t
  | bracket p, ps, k, spans, t => guided p ps k spans t
  | atEnd, _, k, spans, t => if t.isEmpty then k spans t else none

/-! ### Prospects are sound -/

variable {k : List Span → Text → Option α} {t : Text} {ps : Prospects}

theorem ofLiteral_covers (s : Text) (h : Covers k t ps) :
    Covers (fun spans u => (Text.after? s u).bind (k spans)) t (ofLiteral s t ps) := by
  have refused {u : Text} {qs : Prospects} (hu : Covers k u qs)
      (hq : (Text.startsWith s u && here (qs.drop s.length)) = false) (spans : List Span) :
      (Text.after? s u).bind (k spans) = none := by
    cases ha : Text.after? s u with
    | none => rfl
    | some rest =>
      rw [Text.after?_eq_some_iff] at ha
      subst ha
      simp only [Text.startsWith_append, Bool.true_and] at hq
      exact hu.drop.refuses hq spans
  induction t generalizing ps with
  | nil => exact refused h
  | cons x t ih => exact ⟨refused h, ih h.2⟩

theorem ofOne_covers (c : CharClass) (h : Covers k t ps) :
    Covers (search (one c) k) t (ofOne c t ps) := by
  induction t generalizing ps with
  | nil => exact fun _ _ => rfl
  | cons x t ih =>
    refine ⟨fun hp spans => ?_, ih h.2⟩
    simp only [ofOne, here_cons, Bool.and_eq_false_iff] at hp
    simp only [search]
    split
    · next hc => exact h.2.refuses (hp.resolve_left (by simp [hc])) spans
    · rfl

theorem ofRun_stops {c : CharClass} (h : Covers k t ps) (hp : here (ofRun c t ps) = false)
    (spans : List Span) : (stops c t).findSome? (k spans) = none := by
  induction t generalizing ps with
  | nil => simp [stops, h hp spans]
  | cons x t ih =>
    simp only [ofRun, here_cons, Bool.or_eq_false_iff, Bool.and_eq_false_iff] at hp
    simp only [stops, List.findSome?, h.1 hp.1 spans]
    by_cases hc : c.contains x = true
    · simp only [hc, if_true]
      exact ih h.2 (hp.2.resolve_left (by simp [hc]))
    · simp [hc]

theorem ofRun_covers (c : CharClass) (h : Covers k t ps) :
    Covers (fun spans u => (stops c u).findSome? (k spans)) t (ofRun c t ps) := by
  induction t generalizing ps with
  | nil => exact fun hp => ofRun_stops h hp
  | cons x t ih => exact ⟨fun hp => ofRun_stops h hp, ih h.2⟩

theorem ofEnd_covers (h : Covers k t ps) : Covers (search atEnd k) t (ofEnd t ps) := by
  induction t generalizing ps with
  | nil => exact fun hp spans => by simpa [search] using h hp spans
  | cons x t ih => exact ⟨fun _ _ => by simp [search], ih h.2⟩

theorem either_covers {k' : List Span → Text → Option α} {qs : Prospects} (h : Covers k t ps)
    (h' : Covers k' t qs) :
    Covers (fun spans u => k spans u <|> k' spans u) t (either ps qs) := by
  induction t generalizing ps qs with
  | nil =>
    intro hp spans
    rw [here_either, Bool.or_eq_false_iff] at hp
    simp [h hp.1 spans, h' hp.2 spans]
  | cons x t ih =>
    refine ⟨fun hp spans => ?_, ?_⟩
    · rw [here_either, Bool.or_eq_false_iff] at hp
      simp [h.1 hp.1 spans, h'.1 hp.2 spans]
    · rw [tail_either]
      exact ih h.2 h'.2

/-- A longest run is a shortest one, sought from the other side. -/
theorem findSome?_backoffs (c : CharClass) (f : Text → Option α) (t : Text) :
    (backoffs c t []).findSome? f = (stops c t).reverse.findSome? f := by
  rw [backoffs_eq, List.append_nil]

theorem findSome?_reverse_eq_none {f : Text → Option α} {l : List Text}
    (h : l.findSome? f = none) : l.reverse.findSome? f = none := by
  rw [List.findSome?_eq_none_iff] at h ⊢
  exact fun x hx => h x (List.mem_reverse.1 hx)

/-- **A pattern is refused where it has no prospects.** -/
theorem prospects_covers (p : Pattern) (h : Covers k t ps) :
    Covers (p.search k) t (p.prospects t ps) := by
  induction p generalizing k ps with
  | literal s => exact ofLiteral_covers s h
  | quoted s => exact ofLiteral_covers s h
  | one c => exact ofOne_covers c h
  | many c =>
    refine (ofRun_covers c h).mono fun u _ hu spans => ?_
    simp only [search, findSome?_backoffs]
    exact findSome?_reverse_eq_none (hu spans)
  | several c =>
    refine (ofOne_covers c (ofRun_covers c h)).mono fun u _ hu spans => ?_
    have := hu spans
    cases u with
    | nil => rfl
    | cons x u =>
      simp only [search, findSome?_backoffs] at this ⊢
      split at this
      · next hc => rw [if_pos hc]; exact findSome?_reverse_eq_none this
      · next hc => rw [if_neg hc]
  | fewest c =>
    refine (ofRun_covers c h).mono fun u _ hu spans => ?_
    simpa only [search, searchFewest_eq] using hu spans
  | optional p ih => exact either_covers (ih h) h
  | seq p q ihp ihq => exact ihp (ihq h)
  | alt p q ihp ihq => exact either_covers (ihp h) (ihq h)
  | group p ih =>
    exact Covers.diagonal (f := fun u => p.search fun inner rest => k (⟨u, rest⟩ :: inner) rest)
      fun u => ih (h.mono fun v _ hv spans => hv (⟨u, v⟩ :: spans))
  | bracket p ih => exact ih h
  | atEnd => exact ofEnd_covers h

/-! ### The prospects change nothing -/

theorem mem_ends_suffix {c : CharClass} {t u : Text} {ps : Prospects} (h : u ∈ ends c t ps) :
    u <:+ t := by
  induction t generalizing ps with
  | nil =>
    unfold ends at h
    split at h <;> simp_all
  | cons x t ih =>
    simp only [ends] at h
    have later (h : u ∈ if c.contains x then ends c t ps.tail else []) : u <:+ x :: t := by
      split at h
      · exact (ih h).trans (List.suffix_cons x t)
      · simp at h
    split at h
    · rcases List.mem_cons.1 h with rfl | h
      · exact List.suffix_refl _
      · exact later h
    · exact later h

/-- Ends without prospects can be left out, in one order as in the other. -/
theorem findSome?_ends (c : CharClass) (h : Covers k t ps) (spans : List Span) :
    (ends c t ps).findSome? (k spans) = (stops c t).findSome? (k spans) ∧
      (ends c t ps).reverse.findSome? (k spans) = (stops c t).reverse.findSome? (k spans) := by
  induction t generalizing ps with
  | nil =>
    by_cases hp : here ps = true
    · simp [ends, stops, hp]
    · simp [ends, stops, hp, h (by simpa using hp) spans]
  | cons x t ih =>
    obtain ⟨ih₁, ih₂⟩ := ih h.2
    by_cases hp : here ps = true <;> by_cases hc : c.contains x = true
    · simp [ends, stops, hp, hc, List.findSome?_append, List.findSome?_cons, ih₁, ih₂]
    · simp [ends, stops, hp, hc]
    · simp [ends, stops, hp, hc, List.findSome?_append, ih₁, ih₂,
        h.1 (by simpa using hp) spans]
    · simp [ends, stops, hp, hc, h.1 (by simpa using hp) spans]

theorem findSome?_congr {f g : Text → Option α} {l : List Text} (h : ∀ u ∈ l, f u = g u) :
    l.findSome? f = l.findSome? g := by
  induction l with
  | nil => rfl
  | cons u l ih =>
    simp only [List.findSome?_cons, h u (List.mem_cons_self ..)]
    rw [ih fun v hv => h v (List.mem_cons_of_mem u hv)]

/-- **The guided search is the search**, for continuations that agree and that the
prospects cover. -/
theorem guided_eq_search (p : Pattern) (qs : Thunk Prospects)
    (k k' : List Span → Text → Option α) (spans : List Span) (t : Text)
    (hk : ∀ spans u, u <:+ t → k spans u = k' spans u) (hc : Covers k' t qs.get) :
    p.guided qs k spans t = p.search k' spans t := by
  induction p generalizing k k' spans t qs with
  | literal s | quoted s =>
    simp only [guided, search]
    cases ha : Text.after? s t with
    | none => rfl
    | some rest => exact hk spans rest ⟨s, (Text.after?_eq_some_iff.1 ha).symm⟩
  | one c =>
    cases t with
    | nil => rfl
    | cons x t => simp only [guided, search, hk spans t (List.suffix_cons x t)]
  | many c =>
    simp only [guided, search, findSome?_backoffs]
    rw [← (findSome?_ends c hc spans).2]
    exact findSome?_congr fun u hu => hk spans u (mem_ends_suffix (List.mem_reverse.1 hu))
  | several c =>
    cases t with
    | nil => rfl
    | cons x t =>
      simp only [guided, search, findSome?_backoffs]
      rw [← (findSome?_ends c hc.2 spans).2, findSome?_congr fun u hu => hk spans u
        ((mem_ends_suffix (List.mem_reverse.1 hu)).trans (List.suffix_cons x t))]
  | fewest c =>
    simp only [guided, search, searchFewest_eq]
    rw [← (findSome?_ends c hc spans).1]
    exact findSome?_congr fun u hu => hk spans u (mem_ends_suffix hu)
  | optional p ih =>
    simp only [guided, search, ih qs k k' spans t hk hc, hk spans t (List.suffix_refl t)]
  | seq p q ihp ihq =>
    simp only [guided, search]
    refine ihp _ _ _ _ _ (fun spans u hu => ?_) (prospects_covers q hc)
    refine ihq _ _ _ _ _ (fun spans v hv => hk spans v (hv.trans hu)) ?_
    obtain ⟨s, rfl⟩ := hu
    have hl : (s ++ u).length - u.length = s.length := by simp
    show Covers k' u (qs.get.drop ((s ++ u).length - u.length))
    rw [hl]
    exact hc.drop
  | alt p q ihp ihq =>
    simp only [guided, search, ihp qs k k' spans t hk hc, ihq qs k k' spans t hk hc]
  | group p ih =>
    exact ih _ _ _ _ _ (fun inner u hu => hk _ u hu) (hc.mono fun v _ hv spans => hv _)
  | bracket p ih => exact ih _ _ _ _ _ hk hc
  | atEnd => simp only [guided, search, hk spans t (List.suffix_refl t)]

/-- The texts of the groups of the match at the start of the text, in the order
in which they close; `none` when there is no match. -/
def captures? (p : Pattern) (t : Text) : Option (List Text) :=
  p.guided (Thunk.mk fun _ => Prospects.everywhere t)
    (fun spans _ => some (spans.reverse.map Span.text)) [] t

/-- **The captures are those of the search.** -/
theorem captures?_eq_search (p : Pattern) (t : Text) :
    p.captures? t = p.search (fun spans _ => some (spans.reverse.map Span.text)) [] t :=
  guided_eq_search p _ _ _ _ _ (fun _ _ _ => rfl) (Covers.everywhere _ t)

/-- The pattern matches at the start of the text. -/
def matchesStart (p : Pattern) (t : Text) : Bool := (p.captures? t).isSome

end Pattern

end TexTranscript
