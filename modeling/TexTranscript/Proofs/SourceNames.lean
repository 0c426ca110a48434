import TexTranscript.Proofs.Turns

/-!
# Names of source files

An engine prints the name of a source file that it opens behind `(./`, and a space or the
end of the statement behind the name. The name ends in `.tex`, or in a dot and the
extension of the master document, whatever characters there are in it. Before the last dot
it may hold anything but a closing parenthesis.

The rule for source files seeks such a name with two lazy repetitions, one for what stands
in front of `(./` and one for what stands in front of the dot. A lazy repetition finds the
shortest run, but that is not yet the shortest name: a longer stem might come with a
shorter extension. It cannot do so here, since no extension holds a dot, and of two
extensions that are possible behind the same dot `tex` is tried first.

## Main definitions

* `Typesetting.IsSourceFile`, `Typesetting.Opens` – names, and texts that begin with one.
* `Typesetting.shortestName?` – the shortest name that a text begins with.

## Main statements

* `Pattern.searchFewest_eq_some_iff` – what a lazy repetition finds.
* `Typesetting.captures?_eq_searchFewest` – the rule for source files, as a search.
* `Typesetting.searchFewest_skipEnding` – behind `(./` it finds the shortest name.
-/

namespace TexTranscript

/-! ## Lazy repetitions -/

namespace Pattern

variable {α : Type} {c : CharClass} {k : Text → Option α}

/-- **A lazy repetition finds the shortest run** behind which the rest can be matched. -/
theorem searchFewest_eq_some_iff {t : Text} {a : α} :
    searchFewest c k t = some a ↔ ∃ run rest, t = run ++ rest ∧
      (∀ x ∈ run, c.contains x = true) ∧ k rest = some a ∧
      ∀ shorter more, run = shorter ++ more → more ≠ [] → k (more ++ rest) = none := by
  induction t with
  | nil =>
    constructor
    · intro h
      exact ⟨[], [], rfl, List.forall_mem_nil _, h, fun shorter more hrun hne =>
        absurd (List.append_eq_nil_iff.1 hrun.symm).2 hne⟩
    · rintro ⟨run, rest, ht, -, hk, -⟩
      obtain ⟨-, rfl⟩ := List.append_eq_nil_iff.1 ht.symm
      exact hk
  | cons x t ih =>
    unfold searchFewest
    constructor
    · intro h
      split at h
      · next b hb =>
        -- nothing is taken, since the rest can be matched at once
        exact ⟨[], x :: t, rfl, List.forall_mem_nil _, hb.trans h, fun shorter more hrun hne =>
          absurd (List.append_eq_nil_iff.1 hrun.symm).2 hne⟩
      · next hnone =>
        split at h
        · next hx =>
          obtain ⟨run, rest, rfl, hrun, hk, hmin⟩ := ih.1 h
          refine ⟨x :: run, rest, rfl, List.forall_mem_cons.2 ⟨hx, hrun⟩, hk, ?_⟩
          intro shorter more hsplit hne
          -- the empty run was tried first, and every other one begins with the same character
          cases shorter with
          | nil =>
            obtain rfl : x :: run = more := hsplit
            exact hnone
          | cons y shorter => exact hmin shorter more (List.cons.inj hsplit).2 hne
        · exact absurd h (Option.some_ne_none a).symm
    · rintro ⟨run, rest, ht, hrun, hk, hmin⟩
      cases run with
      | nil =>
        obtain rfl : x :: t = rest := ht
        rw [hk]
      | cons y run =>
        rw [List.cons_append] at ht
        obtain ⟨rfl, rfl⟩ := List.cons.inj ht
        obtain ⟨hx, hrun⟩ := List.forall_mem_cons.1 hrun
        have hnone : k (x :: (run ++ rest)) = none := hmin [] (x :: run) rfl (List.cons_ne_nil _ _)
        rw [hnone, if_pos hx]
        exact ih.2 ⟨run, rest, rfl, hrun, hk, fun shorter more hsplit =>
          hmin (x :: shorter) more (congrArg (x :: ·) hsplit)⟩

/-- A lazy repetition finds nothing just if the rest cannot be matched behind any run. -/
theorem searchFewest_eq_none_iff {t : Text} :
    searchFewest c k t = none ↔ ∀ run rest, t = run ++ rest →
      (∀ x ∈ run, c.contains x = true) → k rest = none := by
  rw [searchFewest_eq, List.findSome?_eq_none_iff]
  constructor
  · intro h run rest ht hrun
    exact h rest (mem_stops_iff.2 ⟨run, ht, hrun⟩)
  · intro h rest hrest
    obtain ⟨run, ht, hrun⟩ := mem_stops_iff.1 hrest
    exact h run rest ht hrun

/-- The runs of a class lead to ends of the text, in their order. -/
theorem stops_prefix_tails (c : CharClass) (t : Text) : stops c t <+: t.tails := by
  induction t with
  | nil => exact List.prefix_refl _
  | cons x t ih =>
    rw [stops, List.tails_cons, List.cons_prefix_cons]
    refine ⟨rfl, ?_⟩
    split
    · exact ih
    · exact List.nil_prefix

/-- The runs of a class lead to all ends of a text whose characters are of the class. -/
theorem stops_eq_tails {t : Text} (h : ∀ x ∈ t, c.contains x = true) : stops c t = t.tails := by
  induction t with
  | nil => rfl
  | cons x t ih =>
    obtain ⟨hx, ht⟩ := List.forall_mem_cons.1 h
    rw [stops, if_pos hx, ih ht, List.tails_cons]

end Pattern

/-! ## Names of source files -/

namespace Typesetting

/-- Nothing follows, or a space. -/
def AtGap (rest : Text) : Prop := rest = [] ∨ rest.head? = some ' '

instance (rest : Text) : Decidable (AtGap rest) := inferInstanceAs (Decidable (_ ∨ _))

/-- **The name of a source file**: its extension is `tex` or the given one, and there is no
closing parenthesis in front of the dot. -/
def IsSourceFile (ext name : Text) : Prop :=
  ∃ stem x, name = stem ++ '.' :: x ∧ ')' ∉ stem ∧ (x = "tex".toList ∨ x = ext)

instance (ext name : Text) : Decidable (IsSourceFile ext name) :=
  decidable_of_iff
    (∃ x ∈ ["tex".toList, ext], ∃ stem ∈ name.inits, name = stem ++ '.' :: x ∧ ')' ∉ stem) <| by
    constructor
    · rintro ⟨x, hx, stem, -, hname, hstem⟩
      exact ⟨stem, x, hname, hstem, by simpa using hx⟩
    · rintro ⟨stem, x, rfl, hstem, hx⟩
      exact ⟨x, by simpa using hx, stem, (List.mem_inits _ _).2 (List.prefix_append _ _), rfl,
        hstem⟩

/-- **A text opens a source file**: it begins with the name of one, and a gap behind it. -/
def Opens (ext name text : Text) : Prop :=
  IsSourceFile ext name ∧ ∃ rest, text = name ++ rest ∧ AtGap rest

/-- The shortest name of a source file that a text opens. -/
def shortestName? (ext text : Text) : Option Text :=
  text.inits.find? fun name => decide (IsSourceFile ext name ∧ AtGap (text.drop name.length))

variable {ext name text : Text}

/-- A name that a text opens is one of its beginnings, which are finitely many. -/
theorem opens_iff_mem_inits : Opens ext name text ↔
    name ∈ text.inits ∧ IsSourceFile ext name ∧ AtGap (text.drop name.length) := by
  rw [List.mem_inits]
  constructor
  · rintro ⟨hname, rest, rfl, hgap⟩
    exact ⟨List.prefix_append _ _, hname, by rwa [List.drop_left]⟩
  · rintro ⟨⟨rest, rfl⟩, hname, hgap⟩
    rw [List.drop_left] at hgap
    exact ⟨hname, rest, rfl, hgap⟩

/-- There is no shortest name just if the text opens none. -/
theorem shortestName?_eq_none_iff :
    shortestName? ext text = none ↔ ∀ name, ¬Opens ext name text := by
  unfold shortestName?
  rw [List.find?_eq_none]
  refine forall_congr' fun name => ?_
  rw [opens_iff_mem_inits, not_and, decide_eq_true_iff]

/-- **The shortest name** is one that the text opens, and no longer than any other. -/
theorem shortestName?_eq_some_iff : shortestName? ext text = some name ↔
    Opens ext name text ∧ ∀ other, Opens ext other text → name.length ≤ other.length := by
  unfold shortestName?
  rw [List.find?_eq_some_iff_getElem, decide_eq_true_iff]
  simp only [List.getElem_inits, List.length_inits]
  constructor
  · rintro ⟨hname, i, hi, rfl, hmin⟩
    refine ⟨opens_iff_mem_inits.2 ⟨(List.mem_inits _ _).2 (List.take_prefix _ _), hname⟩, ?_⟩
    intro other hother
    -- a name that were shorter would stand in front
    by_contra hlt
    obtain ⟨hmem, hopens⟩ := opens_iff_mem_inits.1 hother
    have htake : text.take other.length = other :=
      (List.prefix_iff_eq_take.1 ((List.mem_inits _ _).1 hmem)).symm
    have hfalse := hmin other.length (by rw [List.length_take] at hlt; omega)
    rw [htake, Bool.not_eq_true', decide_eq_false_iff_not] at hfalse
    exact hfalse hopens
  · rintro ⟨hopens, hmin⟩
    obtain ⟨hmem, hname⟩ := opens_iff_mem_inits.1 hopens
    have hfront : name <+: text := (List.mem_inits _ _).1 hmem
    refine ⟨hname, name.length, Nat.lt_succ_of_le hfront.length_le,
      (List.prefix_iff_eq_take.1 hfront).symm, fun j hj => ?_⟩
    rw [Bool.not_eq_true', decide_eq_false_iff_not]
    intro hother
    have hle := hmin (text.take j)
      (opens_iff_mem_inits.2 ⟨(List.mem_inits _ _).2 (List.take_prefix _ _), hother⟩)
    exact absurd (hle.trans (List.length_take_le _ _)) (Nat.not_le.2 hj)

/-! ## What the rule for source files captures -/

/-- The gap behind the name of a source file. -/
def gap : Pattern := .bracket (.alt (.lit " ") .atEnd)

/-- The end of the name of a source file, with the gap behind it. -/
def ending (ext : Text) : Pattern := .lit "." ++ .bracket (.alt (.lit "tex") (.quoted ext)) ++ gap

/-- Takes a gap, and goes on behind it. -/
def skipGap {α : Type} (k : Text → Option α) (rest : Text) : Option α :=
  if AtGap rest then k rest.tail else none

/-- Takes the end of a name and a gap, and goes on behind them. -/
def skipEnding {α : Type} (ext : Text) (k : Text → Option α) (text : Text) : Option α :=
  (Text.after? ".".toList text).bind fun behind =>
    (Text.after? "tex".toList behind).bind (skipGap k) <|> (Text.after? ext behind).bind (skipGap k)

/-- The pattern of a gap takes what a gap is. -/
theorem search_gap {α : Type} (k : List Pattern.Span → Text → Option α) (spans : List Pattern.Span)
    (rest : Text) : gap.search k spans rest = skipGap (k spans) rest := by
  cases rest with
  | nil => rfl
  | cons c rest =>
    show ((if ' ' = c then Text.after? [] rest else none).bind (k spans) <|> none)
      = if AtGap (c :: rest) then k spans rest else none
    by_cases hc : ' ' = c
    · rw [if_pos hc, if_pos (.inr (congrArg some hc.symm)), Text.after?_nil]
      exact orElse_failure _
    · have hgap : ¬AtGap (c :: rest) := by
        rintro (h | h)
        · exact List.cons_ne_nil _ _ h
        · exact hc (Option.some.inj h).symm
      rw [if_neg hc, if_neg hgap]
      rfl

/-- The pattern of the end of a name takes one of the extensions, and a gap. -/
theorem search_ending {α : Type} (ext : Text) (k : List Pattern.Span → Text → Option α)
    (spans : List Pattern.Span) (text : Text) :
    (ending ext).search k spans text = skipEnding ext (k spans) text := by
  unfold skipEnding
  simp only [← funext (search_gap k spans)]
  rfl

/-- The rule for source files, as a search. Both repetitions are lazy. -/
theorem captures?_eq_searchFewest (ext t : Text) : (fileEntry ext).captures? t =
    Pattern.searchFewest .any (fun u => (Text.after? "(./".toList u).bind fun behind =>
      Pattern.searchFewest (.except ')')
        (skipEnding ext fun rest => some [Pattern.Span.text ⟨behind, rest⟩]) behind) t := by
  rw [Pattern.captures?_eq_search]
  show Pattern.searchFewest .any (fun u => (Text.after? "(./".toList u).bind fun behind =>
    Pattern.searchFewest (.except ')') (fun v => (ending ext).search (fun inner rest =>
      some ((⟨behind, rest⟩ :: inner).reverse.map Pattern.Span.text)) [] v) behind) t = _
  simp only [search_ending]
  rfl

section

variable {α : Type} {k : Text → Option α} {a : α} {x rest : Text}

/-- A text and a gap are taken just if they are there. -/
theorem bind_skipGap_eq_some_iff : (Text.after? x text).bind (skipGap k) = some a ↔
    ∃ rest, text = x ++ rest ∧ AtGap rest ∧ k rest.tail = some a := by
  rw [Option.bind_eq_some_iff]
  refine exists_congr fun rest => and_congr Text.after?_eq_some_iff ?_
  unfold skipGap
  split
  · next h => exact (and_iff_right h).symm
  · next h => exact iff_of_false nofun fun hk => h hk.1

/-- A word is not longer than another one in its place, if what follows that one begins with a
character that the word has not. -/
theorem length_le_of_head {word x rest rest' : Text} (h : word ++ rest = x ++ rest')
    (hhead : ∀ c ∈ rest'.head?, c ∉ word) : word.length ≤ x.length := by
  rcases List.append_eq_append_iff.1 h with ⟨more, rfl, -⟩ | ⟨more, rfl, rfl⟩
  · rw [List.length_append]
    exact Nat.le_add_right _ _
  · cases more with
    | nil => rw [List.append_nil]
    | cons c more => exact absurd (List.mem_append_right _ List.mem_cons_self) (hhead c rfl)

/-- What a gap begins with is a space, if it is not the end. -/
theorem AtGap.eq_space (h : AtGap rest) : ∀ c ∈ rest.head?, c = ' ' := by
  rcases h with rfl | h
  · exact fun c hc => absurd hc (Option.some_ne_none c).symm
  · exact fun c hc => Option.some.inj (hc.symm.trans h)

/-- A text with a gap behind it is taken. -/
theorem bind_skipGap_of_gap (hgap : AtGap rest) (f : Text → α) :
    (Text.after? x (x ++ rest)).bind (skipGap fun rest => some (f rest)) = some (f rest.tail) :=
  bind_skipGap_eq_some_iff.2 ⟨rest, rfl, hgap, rfl⟩

/-- **The end of a name is taken where there is one**, whichever of the two extensions it has. -/
theorem skipEnding_ne_none (hx : x = "tex".toList ∨ x = ext) (hgap : AtGap rest) (f : Text → α) :
    skipEnding ext (fun rest => some (f rest)) ('.' :: (x ++ rest)) ≠ none := by
  show ((Text.after? "tex".toList (x ++ rest)).bind _ <|>
    (Text.after? ext (x ++ rest)).bind _) ≠ none
  rw [Ne, Option.orElse_eq_none, not_and_or]
  rcases hx with rfl | rfl
  · exact .inl (by rw [bind_skipGap_of_gap hgap]; exact Option.some_ne_none _)
  · exact .inr (by rw [bind_skipGap_of_gap hgap]; exact Option.some_ne_none _)

/-- **What is taken is the end of a name**, with the shorter extension if both would do. -/
theorem exists_of_skipEnding {f : Text → α}
    (h : skipEnding ext (fun rest => some (f rest)) text = some a) :
    ∃ x rest, text = '.' :: (x ++ rest) ∧ (x = "tex".toList ∨ x = ext) ∧ AtGap rest ∧
      f rest.tail = a ∧ ∀ x' rest', text = '.' :: (x' ++ rest') →
        (x' = "tex".toList ∨ x' = ext) → AtGap rest' → x.length ≤ x'.length := by
  obtain ⟨behind, hdot, h⟩ := Option.bind_eq_some_iff.1 h
  obtain rfl : text = '.' :: behind := Text.after?_eq_some_iff.1 hdot
  rcases (Option.orElse_eq_some _ _ _).1 h with h | ⟨hnone, h⟩
  · obtain ⟨rest, rfl, hgap, hf⟩ := bind_skipGap_eq_some_iff.1 h
    refine ⟨_, rest, rfl, .inl rfl, hgap, Option.some.inj hf, fun x' rest' hsplit _ hgap' => ?_⟩
    exact length_le_of_head (List.cons.inj hsplit).2 fun c hc => by
      rw [hgap'.eq_space c hc]
      decide
  · obtain ⟨rest, rfl, hgap, hf⟩ := bind_skipGap_eq_some_iff.1 h
    refine ⟨ext, rest, rfl, .inr rfl, hgap, Option.some.inj hf, fun x' rest' hsplit hx' hgap' => ?_⟩
    rcases hx' with rfl | rfl
    · rw [(List.cons.inj hsplit).2, bind_skipGap_of_gap hgap'] at hnone
      exact absurd hnone (Option.some_ne_none _)
    · exact Nat.le_refl _

/-- **A name is the shortest** that a text opens, if no end of a name can be taken in front of its
last dot, and none that is shorter behind it. -/
theorem length_le_of_opens {stem other : Text} {f : Text → α} (hx : '.' ∉ x)
    (hstem : ∀ shorter more, stem = shorter ++ more → more ≠ [] →
      skipEnding ext (fun rest => some (f rest)) (more ++ '.' :: (x ++ rest)) = none)
    (hshort : ∀ x' rest', '.' :: (x ++ rest) = '.' :: (x' ++ rest') →
      (x' = "tex".toList ∨ x' = ext) → AtGap rest' → x.length ≤ x'.length)
    (hother : Opens ext other (stem ++ '.' :: (x ++ rest))) :
    (stem ++ '.' :: x).length ≤ other.length := by
  obtain ⟨⟨stem', x', rfl, -, hx'⟩, rest', htext, hgap'⟩ := hother
  have hsplit : stem ++ '.' :: (x ++ rest) = stem' ++ '.' :: (x' ++ rest') := by
    rw [htext, List.append_assoc]
    rfl
  rw [List.length_append, List.length_append, List.length_cons, List.length_cons]
  rcases List.append_eq_append_iff.1 hsplit with ⟨more, rfl, hmore⟩ | ⟨more, rfl, hmore⟩
  · cases more with
    | nil =>
      have hle := hshort x' rest' hmore hx' hgap'
      rw [List.append_nil]
      omega
    | cons c more =>
      -- the dot of the other name would have to stand in the extension of this one
      have hle : x.length ≤ more.length :=
        length_le_of_head (List.cons.inj hmore).2 fun c hc => Option.some.inj hc ▸ hx
      rw [List.length_append, List.length_cons]
      omega
  · cases more with
    | nil =>
      have hle := hshort x' rest' hmore.symm hx' hgap'
      rw [List.append_nil]
      omega
    | cons c more =>
      have hnone := hstem stem' (c :: more) rfl (List.cons_ne_nil _ _)
      rw [← hmore] at hnone
      exact absurd hnone (skipEnding_ne_none hx' hgap' f)

end

/-- A span that ends behind the first character after a name. -/
theorem span_text_tail (name rest : Text) : (Pattern.Span.mk (name ++ rest) rest.tail).text
    = (name ++ rest).take (name.length + 1) := by
  show (name ++ rest).take ((name ++ rest).length - rest.tail.length) = _
  cases rest with
  | nil =>
    rw [List.append_nil, List.take_of_length_le (Nat.le_succ _)]
    exact List.take_length
  | cons c rest =>
    have hlength : (name ++ c :: rest).length - rest.length = name.length + 1 := by
      rw [List.length_append, List.length_cons]
      omega
    rw [List.tail_cons, hlength]

/-- **What the rule captures behind `(./`**: the shortest name, and the gap. A longer name would end
behind the end of this one, which the lazy repetition meets first. -/
theorem searchFewest_skipEnding (hext : '.' ∉ ext) (text : Text) :
    Pattern.searchFewest (.except ')')
        (skipEnding ext fun rest => some [Pattern.Span.text ⟨text, rest⟩]) text
      = (shortestName? ext text).map fun name => [text.take (name.length + 1)] := by
  rcases hs : Pattern.searchFewest _ _ text with _ | groups
  · rw [Pattern.searchFewest_eq_none_iff] at hs
    have hnone : shortestName? ext text = none := by
      rw [shortestName?_eq_none_iff]
      rintro name ⟨⟨stem, x, rfl, hstem, hx⟩, rest, htext, hgap⟩
      rw [List.append_assoc] at htext
      exact skipEnding_ne_none hx hgap _ (hs stem _ htext (CharClass.forall_except_iff.2 hstem))
    rw [hnone]
    rfl
  · obtain ⟨stem, behind, rfl, hstem, hfound, hmin⟩ := Pattern.searchFewest_eq_some_iff.1 hs
    obtain ⟨x, rest, rfl, hx, hgap, rfl, hshort⟩ := exists_of_skipEnding hfound
    have hdot : '.' ∉ x := by
      rcases hx with rfl | rfl
      · decide
      · exact hext
    have hsplit : stem ++ '.' :: (x ++ rest) = (stem ++ '.' :: x) ++ rest :=
      (List.append_assoc stem ('.' :: x) rest).symm
    have hname : shortestName? ext (stem ++ '.' :: (x ++ rest)) = some (stem ++ '.' :: x) :=
      shortestName?_eq_some_iff.2
        ⟨⟨⟨stem, x, rfl, CharClass.forall_except_iff.1 hstem, hx⟩, rest, hsplit, hgap⟩,
        fun other => length_le_of_opens hdot hmin hshort⟩
    rw [hname, hsplit, span_text_tail]
    rfl

end Typesetting

end TexTranscript
