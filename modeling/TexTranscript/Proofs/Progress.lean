import TexTranscript.Proofs.FileLineErrors

/-!
# Progress on files of any extension

makeindex reports progress on a file by two words and `file`, the name of the file, and a status
between parentheses. The name ends in a dot and one of the extensions that the grammar is given,
whatever characters there are in them.

Whether a statement is such a report does not depend on the order of the extensions, since the
search goes through all of them if it has to. What it finds does depend on it, in two ways: of two
extensions that both stand behind a dot the one that comes first is taken, and a leading `./` is
kept if the name can only end in it. Neither can happen to extensions that are not empty, hold no
slash and are not a proper beginning of one another (`Index.Plain`). Then the name of the file ends
behind the last dot that can be taken, and the status is what stands between the last opening
parenthesis that has a closing one behind it and the last closing one.

## Main definitions

* `Index.Rated`, `Index.IsStatus` – there is a status, and which.
* `Index.EndsName` – a name ends at a dot and an extension.
* `Index.AnnouncesProgress` – a statement reports progress.
* `Index.Plain` – extensions of which one at most stands behind a dot.

## Main statements

* `Pattern.exists_of_findSome?_backoffs` – what a greedy repetition finds.
* `Index.exists_classify_progress_iff` – which statements are read as progress.
* `Index.exists_of_captures_progress` – what is captured of them.
* `Index.progress_recognized` – progress, for all lists of extensions.
-/

namespace TexTranscript

/-! ## Greedy repetitions -/

namespace Pattern

variable {α : Type} {c : CharClass} {k : Text → Option α} {t : Text} {a : α}

/-- **A greedy repetition finds the longest run** behind which the rest can be matched. The
induction is on the text: the longest run is tried first, and a shorter one only if what is behind
the longer one fails. -/
theorem exists_of_findSome?_backoffs (h : (backoffs c t []).findSome? k = some a) :
    ∃ run rest, t = run ++ rest ∧ k rest = some a ∧ ∀ longer behind, t = longer ++ behind →
      (∀ x ∈ longer, c.contains x = true) → run.length < longer.length → k behind = none := by
  rw [backoffs_eq, List.append_nil] at h
  induction t with
  | nil =>
    refine ⟨[], [], rfl, List.findSome?_singleton.symm.trans h, fun longer behind ht _ hlt => ?_⟩
    obtain ⟨rfl, -⟩ := List.append_eq_nil_iff.1 ht.symm
    exact absurd hlt (Nat.lt_irrefl 0)
  | cons x t ih =>
    unfold stops at h
    rw [List.reverse_cons, List.findSome?_append, Option.or_eq_some_iff] at h
    rcases h with h | ⟨hnone, h⟩
    · split at h
      · next hx =>
        obtain ⟨run, rest, rfl, hk, hmax⟩ := ih h
        refine ⟨x :: run, rest, rfl, hk, fun longer behind ht hlonger hlt => ?_⟩
        cases longer with
        | nil => exact absurd hlt (Nat.not_lt_zero _)
        | cons y longer =>
          exact hmax longer behind (List.cons.inj ht).2 (List.forall_mem_cons.1 hlonger).2
            (Nat.lt_of_succ_lt_succ hlt)
      · exact absurd h (Option.some_ne_none a).symm
    · refine ⟨[], x :: t, rfl, List.findSome?_singleton.symm.trans h,
        fun longer behind ht hlonger hlt => ?_⟩
      cases longer with
      | nil => exact absurd hlt (Nat.lt_irrefl 0)
      | cons y longer =>
        obtain ⟨rfl, hrest⟩ := List.cons.inj ht
        obtain ⟨hx, hlonger⟩ := List.forall_mem_cons.1 hlonger
        rw [if_pos hx, List.findSome?_eq_none_iff] at hnone
        exact hnone behind (List.mem_reverse.2 (mem_stops_iff.2 ⟨longer, hrest, hlonger⟩))

/-- A choice between texts from outside matches just these texts. -/
theorem matches_firstOf_quoted {texts groups : List Text} {u rest : Text} (hne : texts ≠ []) :
    (firstOf (texts.map quoted)).Matches u groups rest ↔ u ∈ texts ∧ groups = [] := by
  induction texts with
  | nil => exact absurd rfl hne
  | cons text texts ih =>
    cases texts with
    | nil =>
      rw [List.mem_singleton]
      exact Iff.rfl
    | cons other texts =>
      show (u = text ∧ groups = []) ∨
        (firstOf ((other :: texts).map quoted)).Matches u groups rest ↔ _
      rw [ih (List.cons_ne_nil _ _), ← or_and_right, List.mem_cons (b := text)]

end Pattern

/-- There is one way to split a text at its last `c`. Turned around, both are split at the first
one. -/
theorem Text.split_last_unique {c : Char} {front front' behind behind' : Text}
    (h : front ++ c :: behind = front' ++ c :: behind') (hbehind : c ∉ behind)
    (hbehind' : c ∉ behind') : front = front' ∧ behind = behind' := by
  have hreverse :
      behind.reverse ++ c :: front.reverse = behind'.reverse ++ c :: front'.reverse := by
    simpa using congrArg List.reverse h
  obtain ⟨hb, hf⟩ := Text.split_unique hreverse (fun hc => hbehind (List.mem_reverse.1 hc))
    fun hc => hbehind' (List.mem_reverse.1 hc)
  exact ⟨List.reverse_inj.1 hf, List.reverse_inj.1 hb⟩

/-- The message reports progress. -/
def Message.isProgress : Message → Bool
  | progress .. => true
  | _ => false

namespace Index

/-! ## What a report of progress looks like -/

/-- **A word**, in the letters of any script. -/
def IsWord (text : Text) : Prop := text ≠ [] ∧ ∀ c ∈ text, Text.isWord c = true

/-- **There is a status**: an opening parenthesis with a closing one somewhere behind it. -/
def Rated (text : Text) : Prop :=
  ∃ between status rest, text = between ++ '(' :: (status ++ ')' :: rest)

/-- **The status** stands between the last opening parenthesis that has a closing one behind it and
the last closing one. -/
def IsStatus (text status : Text) : Prop :=
  ∃ between rest, text = between ++ '(' :: (status ++ ')' :: rest) ∧ '(' ∉ status ∧ ')' ∉ rest

/-- **A name ends** behind `front`, a dot and one of the extensions, if there is a status behind. -/
structure EndsName (extensions : List Text) (text front x behind : Text) : Prop where
  eq : text = front ++ '.' :: (x ++ behind)
  mem : x ∈ extensions
  rated : Rated behind

/-- **It is the last end** of a name if no other one has its dot further on. -/
structure EndsNameLast (extensions : List Text) (text front x behind : Text) : Prop
    extends EndsName extensions text front x behind where
  last : ∀ front' x' behind', EndsName extensions text front' x' behind' →
    front'.length ≤ front.length

/-- A statement that consists of two words and `file`, with a space behind each, and a text. -/
def opening (first second text : Text) : Text :=
  first ++ ' ' :: (second ++ " file ".toList ++ text)

/-- **A statement reports progress** on a file with one of the extensions. -/
def AnnouncesProgress (extensions : List Text) (statement : Text) : Prop :=
  ∃ first second text front x behind, IsWord first ∧ IsWord second ∧
    statement = opening first second text ∧ EndsName extensions text front x behind

/-- **Extensions of which one at most stands behind a dot**, and none begins with a slash: they are
not empty, hold no slash, and none is a proper beginning of another one. -/
structure Plain (extensions : List Text) : Prop where
  ne_nil : ∀ x ∈ extensions, x ≠ []
  slash_notMem : ∀ x ∈ extensions, '/' ∉ x
  eq_of_prefix : ∀ x ∈ extensions, ∀ y ∈ extensions, x <+: y → x = y

/-- A text without the `./` that it may begin with. -/
def withoutHere (text : Text) : Text := (Text.after? "./".toList text).getD text

variable {extensions others : List Text}
  {text front x behind front' x' behind' status status' : Text}

/-- **There is one status.** The last closing parenthesis ends it, and the last opening one in front
of that begins it. -/
theorem IsStatus.unique (h : IsStatus text status) (h' : IsStatus text status') :
    status = status' := by
  obtain ⟨between, rest, htext, hstatus, hrest⟩ := h
  obtain ⟨between', rest', htext', hstatus', hrest'⟩ := h'
  have hsplit : (between ++ '(' :: status) ++ ')' :: rest
      = (between' ++ '(' :: status') ++ ')' :: rest' := by
    simpa using htext.symm.trans htext'
  exact (Text.split_last_unique (Text.split_last_unique hsplit hrest hrest').1 hstatus hstatus').2

/-- **There is one last end** of a name, if the extensions are plain. -/
theorem EndsNameLast.unique (hplain : Plain extensions)
    (h : EndsNameLast extensions text front x behind)
    (h' : EndsNameLast extensions text front' x' behind') :
    front = front' ∧ x = x' ∧ behind = behind' := by
  have hlength : front.length = front'.length :=
    Nat.le_antisymm (h'.last _ _ _ h.toEndsName) (h.last _ _ _ h'.toEndsName)
  obtain ⟨rfl, hends⟩ := List.append_inj (h.eq.symm.trans h'.eq) hlength
  have hends : x ++ behind = x' ++ behind' := (List.cons.inj hends).2
  have hx : x = x' := by
    rcases List.prefix_or_prefix_of_prefix (List.prefix_append x behind)
      (hends ▸ List.prefix_append x' behind') with hle | hle
    · exact hplain.eq_of_prefix x h.mem x' h'.mem hle
    · exact (hplain.eq_of_prefix x' h'.mem x h.mem hle).symm
  subst hx
  exact ⟨rfl, rfl, List.append_cancel_left hends⟩

/-- Only the members of the list of extensions matter for where a name ends. -/
theorem EndsName.congr (hsame : ∀ x, x ∈ others ↔ x ∈ extensions) :
    EndsName others text front x behind ↔ EndsName extensions text front x behind :=
  ⟨fun h => ⟨h.eq, (hsame x).1 h.mem, h.rated⟩, fun h => ⟨h.eq, (hsame x).2 h.mem, h.rated⟩⟩

/-- Only the members of the list of extensions matter for what announces progress. -/
theorem AnnouncesProgress.congr (hsame : ∀ x, x ∈ others ↔ x ∈ extensions) {statement : Text} :
    AnnouncesProgress others statement ↔ AnnouncesProgress extensions statement := by
  unfold AnnouncesProgress
  simp only [EndsName.congr hsame]

/-- Only the members of the list of extensions matter for where a name ends last. -/
theorem EndsNameLast.congr (hsame : ∀ x, x ∈ others ↔ x ∈ extensions)
    (h : EndsNameLast others text front x behind) :
    EndsNameLast extensions text front x behind :=
  ⟨(EndsName.congr hsame).1 h.toEndsName, fun front' x' behind' h' =>
    h.last front' x' behind' ((EndsName.congr hsame).2 h')⟩

/-- **The leading `./` is no part of a name** whose extension is neither empty nor begins with a
slash. -/
theorem EndsName.withoutHere (hplain : Plain extensions) {rest : Text}
    (h : EndsName extensions ("./".toList ++ rest) front x behind) :
    ∃ front', EndsName extensions rest front' x behind := by
  have heq : '.' :: '/' :: rest = front ++ '.' :: (x ++ behind) := h.eq
  match front, heq with
  | [], heq =>
    obtain ⟨y, x, rfl⟩ := List.exists_cons_of_ne_nil (hplain.ne_nil x h.mem)
    obtain ⟨rfl, -⟩ := List.cons.inj (List.cons.inj heq).2
    exact absurd List.mem_cons_self (hplain.slash_notMem _ h.mem)
  | [y], heq => exact absurd (List.cons.inj (List.cons.inj heq).2).1 (by decide)
  | y :: z :: front, heq =>
    exact ⟨front, (List.cons.inj (List.cons.inj heq).2).2, h.mem, h.rated⟩

/-! ## The pattern for progress, piece by piece -/

open Pattern (captured captured_append captured_cons)

/-- Two words and `file`, with a space behind each. -/
def openingPattern : Pattern :=
  .group (.several .word ++ .lit " " ++ .several .word ++ .lit " file") ++ .lit " "

/-- A name with one of the extensions. -/
def namePattern (extensions : List Text) : Pattern :=
  .group (.many .any ++ .lit "." ++ .bracket (.firstOf (extensions.map .quoted)))

/-- A status. -/
def statusPattern : Pattern := .many .any ++ .lit "(" ++ .group (.many .any) ++ .lit ")"

variable {α : Type} {groups : List Text} {spans : List Pattern.Span} {rest u : Text}

/-- The opening is two words and the word `file`, with spaces between them. -/
theorem matches_openingPattern : openingPattern.Matches u groups rest ↔
    ∃ first second, IsWord first ∧ IsWord second ∧ u = opening first second [] ∧
      groups = [first ++ ' ' :: (second ++ " file".toList)] := by
  constructor
  · rintro ⟨_, _, _, _, rfl, rfl, ⟨_, rfl, _, _, _, _, rfl, rfl, ⟨_, second, _, _, rfl, rfl,
      ⟨first, _, _, _, rfl, rfl, ⟨hfirst, rfl⟩, rfl, rfl⟩, hsecond, rfl⟩, rfl, rfl⟩, rfl, rfl⟩
    exact ⟨first, second, hfirst, hsecond, by simp [opening], by simp⟩
  · rintro ⟨first, second, hfirst, hsecond, rfl, rfl⟩
    refine ⟨first ++ ' ' :: (second ++ " file".toList), [' '], [_], [], by simp [opening], rfl,
      ⟨[], rfl, first ++ ' ' :: second, " file".toList, [], [], by simp, rfl,
        ⟨first ++ [' '], second, [], [], by simp, rfl,
          ⟨first, [' '], [], [], rfl, rfl, ⟨hfirst, rfl⟩, rfl, rfl⟩, hsecond, rfl⟩,
        rfl, rfl⟩, rfl, rfl⟩

/-- A name is a text with one of the extensions at its end. -/
theorem matches_namePattern (hne : extensions ≠ []) :
    (namePattern extensions).Matches u groups rest ↔ groups = [u] ∧ ∃ front x, u = front ++ '.' :: x ∧ '\n' ∉ front ∧ x ∈ extensions := by
  constructor
  · rintro ⟨_, rfl, _, x, _, _, rfl, rfl, ⟨front, _, _, _, rfl, rfl, ⟨hfront, rfl⟩, rfl, rfl⟩, hx⟩
    obtain ⟨hmem, rfl⟩ := (Pattern.matches_firstOf_quoted hne).1 hx
    exact ⟨rfl, front, x, by simp, CharClass.forall_except_iff.1 hfront, hmem⟩
  · rintro ⟨rfl, front, x, rfl, hfront, hx⟩
    exact ⟨[], rfl, front ++ ['.'], x, [], [], by simp, rfl,
      ⟨front, ['.'], [], [], rfl, rfl, ⟨CharClass.forall_except_iff.2 hfront, rfl⟩, rfl, rfl⟩,
      (Pattern.matches_firstOf_quoted hne).2 ⟨hx, rfl⟩⟩

/-- A status is matched in parentheses, behind whatever stands on the same line. -/
theorem matches_statusPattern : statusPattern.Matches u groups rest ↔
    ∃ between status, u = between ++ '(' :: (status ++ [')']) ∧ groups = [status] ∧
      '\n' ∉ between ∧ '\n' ∉ status := by
  constructor
  · rintro ⟨_, _, _, _, rfl, rfl, ⟨_, status, _, _, rfl, rfl, ⟨between, _, _, _, rfl, rfl,
      ⟨hbetween, rfl⟩, rfl, rfl⟩, _, rfl, hstatus, rfl⟩, rfl, rfl⟩
    exact ⟨between, status, by simp, by simp, CharClass.forall_except_iff.1 hbetween,
      CharClass.forall_except_iff.1 hstatus⟩
  · rintro ⟨between, status, rfl, rfl, hbetween, hstatus⟩
    exact ⟨between ++ '(' :: status, [')'], [status], [], by simp, rfl,
      ⟨between ++ ['('], status, [], [status], by simp, rfl,
        ⟨between, ['('], [], [], rfl, rfl, ⟨CharClass.forall_except_iff.2 hbetween, rfl⟩, rfl, rfl⟩,
        [], rfl, CharClass.forall_except_iff.2 hstatus, rfl⟩, rfl, rfl⟩

/-- A status is found wherever there is one. -/
theorem isSome_search_status {k : List Pattern.Span → Text → Option α}
    (hk : ∀ spans rest, (k spans rest).isSome = true) (hfeed : '\n' ∉ text) (h : Rated text) :
    (statusPattern.search k spans text).isSome = true := by
  obtain ⟨between, status, rest, rfl⟩ := h
  have hmatches : statusPattern.Matches (between ++ '(' :: (status ++ [')'])) [status] rest :=
    matches_statusPattern.2 ⟨between, status, rfl, rfl,
      fun hc => hfeed (List.mem_append_left _ hc),
      fun hc => hfeed (List.mem_append_right _
        (List.mem_cons_of_mem _ (List.mem_append_left _ hc)))⟩
  have hfound : (statusPattern.search k spans
      ((between ++ '(' :: (status ++ [')'])) ++ rest)).isSome = true :=
    hmatches.search fun _ _ => hk _ _
  rwa [List.append_assoc, List.cons_append, List.append_assoc] at hfound

/-- The end of a search, where the groups are read. -/
abbrev finish (spans : List Pattern.Span) (_ : Text) : Option (List Text) := some (captured spans)

/-- **What is captured for a status** is the status. Both repetitions take all that they can, and a
later parenthesis would have let them take more. -/
theorem exists_of_search_status (hfeed : '\n' ∉ text)
    (h : statusPattern.search finish spans text = some groups) :
    ∃ status, IsStatus text status ∧ groups = captured spans ++ [status] := by
  change (Pattern.backoffs .any text []).findSome?
    (fun r => (Text.after? "(".toList r).bind fun r' =>
    (Pattern.backoffs .any r' []).findSome? fun r'' => (Text.after? ")".toList r'').bind fun _ =>
      some (captured (⟨r', r''⟩ :: spans))) = some groups at h
  obtain ⟨between, r, rfl, hr, hlast⟩ := Pattern.exists_of_findSome?_backoffs h
  obtain ⟨r', hr', hinner⟩ := Option.bind_eq_some_iff.1 hr
  obtain rfl := Text.after?_eq_some_iff.1 hr'
  obtain ⟨status, r'', rfl, hr'', hlastInner⟩ := Pattern.exists_of_findSome?_backoffs hinner
  obtain ⟨rest, hrest, hgroups⟩ := Option.bind_eq_some_iff.1 hr''
  obtain rfl := Text.after?_eq_some_iff.1 hrest
  have hany {t : Text} (ht : t <:+: between ++ ("(".toList ++ (status ++ (")".toList ++ rest)))) :
      ∀ c ∈ t, CharClass.any.contains c = true :=
    CharClass.forall_except_iff.2 fun hc => hfeed (ht.subset hc)
  refine ⟨status, ⟨between, rest, rfl, ?_, ?_⟩, ?_⟩
  · -- another opening parenthesis in the status would have the closing one behind it, too
    intro hc
    obtain ⟨more, later, rfl⟩ := List.append_of_mem hc
    have hnone := hlast (between ++ '(' :: more) ('(' :: (later ++ ')' :: rest)) (by simp)
      (hany ⟨[], '(' :: (later ++ ')' :: rest), by simp⟩) (by simp)
    have hsome : ((Pattern.backoffs .any (later ++ ')' :: rest) []).findSome? fun r'' =>
        (Text.after? ")".toList r'').bind fun _ =>
          some (captured (⟨later ++ ')' :: rest, r''⟩ :: spans))).isSome = true :=
      Pattern.isSome_backoffs (hany ⟨between ++ '(' :: (more ++ ['(']), ')' :: rest, by simp⟩) rfl
    exact absurd hnone (Option.isSome_iff_ne_none.1 hsome)
  · intro hc
    obtain ⟨more, later, rfl⟩ := List.append_of_mem hc
    have hnone := hlastInner (status ++ ')' :: more) (')' :: later) (by simp)
      (hany ⟨between ++ ['('], ')' :: later, by simp⟩) (by simp)
    exact absurd hnone (Option.some_ne_none _)
  · rw [← Option.some.inj hgroups, captured_cons, Pattern.Span.text_append]

/-- A name, and the status behind it. -/
def reportPattern (extensions : List Text) : Pattern := namePattern extensions ++ statusPattern

/-- A name is found, and a status, wherever a name ends. -/
theorem isSome_search_report (hne : extensions ≠ []) (hfeed : '\n' ∉ text)
    (h : EndsName extensions text front x behind) :
    ((reportPattern extensions).search finish spans text).isSome = true := by
  obtain ⟨rfl, hx, hrated⟩ := h
  have hmatches : (namePattern extensions).Matches (front ++ '.' :: x) [front ++ '.' :: x] behind :=
    (matches_namePattern hne).2
      ⟨rfl, front, x, rfl, fun hc => hfeed (List.mem_append_left _ hc), hx⟩
  have hbehind : '\n' ∉ behind := fun hc =>
    hfeed (List.mem_append_right _ (List.mem_cons_of_mem _ (List.mem_append_right _ hc)))
  have hfound : ((namePattern extensions).search
      (fun spans rest => statusPattern.search finish spans rest) spans
      ((front ++ '.' :: x) ++ behind)).isSome = true :=
    hmatches.search fun _ _ => isSome_search_status (fun _ _ => rfl) hbehind hrated
  rwa [List.append_assoc, List.cons_append] at hfound

/-- **What is captured for a name** reaches up to its last end, and what is captured behind is the
status. The name takes all that it can, and a later end with a status behind it would have let it
take more. -/
theorem exists_of_search_report (hne : extensions ≠ []) (hfeed : '\n' ∉ text)
    (h : (reportPattern extensions).search finish spans text = some groups) :
    ∃ front x behind status, EndsNameLast extensions text front x behind ∧
      IsStatus behind status ∧ groups = captured spans ++ [front ++ '.' :: x, status] := by
  change (Pattern.backoffs .any text []).findSome?
    (fun r => (Text.after? ".".toList r).bind fun r' =>
    (Pattern.firstOf (extensions.map .quoted)).search (fun inner rest =>
      statusPattern.search finish (⟨text, rest⟩ :: inner) rest) spans r') = some groups at h
  obtain ⟨front, r, rfl, hr, hlast⟩ := Pattern.exists_of_findSome?_backoffs h
  obtain ⟨r', hr', hinner⟩ := Option.bind_eq_some_iff.1 hr
  obtain rfl := Text.after?_eq_some_iff.1 hr'
  obtain ⟨x, behind, inner, rfl, hmatches, hstatus⟩ := Pattern.exists_matches_of_search hinner
  obtain ⟨hx, hcaptured⟩ := (Pattern.matches_firstOf_quoted hne).1 hmatches
  have hbehind : '\n' ∉ behind := fun hc =>
    hfeed (List.mem_append_right _ (List.mem_append_right _ (List.mem_append_right _ hc)))
  obtain ⟨status, hisStatus, rfl⟩ := exists_of_search_status hbehind hstatus
  obtain ⟨between, rest, hrated, -⟩ := id hisStatus
  refine ⟨front, x, behind, status, ⟨⟨rfl, hx, between, status, rest, hrated⟩, ?_⟩, hisStatus, ?_⟩
  · -- behind a dot that is further on nothing was found
    intro front' x' behind' hends
    by_contra hlt
    have hfront' : ∀ c ∈ front', CharClass.any.contains c = true := CharClass.forall_except_iff.2
      fun hc => hfeed (hends.eq ▸ List.mem_append_left _ hc)
    have hnone := hlast front' ('.' :: (x' ++ behind')) hends.eq hfront' (Nat.lt_of_not_le hlt)
    have hbehind' : '\n' ∉ behind' := fun hc =>
      hfeed (hends.eq ▸ List.mem_append_right _
        (List.mem_cons_of_mem _ (List.mem_append_right _ hc)))
    have hmatches' : (Pattern.firstOf (extensions.map .quoted)).Matches x' [] behind' :=
      (Pattern.matches_firstOf_quoted hne).2 ⟨hends.mem, rfl⟩
    have hsome : ((Pattern.firstOf (extensions.map .quoted)).search (fun inner rest =>
        statusPattern.search finish (⟨front ++ (".".toList ++ (x ++ behind)), rest⟩ :: inner) rest)
        spans (x' ++ behind')).isSome = true :=
      hmatches'.search fun _ _ => isSome_search_status (fun _ _ => rfl) hbehind' hends.rated
    exact absurd hnone (Option.isSome_iff_ne_none.1 hsome)
  · have htext : (Pattern.Span.mk (front ++ (".".toList ++ (x ++ behind))) behind).text
        = front ++ '.' :: x := by
      have h := Pattern.Span.text_append (front ++ '.' :: x) behind
      rwa [List.append_assoc] at h
    rw [captured_cons, captured_append, hcaptured, htext, List.append_nil, List.append_assoc]
    rfl

/-- **The pattern for progress, in one search**: behind the opening `./` is tried first. -/
theorem captures_progress (extensions : List Text) (statement : Text) :
    (progressPattern (extensions.map .quoted)).captures? statement =
      openingPattern.search (fun spans text =>
        ((Text.after? "./".toList text).bind ((reportPattern extensions).search finish spans)) <|>
          (reportPattern extensions).search finish spans text) [] statement :=
  Pattern.captures?_eq_search _ _

variable {statement : Text}

/-- A text in a statement without line feeds has none. -/
theorem lineFeed_notMem_of_opening {first second : Text}
    (hfeed : '\n' ∉ opening first second text) : '\n' ∉ text :=
  fun hc => hfeed (List.mem_append_right _ (List.mem_cons_of_mem _ (List.mem_append_right _ hc)))

/-- What follows the start of a text without line feeds has none. -/
theorem lineFeed_notMem_after {start : Text} (h : Text.after? start text = some rest)
    (hfeed : '\n' ∉ text) : '\n' ∉ rest :=
  fun hc => hfeed (Text.after?_eq_some_iff.1 h ▸ List.mem_append_right _ hc)

/-- **Progress is captured just of the statements that report it.** One direction reads off what was
matched; the other finds a match, not necessarily the one that is meant. -/
theorem isSome_captures_progress_iff (hne : extensions ≠ []) (hfeed : '\n' ∉ statement) :
    ((progressPattern (extensions.map .quoted)).captures? statement).isSome = true ↔
      AnnouncesProgress extensions statement := by
  rw [captures_progress]
  constructor
  · intro h
    obtain ⟨groups, h⟩ := Option.isSome_iff_exists.1 h
    obtain ⟨_, text, _, rfl, hopening, hreport⟩ := Pattern.exists_matches_of_search h
    obtain ⟨first, second, hfirst, hsecond, rfl, -⟩ := matches_openingPattern.1 hopening
    have htext : opening first second [] ++ text = opening first second text := by simp [opening]
    rw [htext] at hfeed ⊢
    have hfeed := lineFeed_notMem_of_opening hfeed
    rcases (Option.orElse_eq_some _ _ _).1 hreport with h | ⟨-, h⟩
    · obtain ⟨rest, hrest, h⟩ := Option.bind_eq_some_iff.1 h
      obtain ⟨front, x, behind, _, hends, -⟩ :=
        exists_of_search_report hne (lineFeed_notMem_after hrest hfeed) h
      refine ⟨first, second, text, "./".toList ++ front, x, behind, hfirst, hsecond, rfl, ?_,
        hends.mem, hends.rated⟩
      rw [Text.after?_eq_some_iff.1 hrest, hends.eq, List.append_assoc]
    · obtain ⟨front, x, behind, _, hends, -⟩ := exists_of_search_report hne hfeed h
      exact ⟨first, second, text, front, x, behind, hfirst, hsecond, rfl, hends.toEndsName⟩
  · rintro ⟨first, second, text, front, x, behind, hfirst, hsecond, rfl, hends⟩
    have htext : opening first second [] ++ text = opening first second text := by simp [opening]
    rw [← htext]
    refine Pattern.Matches.search
      (matches_openingPattern.2 ⟨first, second, hfirst, hsecond, rfl, rfl⟩) fun inner _ => ?_
    rw [Option.orElse_eq_orElse, Option.orElse_eq_or, Option.isSome_or, Bool.or_eq_true]
    exact .inr (isSome_search_report hne (lineFeed_notMem_of_opening hfeed) hends)

/-- **What is captured of progress**, if the extensions are plain: the opening, the name up to its
last end without the `./` in front, and the status. The search behind the `./` is tried first, and
it succeeds whenever the one without it does. -/
theorem exists_of_captures_progress (hne : extensions ≠ []) (hplain : Plain extensions)
    (hfeed : '\n' ∉ statement)
    (h : (progressPattern (extensions.map .quoted)).captures? statement = some groups) :
    ∃ first second text front x behind status, IsWord first ∧ IsWord second ∧
      statement = opening first second text ∧
      EndsNameLast extensions (withoutHere text) front x behind ∧ IsStatus behind status ∧
      groups = [first ++ ' ' :: (second ++ " file".toList), front ++ '.' :: x, status] := by
  rw [captures_progress] at h
  obtain ⟨_, text, inner, rfl, hopening, hreport⟩ := Pattern.exists_matches_of_search h
  obtain ⟨first, second, hfirst, hsecond, rfl, hinner⟩ := matches_openingPattern.1 hopening
  have htext : opening first second [] ++ text = opening first second text := by simp [opening]
  rw [htext] at hfeed ⊢
  have hfeed := lineFeed_notMem_of_opening hfeed
  rw [List.append_nil] at hreport
  refine ⟨first, second, text, ?_⟩
  unfold withoutHere
  rcases hhere : Text.after? "./".toList text with _ | rest
  · rw [hhere] at hreport
    obtain ⟨front, x, behind, status, hends, hstatus, rfl⟩ :=
      exists_of_search_report hne hfeed hreport
    exact ⟨front, x, behind, status, hfirst, hsecond, rfl, hends, hstatus, by rw [hinner]; rfl⟩
  · rw [hhere] at hreport
    have hrest := lineFeed_notMem_after hhere hfeed
    rcases (Option.orElse_eq_some _ _ _).1 hreport with h | ⟨hnone, h⟩
    · obtain ⟨front, x, behind, status, hends, hstatus, rfl⟩ :=
        exists_of_search_report hne hrest h
      exact ⟨front, x, behind, status, hfirst, hsecond, rfl, hends, hstatus, by rw [hinner]; rfl⟩
    · -- behind `./` it would have been found as well
      obtain ⟨front, x, behind, _, hends, -⟩ := exists_of_search_report hne hfeed h
      obtain ⟨_, hends⟩ := EndsName.withoutHere hplain
        (Text.after?_eq_some_iff.1 hhere ▸ hends.toEndsName)
      exact absurd hnone (Option.isSome_iff_ne_none.1 (isSome_search_report hne hrest hends))

/-! ## What is read and said -/

/-- A word holds no space. -/
theorem IsWord.space_notMem {word : Text} (h : IsWord word) : ' ' ∉ word :=
  fun hc => absurd (h.2 ' ' hc) (by decide)

/-- **There is one way to open** a statement with words. -/
theorem opening_unique {first second first' second' text' : Text} (hfirst : IsWord first)
    (hsecond : IsWord second) (hfirst' : IsWord first') (hsecond' : IsWord second')
    (h : opening first second text = opening first' second' text') :
    first = first' ∧ second = second' ∧ text = text' := by
  obtain ⟨rfl, hword⟩ := Text.split_unique h hfirst.space_notMem hfirst'.space_notMem
  rw [List.append_assoc, List.append_assoc] at hword
  obtain ⟨rfl, hfile⟩ := Text.split_unique hword hsecond.space_notMem hsecond'.space_notMem
  have hfile : "file ".toList ++ text = "file ".toList ++ text' := hfile
  exact ⟨rfl, rfl, List.append_cancel_left hfile⟩

/-- A statement that is opened with words is not the banner, whose third word is another one. -/
theorem matchesStart_version_of_opening {first second : Text} (hfirst : IsWord first)
    (hsecond : IsWord second) :
    versionPattern.matchesStart (opening first second text) = false := by
  rw [← Bool.not_eq_true, Pattern.matchesStart_iff]
  rintro ⟨_, _, rest, h, _, number, _, _, rfl, -, ⟨rfl, -⟩, -⟩
  have hthis : "This".toList ++ ' ' :: ("is".toList ++ ' ' :: ("makeindex, version ".toList ++
      (number ++ rest))) = first ++ ' ' :: (second ++ ' ' :: ("file ".toList ++ text)) := by
    simpa [opening] using h.symm
  obtain ⟨-, his⟩ := Text.split_unique hthis (by decide) hfirst.space_notMem
  obtain ⟨-, hword⟩ := Text.split_unique his (by decide) hsecond.space_notMem
  exact absurd (List.cons.inj hword).1 (by decide)

variable {ν R : Type} [LineSource R]

/-- **What is captured is what is read**, since the rule in front does not apply. -/
theorem classify_of_captures {description file status : Text}
    (hannounced : AnnouncesProgress extensions statement)
    (h : (progressPattern (extensions.map .quoted)).captures? statement
      = some [description, file, status]) :
    (grammar extensions : Grammar _ _ ν).classify statement
      = some (.progress description file status) := by
  obtain ⟨first, second, text, _, _, _, hfirst, hsecond, rfl, -⟩ := hannounced
  have hversion : ∀ rule ∈ (grammar extensions : Grammar _ _ ν).rules.take 1,
      rule.pattern.matchesStart (opening first second text) = false := by
    intro rule hrule
    rw [List.mem_singleton.1 hrule]
    exact matchesStart_version_of_opening hfirst hsecond
  rw [Grammar.classify_eq_drop hversion]
  refine List.findSome?_cons_of_isSome ?_ |>.trans ?_
  · unfold Rule.reading?
    rw [h]
    rfl
  · unfold Rule.reading?
    rw [h]
    rfl

/-- **Progress is read just of the statements that report it.** -/
theorem exists_classify_progress_iff (hne : extensions ≠ []) (hfeed : '\n' ∉ statement) :
    (∃ description file status, (grammar extensions : Grammar _ _ ν).classify statement
      = some (.progress description file status)) ↔ AnnouncesProgress extensions statement := by
  constructor
  · rintro ⟨description, file, status, h⟩
    rw [← isSome_captures_progress_iff hne hfeed]
    obtain ⟨rule, hrule, hreading⟩ := List.exists_of_findSome?_eq_some h
    obtain ⟨groups, hgroups, hread⟩ := Option.bind_eq_some_iff.1 hreading
    change rule ∈ rules extensions at hrule
    simp only [rules, List.mem_cons, List.not_mem_nil, or_false] at hrule
    rcases hrule with rfl | rfl | rfl | rfl | rfl
    case inr.inl => exact Option.isSome_of_eq_some hgroups
    -- the other rules read something else
    all_goals
      dsimp only at hread
      split at hread
      · exact absurd (Option.some.inj hread) (by simp)
      · exact absurd hread (by simp)
  · intro h
    obtain ⟨groups, hgroups⟩ :=
      Option.isSome_iff_exists.1 ((isSome_captures_progress_iff hne hfeed).2 h)
    have hcount : (progressPattern (extensions.map .quoted)).groups? = some 3 := by
      refine progressPattern_groups fun p hp => ?_
      obtain ⟨x, -, rfl⟩ := List.mem_map.1 hp
      rfl
    obtain ⟨description, file, status, rfl⟩ :=
      List.length_eq_three.1 (Pattern.length_of_captures hcount hgroups)
    exact ⟨description, file, status, classify_of_captures h hgroups⟩

/-- What is said of a statement that is read as progress. -/
theorem said_progress {description file status : Text}
    (h : (grammar extensions : Grammar _ _ ν).classify statement
      = some (.progress description file status)) (verbose : Bool) (p : Grammar.Position R Unit) :
    ((grammar extensions : Grammar _ _ ν).turn verbose statement p).said
      = [.progress (String.ofList description) (String.ofList file) (String.ofList status)] := by
  refine Grammar.said_eq ?_
  unfold Grammar.dispatch
  rw [h]
  exact Array.toList_push

/-- **Progress is said of the statements that report it**, and of no other. -/
theorem exists_progress_said_iff (hne : extensions ≠ []) (hfeed : '\n' ∉ statement)
    (verbose : Bool) (p : Grammar.Position R Unit) :
    (∃ m ∈ ((grammar extensions : Grammar _ _ ν).turn verbose statement p).said,
      m.isProgress = true) ↔ AnnouncesProgress extensions statement := by
  rw [← exists_classify_progress_iff (ν := ν) hne hfeed]
  constructor
  · rintro ⟨m, hm, hprogress⟩
    have hsaid {said : List Message} (hmessages : ((grammar extensions : Grammar _ _ ν).dispatch
        verbose statement p).scope.log.messages = p.scope.log.messages ++ said) : m ∈ said :=
      Grammar.said_eq hmessages ▸ hm
    unfold Grammar.dispatch at hsaid
    rcases hfound : (grammar extensions : Grammar _ _ ν).classify statement with _ | found
    · rw [hfound] at hsaid
      cases verbose with
      | true =>
        rw [List.mem_singleton.1 (hsaid Array.toList_push)] at hprogress
        exact absurd hprogress Bool.false_ne_true
      | false => exact absurd (hsaid (List.append_nil _).symm) List.not_mem_nil
    · rw [hfound] at hsaid
      cases found with
      | progress description file status => exact ⟨description, file, status, rfl⟩
      | version _ | sorting _ | artifact _ _ | transcript _ _ =>
        rw [List.mem_singleton.1 (hsaid Array.toList_push)] at hprogress
        exact absurd hprogress Bool.false_ne_true
  · rintro ⟨description, file, status, h⟩
    rw [said_progress h]
    exact ⟨_, List.mem_singleton_self _, rfl⟩

/-- **The order of plain extensions does not matter** for what is read. -/
theorem classify_congr (hne : extensions ≠ []) (hplain : Plain extensions)
    (hsame : ∀ x, x ∈ others ↔ x ∈ extensions) (hfeed : '\n' ∉ statement) :
    (grammar others : Grammar _ _ ν).classify statement
      = (grammar extensions : Grammar _ _ ν).classify statement := by
  have hne' : others ≠ [] := by
    obtain ⟨x, rest, rfl⟩ := List.exists_cons_of_ne_nil hne
    exact List.ne_nil_of_mem ((hsame x).2 List.mem_cons_self)
  have hplain' : Plain others :=
    ⟨fun x hx => hplain.ne_nil x ((hsame x).1 hx),
      fun x hx => hplain.slash_notMem x ((hsame x).1 hx),
      fun x hx y hy => hplain.eq_of_prefix x ((hsame x).1 hx) y ((hsame y).1 hy)⟩
  have hcaptures : (progressPattern (others.map .quoted)).captures? statement
      = (progressPattern (extensions.map .quoted)).captures? statement := by
    by_cases hannounced : AnnouncesProgress extensions statement
    · obtain ⟨groups, h⟩ :=
        Option.isSome_iff_exists.1 ((isSome_captures_progress_iff hne hfeed).2 hannounced)
      obtain ⟨groups', h'⟩ := Option.isSome_iff_exists.1
        ((isSome_captures_progress_iff hne' hfeed).2 ((AnnouncesProgress.congr hsame).2 hannounced))
      obtain ⟨first, second, text, front, x, behind, status, hfirst, hsecond, rfl, hends, hstatus,
        rfl⟩ := exists_of_captures_progress hne hplain hfeed h
      obtain ⟨first', second', text', front', x', behind', status', hfirst', hsecond', hopening,
        hends', hstatus', rfl⟩ := exists_of_captures_progress hne' hplain' hfeed h'
      obtain ⟨rfl, rfl, rfl⟩ := opening_unique hfirst hsecond hfirst' hsecond' hopening
      obtain ⟨rfl, rfl, rfl⟩ := hends.unique hplain (hends'.congr hsame)
      rw [h, h', hstatus.unique hstatus']
    · have hnone : (progressPattern (extensions.map .quoted)).captures? statement = none :=
        Option.not_isSome_iff_eq_none.1 fun h =>
          hannounced ((isSome_captures_progress_iff hne hfeed).1 h)
      have hnone' : (progressPattern (others.map .quoted)).captures? statement = none :=
        Option.not_isSome_iff_eq_none.1 fun h => hannounced
          ((AnnouncesProgress.congr hsame).1 ((isSome_captures_progress_iff hne' hfeed).1 h))
      rw [hnone, hnone']
  show (rules others).findSome? _ = (rules extensions).findSome? _
  simp only [rules, List.findSome?_cons, Rule.reading?, hcaptures]

/-- **Progress is recognized whatever the extensions are.** Let the statement be a single line.
Progress is said of it just if it consists of two words and `file`, with a space behind each, and a
text in which a dot, one of the extensions and a status stand, in this order. So neither the order
of the extensions nor how often they are listed matters for that. If the extensions are plain, it
does not matter for anything that is said: the name of the file is what stands behind the opening,
without a leading `./`, up to the last dot and extension that have a status behind them. -/
theorem progress_recognized (extensions : List Text) (hne : extensions ≠ []) {statement : Text}
    (hfeed : '\n' ∉ statement) (verbose : Bool) (p : Grammar.Position R Unit) :
    ((∃ m ∈ ((grammar extensions : Grammar _ _ ν).turn verbose statement p).said,
        m.isProgress = true) ↔ AnnouncesProgress extensions statement) ∧
    (∀ others, (∀ x, x ∈ others ↔ x ∈ extensions) →
      ((∃ m ∈ ((grammar others : Grammar _ _ ν).turn verbose statement p).said,
          m.isProgress = true) ↔
        ∃ m ∈ ((grammar extensions : Grammar _ _ ν).turn verbose statement p).said,
          m.isProgress = true)) ∧
    (Plain extensions →
      (∀ others, (∀ x, x ∈ others ↔ x ∈ extensions) →
        (grammar others : Grammar _ _ ν).turn verbose statement p
          = (grammar extensions : Grammar _ _ ν).turn verbose statement p) ∧
      (AnnouncesProgress extensions statement →
        ∃ first second text front x behind status, IsWord first ∧ IsWord second ∧
          statement = opening first second text ∧
          EndsNameLast extensions (withoutHere text) front x behind ∧ IsStatus behind status ∧
          ((grammar extensions : Grammar _ _ ν).turn verbose statement p).said
            = [.progress (String.ofList (first ++ ' ' :: (second ++ " file".toList)))
                (String.ofList (front ++ '.' :: x)) (String.ofList status)])) := by
  have hiff {extensions : List Text} (hne : extensions ≠ []) :=
    exists_progress_said_iff (ν := ν) hne hfeed verbose p
  refine ⟨hiff hne, fun others hsame => ?_, fun hplain => ⟨fun others hsame => ?_, fun h => ?_⟩⟩
  · obtain ⟨x, hx⟩ := List.exists_mem_of_ne_nil _ hne
    rw [hiff hne, hiff (List.ne_nil_of_mem ((hsame x).2 hx)), AnnouncesProgress.congr hsame]
  · unfold Grammar.turn Grammar.dispatch
    rw [classify_congr hne hplain hsame hfeed]
    rfl
  · obtain ⟨groups, hgroups⟩ :=
      Option.isSome_iff_exists.1 ((isSome_captures_progress_iff hne hfeed).2 h)
    obtain ⟨first, second, text, front, x, behind, status, hfirst, hsecond, rfl, hends, hstatus,
      rfl⟩ := exists_of_captures_progress hne hplain hfeed hgroups
    exact ⟨first, second, text, front, x, behind, status, hfirst, hsecond, rfl, hends, hstatus,
      said_progress (classify_of_captures h hgroups) verbose p⟩

/-- Two extensions that both end in `ind`, a name with a leading `./` that can end at three dots,
and two statuses. -/
theorem nested_extensions_recognized :
    let extensions := ["x.ind".toList, "ind".toList]
    let statement := "Scanning input file ./a.ind.x.ind (1) (2 (of 3)...".toList
    let p : Grammar.Position (List Line) Unit := (grammar extensions : Grammar _ _ Unit).begin []
    extensions ≠ [] ∧ '\n' ∉ statement ∧ Plain extensions ∧
      AnnouncesProgress extensions statement ∧
      ((grammar extensions : Grammar _ _ Unit).turn false statement p).said
        = [.progress "Scanning input file" "a.ind.x.ind" "of 3"] ∧
      ((grammar extensions.reverse : Grammar _ _ Unit).turn false statement p).said
        = [.progress "Scanning input file" "a.ind.x.ind" "of 3"] := by
  intro extensions statement p
  have hne : extensions ≠ [] := by decide
  have hfeed : '\n' ∉ statement := by decide
  have hplain : Plain extensions := ⟨by decide, by decide, by decide⟩
  have hsaid : ((grammar extensions : Grammar _ _ Unit).turn false statement p).said
      = [.progress "Scanning input file" "a.ind.x.ind" "of 3"] := by
    decide +kernel
  obtain ⟨hiff, -, hplainly⟩ := progress_recognized (ν := Unit) extensions hne hfeed false p
  refine ⟨hne, hfeed, hplain, hiff.1 ⟨_, hsaid ▸ List.mem_singleton_self _, rfl⟩, hsaid, ?_⟩
  rw [(hplainly hplain).1 extensions.reverse fun _ => List.mem_reverse]
  exact hsaid

end Index

end TexTranscript
