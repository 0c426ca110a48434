import TexTranscript.Grammar.SourceReference
import TexTranscript.Proofs.EditorLinks
import TexTranscript.Proofs.Saving
import TexTranscript.Report
import Mathlib.Data.List.Flatten
import Mathlib.Data.List.Induction

/-!
# Paths that lead to the same place

A tool prints `./` in front of a path below its working directory, and a source file is named
without that. The shorter path should still lead to the same file, from wherever it is followed:
parts `.` and repeated slashes lead nowhere, and so it does not matter whether they are there
(`FilePath.SamePlace`). Paths that are the same up to that lead to the same place in every store of
files (`FilePath.SamePlace.locate?_eq`).

To drop a `./` changes no step of a path and nothing about how it ends. But behind the `./` there
may stand another slash, and this one is left in front then: `.//a.tex`, a path below the working
directory, is turned into `/a.tex`. Such a path hides a slash (`FilePath.HidesSlash`). It becomes an
absolute path, which is followed from the root of the file system, whatever directory it is seen
from. All other paths keep their place.

## Main definitions

* `FilePath.steps`, `FilePath.SamePlace` – where a path leads, as far as its parts show.
* `FilePath.HidesSlash` – paths that become absolute.

## Main statements

* `FilePath.SamePlace.locate?_eq` – the same place in a store of files.
* `FilePath.isAbsolute_dropCurrentDir` – which paths are absolute without their `./`.
* `FilePath.samePlace_join_dropCurrentDir` – which paths lead to the same place without them.
* `source_names_keep_place` – the names of source files, and the links that are made of them.
* `doubled_slash_turns_absolute` – a path below the working directory that does not stay there.
-/

namespace TexTranscript

/-- **A separator cuts a text** between the pieces of what stands around it. -/
theorem Text.pieces_append (sep : Char) (s t : Text) :
    pieces sep (s ++ sep :: t) = pieces sep s ++ pieces sep t := by
  induction s with
  | nil => exact if_pos rfl
  | cons c s ih =>
    show pieces sep (c :: (s ++ sep :: t)) = _
    simp only [pieces, ih]
    split
    · rfl
    · obtain ⟨first, others, hpieces⟩ := List.exists_cons_of_ne_nil (pieces_ne_nil sep s)
      rw [hpieces]
      rfl

namespace FilePath

/-! ## Where a path leads -/

/-- **A part that leads nowhere**: nothing between two slashes, or a lone dot. -/
def isHere (part : Text) : Bool := part = [] || part = ['.']

/-- **The steps of a path**: its parts, without a `.` that may be in front. -/
def steps (p : Text) : List Text := (parts p).filter (· ≠ ['.'])

/-- The path ends in a slash or in a lone dot, and can lead to nothing but a directory. -/
def endsHere (p : Text) : Bool := (Text.pieces '/' p).getLast?.any isHere

/-- **Two paths lead to the same place** as far as their parts show: they are equal when all parts
`.` and all repeated slashes are taken out. -/
structure SamePlace (p q : Text) : Prop where
  isAbsolute_eq : isAbsolute p = isAbsolute q
  steps_eq : steps p = steps q
  endsHere_eq : endsHere p = endsHere q

instance (p q : Text) : Decidable (SamePlace p q) :=
  decidable_of_iff (isAbsolute p = isAbsolute q ∧ steps p = steps q ∧ endsHere p = endsHere q)
    ⟨fun ⟨h₁, h₂, h₃⟩ => ⟨h₁, h₂, h₃⟩, fun ⟨h₁, h₂, h₃⟩ => ⟨h₁, h₂, h₃⟩⟩

/-- Parts `..` are steps, which are not followed. -/
example : SamePlace "/a//./b/../c.tex".toList "/./a/b/.././/c.tex".toList ∧
    ¬SamePlace "/a//./b/../c.tex".toList "/a/c.tex".toList := by decide

variable {p q r root : Text}

/-- The steps of a path are the pieces between its slashes that lead anywhere. -/
theorem steps_eq_filter (p : Text) : steps p = (Text.pieces '/' p).filter (!isHere ·) := by
  obtain ⟨first, others, hpieces⟩ := List.exists_cons_of_ne_nil (Text.pieces_ne_nil '/' p)
  unfold steps parts
  rw [hpieces]
  have hfirst : ([first].filter (· ≠ [])).filter (· ≠ ['.']) = [first].filter (!isHere ·) := by
    rw [List.filter_filter]
    refine List.filter_congr fun part _ => ?_
    by_cases hdot : part = ['.'] <;> simp [isHere, hdot]
  have hothers : (others.filter fun part => part ≠ [] ∧ part ≠ ['.']).filter (· ≠ ['.'])
      = others.filter (!isHere ·) := by
    rw [List.filter_filter]
    refine List.filter_congr fun part _ => ?_
    by_cases hdot : part = ['.'] <;> simp [isHere, hdot]
  show ([first].filter (· ≠ []) ++ others.filter fun part => part ≠ [] ∧ part ≠ ['.']).filter
    (· ≠ ['.']) = _
  rw [List.filter_append, hfirst, hothers, ← List.filter_append]
  rfl

/-- **A path is followed up to a slash**, and on from there. -/
theorem steps_append (p q : Text) : steps (p ++ '/' :: q) = steps p ++ steps q := by
  simp only [steps_eq_filter, Text.pieces_append, List.filter_append]

/-- How a path ends shows behind its last slash. -/
theorem endsHere_append (p q : Text) : endsHere (p ++ '/' :: q) = endsHere q := by
  unfold endsHere
  rw [Text.pieces_append, List.getLast?_append_of_ne_nil _ (Text.pieces_ne_nil '/' q)]

/-- A path without steps can lead to nothing but a directory. -/
theorem endsHere_of_steps_eq_nil (h : steps p = []) : endsHere p = true := by
  have hne : Text.pieces '/' p ≠ [] := Text.pieces_ne_nil '/' p
  rw [steps_eq_filter, List.filter_eq_nil_iff] at h
  have hlast := h _ (List.getLast_mem hne)
  unfold endsHere
  rw [List.getLast?_eq_some_getLast hne]
  simpa using hlast

/-- **The root of the file system** is where an absolute path without steps leads. -/
theorem samePlace_root_iff : SamePlace p ['/'] ↔ isAbsolute p = true ∧ steps p = [] :=
  ⟨fun h => ⟨h.isAbsolute_eq, h.steps_eq⟩,
    fun ⟨habsolute, hsteps⟩ => ⟨habsolute, hsteps, endsHere_of_steps_eq_nil hsteps⟩⟩

/-! ## Paths that are seen from a directory -/

/-- A relative path stands behind a slash when it is seen from a directory. -/
theorem exists_join_eq (h : isAbsolute p = false) (hroot : root ≠ []) :
    ∃ r, join root p = r ++ '/' :: p ∧ steps r = steps root ∧
      isAbsolute (r ++ '/' :: p) = isAbsolute root := by
  unfold join
  rw [if_neg (by rw [h]; exact Bool.false_ne_true)]
  by_cases hlast : root.getLast? = some '/'
  · obtain ⟨r, rfl⟩ := List.getLast?_eq_some_iff.1 hlast
    refine ⟨r, ?_, ?_, ?_⟩
    · rw [if_pos (.inr hlast), List.append_assoc]
      rfl
    · rw [steps_append]
      exact (List.append_nil _).symm
    · cases r with
      | nil => rfl
      | cons c r => rfl
  · refine ⟨root, if_neg ?_, rfl, ?_⟩
    · rintro (h | h)
      · exact hroot h
      · exact hlast h
    · obtain ⟨c, r, rfl⟩ := List.exists_cons_of_ne_nil hroot
      rfl

theorem join_of_isAbsolute (h : isAbsolute p = true) : join root p = p := if_pos h

theorem join_nil (p : Text) : join [] p = p := by
  unfold join
  split
  · rfl
  · exact if_pos (.inl rfl)

/-- **A relative path is absolute** seen from a directory just if that is. -/
theorem isAbsolute_join (h : isAbsolute p = false) :
    isAbsolute (join root p) = isAbsolute root := by
  by_cases hroot : root = []
  · subst hroot
    rw [join_nil]
    exact h
  · obtain ⟨r, hjoin, -, habsolute⟩ := exists_join_eq h hroot
    rw [hjoin, habsolute]

/-- A relative path seen from a directory is reached by the steps of both. -/
theorem steps_join (h : isAbsolute p = false) : steps (join root p) = steps root ++ steps p := by
  by_cases hroot : root = []
  · subst hroot
    rw [join_nil]
    rfl
  · obtain ⟨r, hjoin, hsteps, -⟩ := exists_join_eq h hroot
    rw [hjoin, steps_append, hsteps]

/-- A path ends as it does, from whichever directory it is seen. -/
theorem endsHere_join (root p : Text) : endsHere (join root p) = endsHere p := by
  cases h : isAbsolute p with
  | true => rw [join_of_isAbsolute h]
  | false =>
    by_cases hroot : root = []
    · rw [hroot, join_nil]
    · obtain ⟨r, hjoin, -, -⟩ := exists_join_eq h hroot
      rw [hjoin, endsHere_append]

/-- Paths that lead to the same place do so from every directory. -/
theorem SamePlace.join (h : SamePlace p q) (root : Text) :
    SamePlace (join root p) (join root q) := by
  have hends : endsHere (FilePath.join root p) = endsHere (FilePath.join root q) := by
    rw [endsHere_join, endsHere_join, h.endsHere_eq]
  cases hp : isAbsolute p with
  | true =>
    rw [join_of_isAbsolute hp, join_of_isAbsolute (h.isAbsolute_eq ▸ hp)]
    exact h
  | false =>
    have hq : isAbsolute q = false := h.isAbsolute_eq ▸ hp
    refine ⟨?_, ?_, hends⟩
    · rw [isAbsolute_join hp, isAbsolute_join hq]
    · rw [steps_join hp, steps_join hq, h.steps_eq]

/-! ## Leading `./` -/

/-- As many `./` as are wanted. -/
def currentDirs (n : Nat) : Text := (List.replicate n "./".toList).flatten

/-- **A path hides a slash** behind the `./` in front of it, of which there is one at least. -/
def HidesSlash (p : Text) : Prop := ∃ n rest, p = currentDirs (n + 1) ++ '/' :: rest

/-- One more `./` comes in front. -/
theorem currentDirs_succ_append (n : Nat) (p : Text) :
    currentDirs (n + 1) ++ p = '.' :: '/' :: (currentDirs n ++ p) := rfl

/-- **Nothing but `./` is dropped**, and this in front. -/
theorem exists_eq_append_dropCurrentDir (p : Text) :
    ∃ n, p = currentDirs n ++ dropCurrentDir p := by
  fun_induction dropCurrentDir p with
  | case1 p ih =>
    obtain ⟨n, hp⟩ := ih
    refine ⟨n + 1, ?_⟩
    rw [currentDirs_succ_append, ← hp]
  | case2 p h => exact ⟨0, rfl⟩

/-- However often `./` stands in front, it is dropped. -/
theorem dropCurrentDir_append (n : Nat) (p : Text) :
    dropCurrentDir (currentDirs n ++ p) = dropCurrentDir p := by
  induction n with
  | zero => rfl
  | succ n ih =>
    rw [currentDirs_succ_append, dropCurrentDir]
    exact ih

/-- An absolute path has no `./` in front. -/
theorem dropCurrentDir_of_isAbsolute (h : isAbsolute p = true) : dropCurrentDir p = p := by
  obtain ⟨rest, rfl⟩ := List.head?_eq_some_iff.1 (beq_iff_eq.1 h)
  rfl

/-- A path that hides a slash is relative. -/
theorem HidesSlash.isAbsolute_eq_false (h : HidesSlash p) : isAbsolute p = false := by
  obtain ⟨n, rest, rfl⟩ := h
  rfl

/-- **A path becomes absolute** without its `./` just if it is, or hides a slash. What is left
begins with a slash just if one stood behind the `./`. -/
theorem isAbsolute_dropCurrentDir :
    isAbsolute (dropCurrentDir p) = true ↔ isAbsolute p = true ∨ HidesSlash p := by
  constructor
  · intro h
    obtain ⟨n, hp⟩ := exists_eq_append_dropCurrentDir p
    cases n with
    | zero =>
      rw [show p = dropCurrentDir p from hp]
      exact .inl h
    | succ n =>
      obtain ⟨rest, hrest⟩ := List.head?_eq_some_iff.1 (beq_iff_eq.1 h)
      rw [hrest] at hp
      exact .inr ⟨n, rest, hp⟩
  · rintro (h | ⟨n, rest, rfl⟩)
    · rw [dropCurrentDir_of_isAbsolute h]
      exact h
    · rw [dropCurrentDir_append]
      rfl

instance (p : Text) : Decidable (HidesSlash p) :=
  decidable_of_iff (isAbsolute (dropCurrentDir p) = true ∧ isAbsolute p = false) <| by
    rw [isAbsolute_dropCurrentDir]
    constructor
    · rintro ⟨h | h, hp⟩
      · exact absurd (h.symm.trans hp) Bool.false_ne_true.symm
      · exact h
    · exact fun h => ⟨.inr h, h.isAbsolute_eq_false⟩

/-- **No step is lost** with `./`. -/
theorem steps_dropCurrentDir (p : Text) : steps (dropCurrentDir p) = steps p := by
  fun_induction dropCurrentDir p with
  | case1 p ih =>
    rw [ih]
    exact (steps_append ['.'] p).symm
  | case2 p h => rfl

/-- A path ends as it did without the `./` in front. -/
theorem endsHere_dropCurrentDir (p : Text) : endsHere (dropCurrentDir p) = endsHere p := by
  fun_induction dropCurrentDir p with
  | case1 p ih =>
    rw [ih]
    exact (endsHere_append ['.'] p).symm
  | case2 p h => rfl

/-- **A path keeps its place** without its `./` unless it hides a slash. -/
theorem samePlace_dropCurrentDir (h : ¬HidesSlash p) : SamePlace (dropCurrentDir p) p := by
  refine ⟨?_, steps_dropCurrentDir p, endsHere_dropCurrentDir p⟩
  rw [Bool.eq_iff_iff, isAbsolute_dropCurrentDir]
  exact or_iff_left h

/-- **A path that hides a slash loses the directory** it is seen from. Only if this is the root of
the file system, it makes no difference. -/
theorem samePlace_join_of_hidesSlash (h : HidesSlash p) :
    SamePlace (join root (dropCurrentDir p)) (join root p) ↔ SamePlace root ['/'] := by
  have habsolute : isAbsolute (dropCurrentDir p) = true := isAbsolute_dropCurrentDir.2 (.inr h)
  have hrelative : isAbsolute p = false := h.isAbsolute_eq_false
  rw [join_of_isAbsolute habsolute, samePlace_root_iff]
  constructor
  · intro hsame
    refine ⟨?_, ?_⟩
    · rw [← isAbsolute_join hrelative, ← hsame.isAbsolute_eq, habsolute]
    · have hsteps := hsame.steps_eq
      rw [steps_dropCurrentDir, steps_join hrelative] at hsteps
      exact List.self_eq_append_left.1 hsteps
  · rintro ⟨hroot, hnone⟩
    refine ⟨?_, ?_, ?_⟩
    · rw [habsolute, isAbsolute_join hrelative, hroot]
    · rw [steps_dropCurrentDir, steps_join hrelative, hnone, List.nil_append]
    · rw [endsHere_dropCurrentDir, endsHere_join]

/-- **Seen from a directory, a path leads to the same place** without its `./` just if it hides no
slash, or the directory is the root of the file system. -/
theorem samePlace_join_dropCurrentDir :
    SamePlace (join root (dropCurrentDir p)) (join root p) ↔
      ¬HidesSlash p ∨ SamePlace root ['/'] := by
  by_cases h : HidesSlash p
  · rw [samePlace_join_of_hidesSlash h]
    exact (or_iff_right (not_not_intro h)).symm
  · exact iff_of_true ((samePlace_dropCurrentDir h).join root) (.inl h)

/-! ## The same place in a store of files -/

section

variable {s : FileStore} {place : Place} {part : Text}

/-- Nothing can be followed from a place that is no directory. -/
theorem step?_eq_none (h : s.isDirectory place = false) : s.step? place part = none := by
  unfold FileStore.step?
  exact if_pos (.inl (by rw [h]; rfl))

/-- A part that leads nowhere is followed from every directory, and leads back to it. -/
theorem step?_of_isHere (hpart : isHere part = true) (h : s.isDirectory place = true) :
    s.step? place part = some place := by
  have hcases : part = [] ∨ part = ['.'] := by simpa [isHere] using hpart
  unfold FileStore.step?
  rw [h]
  rcases hcases with rfl | rfl <;> rfl

/-- What is followed from a place is the same if the place first has to pass a test that all
directories pass. -/
theorem bind_step?_filter {test : Place → Bool}
    (htest : ∀ place, s.isDirectory place = true → test place = true) (place? : Option Place) :
    (place?.filter test).bind (s.step? · part) = place?.bind (s.step? · part) := by
  cases place? with
  | none => rfl
  | some place =>
    cases hplace : test place with
    | true => rw [Option.filter_some_pos hplace]
    | false =>
      have hnone : s.isDirectory place = false :=
        Bool.eq_false_iff.2 fun h => Bool.false_ne_true (hplace.symm.trans (htest place h))
      rw [Option.filter_some_neg hplace]
      exact (step?_eq_none hnone).symm

/-- **Only the steps count**, except that there must be a directory where a path ends in a slash or
in a lone dot. A piece that leads nowhere only asks for a directory, and the next piece asks for
that as well. -/
theorem foldlM_step? (s : FileStore) (place : Place) (pieces : List Text) :
    pieces.foldlM s.step? place
      = ((pieces.filter (!isHere ·)).foldlM s.step? place).filter
          fun q => !pieces.getLast?.any isHere || s.isDirectory q := by
  -- from behind, for it is the last piece that may want a directory
  induction pieces using List.reverseRecOn with
  | nil => rfl
  | append_singleton pieces piece ih =>
    have hfront : (pieces ++ [piece]).foldlM s.step? place
        = ((pieces.filter (!isHere ·)).foldlM s.step? place).bind (s.step? · piece) := by
      rw [List.foldlM_append, ih]
      simp only [List.foldlM_cons, List.foldlM_nil, bind_pure]
      exact bind_step?_filter (fun q hq => by rw [hq, Bool.or_true]) _
    rw [hfront, List.getLast?_concat, List.filter_append, List.foldlM_append]
    generalize (pieces.filter (!isHere ·)).foldlM s.step? place = reached
    rw [List.filter_singleton]
    show reached.bind _ = Option.filter (fun q => !isHere piece || s.isDirectory q) _
    cases hpiece : isHere piece with
    | false =>
      show _ = Option.filter (fun _ => true) (reached.bind fun q => [piece].foldlM s.step? q)
      simp only [List.foldlM_cons, List.foldlM_nil, bind_pure]
      cases reached.bind (s.step? · piece) with
      | none => rfl
      | some q => rfl
    | true =>
      cases reached with
      | none => rfl
      | some q =>
        show s.step? q piece = Option.filter s.isDirectory (some q)
        cases hq : s.isDirectory q with
        | false => rw [step?_eq_none hq, Option.filter_some_neg hq]
        | true => rw [step?_of_isHere hpiece hq, Option.filter_some_pos hq]

/-- **Paths that lead to the same place** do so in every store of files, if something can be done
with both of them. -/
theorem SamePlace.locate?_eq (h : SamePlace p q) (s : FileStore) (hp : p ≠ []) (hq : q ≠ [])
    (husable : FileStore.isUsable p = true) (husable' : FileStore.isUsable q = true) :
    s.locate? p = s.locate? q := by
  have hends : (Text.pieces '/' p).getLast?.any isHere = (Text.pieces '/' q).getLast?.any isHere :=
    h.endsHere_eq
  have hstart : s.start p = s.start q := by
    unfold FileStore.start
    rw [h.isAbsolute_eq]
  have hneg {path : Text} (hne : path ≠ []) (hpath : FileStore.isUsable path = true) :
      ¬(path = [] ∨ (!FileStore.isUsable path) = true) := by
    rw [hpath]
    simpa using hne
  unfold FileStore.locate?
  rw [if_neg (hneg hp husable), if_neg (hneg hq husable'), hstart,
    foldlM_step? s _ (Text.pieces '/' p), foldlM_step? s _ (Text.pieces '/' q),
    ← steps_eq_filter, ← steps_eq_filter, h.steps_eq, hends]

/-- What is left of a path can be used if the path can be. -/
theorem isUsable_of_sublist (h : p.Sublist q) (hq : FileStore.isUsable q = true) :
    FileStore.isUsable p = true := by
  obtain ⟨hnull, hlength⟩ := Bool.and_eq_true_iff.1 hq
  have hnone : '\x00' ∉ q := by simpa using hnull
  refine Bool.and_eq_true_iff.2 ⟨?_, decide_eq_true ?_⟩
  · simpa using fun hc => hnone (h.subset hc)
  · exact (h.flatMap String.utf8EncodeChar).length_le.trans (of_decide_eq_true hlength)

/-- What is left of a path is left of it when it is seen from a directory. -/
theorem join_sublist_join (habsolute : isAbsolute p = isAbsolute q) (h : p.Sublist q) :
    (join root p).Sublist (join root q) := by
  unfold join
  rw [habsolute]
  split
  · exact h
  · split
    · exact h.append_left root
    · exact (h.cons_cons '/').append_left root

end

end FilePath

/-! ## Names of source files -/

open FilePath

/-- **The name of a source file leads where the printed path does**, unless that hides a slash. The
name is the printed path, without the white space around it, less every `./` in front. It is
absolute just if this path is, or hides a slash. Seen from a directory, whichever that is, it leads
to the same place as the path just if no slash is hidden, or if the directory is the root of the
file system. Where no slash is hidden, the same is found there in every store of files, as long as
something can be done with the longer of the two. And this is how a linker with a root sees the
name: the link is to the path that is seen from there. -/
theorem source_names_keep_place (printed : Text) :
    let path := Text.trim printed
    let name := sourceName printed
    (∃ n, path = currentDirs n ++ name) ∧ Text.startsWith "./".toList name = false ∧
      (isAbsolute name = true ↔ isAbsolute path = true ∨ HidesSlash path) ∧
      (∀ root, SamePlace (join root name) (join root path) ↔
        ¬HidesSlash path ∨ SamePlace root ['/']) ∧
      (∀ root (s : FileStore), ¬HidesSlash path → join root name ≠ [] →
        FileStore.isUsable (join root path) = true →
          s.locate? (join root name) = s.locate? (join root path)) ∧
      ∀ (l : Linker) root line, l.IsMade → l.root = some root →
        Url.queryOf? (l.link name line) = some (Linker.query (join root name) line) := by
  intro path name
  refine ⟨exists_eq_append_dropCurrentDir path, startsWith_dropCurrentDir path,
    isAbsolute_dropCurrentDir, fun root => samePlace_join_dropCurrentDir,
    fun root s hplain hne husable => ?_, fun l root line hmade hroot => ?_⟩
  · have hsame : SamePlace name path := samePlace_dropCurrentDir hplain
    obtain ⟨n, hpath⟩ := exists_eq_append_dropCurrentDir path
    have hrest : name.Sublist path := hpath ▸ List.sublist_append_right _ _
    have hjoin : (join root name).Sublist (join root path) :=
      join_sublist_join hsame.isAbsolute_eq hrest
    have hne' : join root path ≠ [] := fun hnil => hne (List.sublist_nil.1 (hnil ▸ hjoin))
    exact (hsame.join root).locate?_eq s hne hne' (isUsable_of_sublist hjoin husable) husable
  · have hresolve : l.resolve name = join root name := by
      unfold Linker.resolve
      rw [hroot]
    rw [Linker.queryOf?_link hmade, hresolve]

/-- The name of a file in a directory below the root of a linker. -/
theorem source_names_keep_place_below :
    let path := "././chapters//./a.tex".toList
    let home := "/home/ada".toList
    let l : Linker := ⟨⟨"mvim".toList, some "open".toList, ['/'], none, none⟩, some home⟩
    let s : FileStore := { entry := fun _ => some .directory }
    Text.trim path = path ∧ ¬HidesSlash path ∧
      isAbsolute (sourceName path) = false ∧
      SamePlace (join home (sourceName path)) (join home path) ∧
      s.locate? (join home (sourceName path)) = s.locate? (join home path) ∧
      l.IsMade ∧ Url.queryOf? (l.link (sourceName path) 3)
        = some (Linker.query "/home/ada/chapters//./a.tex".toList 3) := by
  intro path home l s
  have hplain : ¬HidesSlash path := by decide
  have hmade : l.IsMade := .withRoot _ (@Linker.IsMade.ofScheme "mvim".toList _ rfl)
  obtain ⟨-, -, habsolute, hsame, hlocate, hlink⟩ := source_names_keep_place path
  refine ⟨by decide, hplain, ?_, (hsame home).2 (.inl hplain),
    hlocate home s hplain (by decide) (by decide +kernel), hmade, hlink l home 3 hmade rfl⟩
  rw [Bool.eq_false_iff, ne_eq, habsolute]
  exact not_or_intro (by decide) hplain

/-- **A doubled slash can turn a path absolute.** A file below the working directory is named as if
it were in the root of the file system: an error in it is marked there, and a link to it opens what
is there, whatever directory the linker has for its root. -/
theorem doubled_slash_turns_absolute :
    let path := ".//a.tex".toList
    let home := "/home/ada".toList
    let source := Line.ofBytes (Utf8.encode ".//a.tex:3: Undefined control sequence.\n".toList)
    Text.trim path = path ∧ isAbsolute path = false ∧ isAbsolute (sourceName path) = true ∧
      ¬SamePlace (join home (sourceName path)) (join home path) ∧
      Url.queryOf? ((Linker.standard.withRoot home).link (sourceName path) 3)
        = some "url=file:///a.tex&line=3".toList ∧
      (parseTranscript .latex "main.tex".toList false source).marks
        = [⟨"/a.tex", 3, .error, "Undefined control sequence."⟩] := by
  decide +kernel

end TexTranscript
