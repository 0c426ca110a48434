import TexTranscript.FileStore

/-!
# Saving again

To save a file is to make the directories above it, where they are missing, and to write
it. The directories are there afterwards, and they are where the path leads through. So
to save the file once more does nothing but write it, and what counts in the end is what
was saved last (`FileStore.save_save`).

Of all that there was before, only the file itself may be another afterwards. What is read
of a file that is elsewhere is the same (`FileStore.opened?_save`). Where a path leads to
can depend on directories that are only made when something is saved, so it is the place
where the file will be that has to be another (`FileStore.savedAt?`).

## Main definitions

* `FileStore.Extends` – a store has whatever another one has.
* `FileStore.savedAt?` – the place of a file that is saved.

## Main statements

* `FileStore.content?_save` – what is saved is found.
* `FileStore.save_save` – a file that is saved twice.
* `FileStore.opened?_save` – what is read of another file.
-/

namespace TexTranscript

namespace FileStore

/-- **A store extends another**: whatever is found there is found in it too, and the program is in
the same directory. -/
structure Extends (s t : FileStore) : Prop where
  directory_eq : t.directory = s.directory
  found : ∀ p n, s.find? p = some n → t.find? p = some n

/-- The directories of a store are directories of the other, and the program is in the same one. -/
structure KeepsDirectories (s t : FileStore) : Prop where
  directory_eq : t.directory = s.directory
  kept : ∀ p, s.isDirectory p = true → t.isDirectory p = true

variable {s t u : FileStore} {p q : Place} {path : Text} {bytes bytes' : List UInt8}

theorem isDirectory_iff : s.isDirectory p = true ↔ s.find? p = some .directory := decide_eq_true_iff

/-- The root is a directory. -/
theorem ne_nil_of_isDirectory (h : s.isDirectory p = false) : p ≠ [] := by
  rintro rfl
  exact Bool.false_ne_true (h.symm.trans rfl)

theorem Extends.refl (s : FileStore) : s.Extends s := ⟨rfl, fun _ _ h => h⟩

theorem Extends.trans (h : s.Extends t) (h' : t.Extends u) : s.Extends u :=
  ⟨h'.directory_eq.trans h.directory_eq, fun p n hp => h'.found p n (h.found p n hp)⟩

/-- A store that extends another one keeps its directories. -/
theorem Extends.keepsDirectories (h : s.Extends t) : s.KeepsDirectories t :=
  ⟨h.directory_eq, fun p hp => isDirectory_iff.2 (h.found p _ (isDirectory_iff.1 hp))⟩

/-- What is put where nothing is takes nothing away. -/
theorem extends_put (h : s.find? p = none) (n : Node) : s.Extends (s.put p n) := by
  refine ⟨directory_put s p n, fun q m hq => ?_⟩
  have hne : q ≠ p := by
    rintro rfl
    exact Option.some_ne_none m (hq.symm.trans h)
  rw [find?_put_of_ne hne]
  exact hq

/-- A file does not displace a directory if it is put where none is. -/
theorem keepsDirectories_put (h : s.isDirectory p = false) :
    s.KeepsDirectories (s.put p (.file bytes)) := by
  refine ⟨directory_put s p _, fun q hq => ?_⟩
  have hne : q ≠ p := by
    rintro rfl
    exact Bool.false_ne_true (h.symm.trans hq)
  rw [isDirectory_iff, find?_put_of_ne hne]
  exact isDirectory_iff.1 hq

/-- What is put where something was put replaces it. -/
theorem put_put (s : FileStore) (p : Place) (n n' : Node) : (s.put p n).put p n' = s.put p n' := by
  unfold put
  congr 1
  funext q
  by_cases hq : q = p
  · rw [if_pos hq, if_pos hq]
  · rw [if_neg hq, if_neg hq]
    exact if_neg hq

theorem KeepsDirectories.trans (h : s.KeepsDirectories t) (h' : t.KeepsDirectories u) :
    s.KeepsDirectories u :=
  ⟨h'.directory_eq.trans h.directory_eq, fun p hp => h'.kept p (h.kept p hp)⟩

/-! ## Where paths lead to -/

/-- A part of a path is only followed from a directory. -/
theorem isDirectory_of_step? {part : Text} (h : s.step? p part = some q) :
    s.isDirectory p = true := by
  cases hp : s.isDirectory p with
  | true => rfl
  | false =>
    unfold step? at h
    rw [if_pos (.inl (by rw [hp]; rfl))] at h
    exact nomatch h

/-- **Paths lead where they did** as long as the directories stay. -/
theorem KeepsDirectories.step? (h : s.KeepsDirectories t) {part : Text}
    (hp : s.step? p part = some q) : t.step? p part = some q := by
  have hs := isDirectory_of_step? hp
  have ht := h.kept p hs
  unfold FileStore.step? at hp ⊢
  rw [hs] at hp
  rw [ht]
  exact hp

/-- A path begins at the same place as long as the working directory is the same. -/
theorem KeepsDirectories.start_eq (h : s.KeepsDirectories t) (path : Text) :
    t.start path = s.start path := by
  unfold start
  rw [h.directory_eq]

/-- **A path leads to the same place** as long as the directories stay. -/
theorem KeepsDirectories.locate? (h : s.KeepsDirectories t) (hp : s.locate? path = some p) :
    t.locate? path = some p := by
  have hfold (q : Place) (parts : List Text) (hq : parts.foldlM s.step? q = some p) :
      parts.foldlM t.step? q = some p := by
    induction parts generalizing q with
    | nil => exact hq
    | cons part parts ih =>
      obtain ⟨r, hr, hrest⟩ := Option.bind_eq_some_iff.1 hq
      exact Option.bind_eq_some_iff.2 ⟨r, h.step? hr, ih r hrest⟩
  unfold FileStore.locate? at hp ⊢
  split at hp
  · exact nomatch hp
  · next husable =>
    rw [if_neg husable, h.start_eq]
    exact hfold _ _ hp

/-! ## Directories that are made -/

/-- **To make a way takes nothing away.** -/
theorem extends_makeWay (s : FileStore) (p : Place) (parts : List Text) :
    s.Extends (s.makeWay p parts).1 := by
  induction parts generalizing s p with
  | nil => exact .refl s
  | cons part parts ih =>
    unfold makeWay
    cases s.step? p part with
    | none => exact .refl s
    | some q =>
      dsimp only
      split
      · exact ih s q
      · exact .refl s
      · next hnone => exact (extends_put hnone .directory).trans (ih _ q)

/-- A way that was made is there, and whoever has its directories need not make it. -/
theorem makeWay_of_keepsDirectories {parts : List Text} {r : Place}
    (h : s.makeWay p parts = (t, some r)) (hu : t.KeepsDirectories u) :
    u.makeWay p parts = (u, some r) := by
  induction parts generalizing s p with
  | nil =>
    obtain ⟨rfl, hr⟩ := Prod.mk.inj h
    rw [← hr]
    rfl
  | cons part parts ih =>
    unfold makeWay at h
    cases hstep : s.step? p part with
    | none =>
      rw [hstep] at h
      exact absurd (congrArg Prod.snd h) (Option.some_ne_none r).symm
    | some q =>
      rw [hstep] at h
      dsimp only at h
      -- it is enough to know that the next place is a directory in the end
      have onward {s' : FileStore} (hs : s.Extends s') (hq : s'.find? q = some .directory)
          (h' : s'.makeWay q parts = (t, some r)) : u.makeWay p (part :: parts) = (u, some r) := by
        have hst : s'.Extends t := by
          have he := extends_makeWay s' q parts
          rwa [h'] at he
        have hq' : u.find? q = some .directory :=
          isDirectory_iff.1 (hu.kept q (isDirectory_iff.2 (hst.found q _ hq)))
        unfold makeWay
        rw [((hs.trans hst).keepsDirectories.trans hu).step? hstep]
        dsimp only
        rw [hq']
        exact ih h'
      split at h
      · next hq => exact onward (.refl s) hq h
      · exact absurd (congrArg Prod.snd h) (Option.some_ne_none r).symm
      · next hnone =>
        have hne : q ≠ [] := by
          rintro rfl
          exact Option.some_ne_none _ hnone
        exact onward (extends_put hnone .directory) (find?_put_self hne) h

/-- **To make a way again** does nothing, whether it could be made or not. The induction is on the
parts of the way: each is there already, or it could not be made. -/
theorem makeWay_makeWay (s : FileStore) (p : Place) (parts : List Text) :
    (s.makeWay p parts).1.makeWay p parts = s.makeWay p parts := by
  induction parts generalizing s p with
  | nil => rfl
  | cons part parts ih =>
    -- once the first part is there, the way goes on from it as it did before
    have onward {s' : FileStore} {q : Place} (hs : s.Extends s') (hstep : s.step? p part = some q)
        (hq : s'.find? q = some .directory) :
        (s'.makeWay q parts).1.makeWay p (part :: parts) = s'.makeWay q parts := by
      have hst := extends_makeWay s' q parts
      rw [makeWay, (hs.trans hst).keepsDirectories.step? hstep]
      dsimp only
      rw [hst.found q _ hq]
      exact ih s' q
    cases hstep : s.step? p part with
    | none =>
      have hway : s.makeWay p (part :: parts) = (s, none) := by
        rw [makeWay, hstep]
      rw [hway]
      exact hway
    | some q =>
      cases hq : s.find? q with
      | none =>
        have hway : s.makeWay p (part :: parts) = (s.put q .directory).makeWay q parts := by
          rw [makeWay, hstep]
          dsimp only
          rw [hq]
        have hne : q ≠ [] := by
          rintro rfl
          exact Option.some_ne_none _ hq
        rw [hway]
        exact onward (extends_put hq .directory) hstep (find?_put_self hne)
      | some n =>
        cases n with
        | directory =>
          have hway : s.makeWay p (part :: parts) = s.makeWay q parts := by
            rw [makeWay, hstep]
            dsimp only
            rw [hq]
          rw [hway]
          exact onward (.refl s) hstep hq
        | file content =>
          have hway : s.makeWay p (part :: parts) = (s, none) := by
            rw [makeWay, hstep]
            dsimp only
            rw [hq]
          rw [hway]
          exact hway

/-- The store after the directories above a file were made. -/
def readied (s : FileStore) (path : Text) : FileStore := (s.makeDirectory (FilePath.above path)).1

/-- To make the directories above a file takes nothing away. -/
theorem extends_readied (s : FileStore) (path : Text) : s.Extends (s.readied path) := by
  unfold readied makeDirectory
  split
  · exact extends_makeWay s _ _
  · exact .refl s

/-- To make the directories above a file again does nothing. -/
theorem makeDirectory_readied (s : FileStore) (path : Text) :
    (s.readied path).makeDirectory (FilePath.above path)
      = s.makeDirectory (FilePath.above path) := by
  unfold readied makeDirectory
  by_cases h : isUsable (FilePath.above path)
  · rw [if_pos h, if_pos h, (extends_makeWay s _ _).keepsDirectories.start_eq]
    exact makeWay_makeWay ..
  · rw [if_neg h, if_neg h]

/-- A directory that was made is there, and whoever keeps it need not make it. -/
theorem makeDirectory_of_keepsDirectories {r : Place}
    (h : s.makeDirectory path = (t, some r)) (hu : t.KeepsDirectories u) :
    u.makeDirectory path = (u, some r) := by
  unfold makeDirectory at h ⊢
  split at h
  · next husable =>
    have hst : s.Extends t := by
      have he := extends_makeWay s (s.start path) (FilePath.parts path)
      rwa [h] at he
    rw [if_pos husable, (hst.keepsDirectories.trans hu).start_eq]
    exact makeWay_of_keepsDirectories h hu
  · exact absurd (congrArg Prod.snd h) (Option.some_ne_none r).symm

/-! ## Files that are saved -/

/-- **The place where a file is saved**, if it can be saved. -/
def savedAt? (s : FileStore) (path : Text) : Option Place :=
  match s.makeDirectory (FilePath.above path) with
  | (_, none) => none
  | (t, some _) => (t.locate? path).filter (!t.isDirectory ·)

/-- **What saving does**: it makes the directories, and writes the file to its place. -/
theorem save_eq (s : FileStore) (path : Text) (bytes : List UInt8) :
    s.save path bytes = match s.savedAt? path with
      | none => (s.readied path, false)
      | some p => ((s.readied path).put p (.file bytes), true) := by
  unfold save savedAt? readied
  rcases s.makeDirectory (FilePath.above path) with ⟨t, _ | r⟩
  · rfl
  · dsimp only
    unfold write?
    cases t.locate? path with
    | none => rfl
    | some p =>
      rw [Option.filter_some]
      cases h : t.isDirectory p with
      | false => simp [h]
      | true => simp [h]

/-- Whether a file can be saved does not depend on what is written into it. -/
theorem snd_save (s : FileStore) (path : Text) (bytes : List UInt8) :
    (s.save path bytes).2 = (s.savedAt? path).isSome := by
  rw [save_eq]
  cases s.savedAt? path with
  | none => rfl
  | some p => rfl

/-- Where a file can be saved, its path leads to a place that is no directory, below directories
that were made. -/
theorem of_savedAt? (h : s.savedAt? path = some p) :
    (s.readied path).locate? path = some p ∧ (s.readied path).isDirectory p = false ∧
      ∃ r, s.makeDirectory (FilePath.above path) = (s.readied path, some r) := by
  unfold savedAt? at h
  unfold readied
  rcases hway : s.makeDirectory (FilePath.above path) with ⟨t, _ | r⟩
  · rw [hway] at h
    exact nomatch h
  · rw [hway] at h
    obtain ⟨hp, hfile⟩ := Option.filter_eq_some_iff.1 h
    exact ⟨hp, by simpa using hfile, r, rfl⟩

/-- **A file that is saved twice** has been saved once, with what it has in the end. Once its
directories are made, a file is only written, and what is written last is what it has. -/
theorem save_save (s : FileStore) (path : Text) (bytes bytes' : List UInt8) :
    (s.save path bytes).1.save path bytes' = s.save path bytes' := by
  rw [save_eq s path bytes, save_eq s path bytes']
  cases hp : s.savedAt? path with
  | none =>
    have hready : (s.readied path).readied path = s.readied path :=
      congrArg Prod.fst (makeDirectory_readied s path)
    have hsaved : (s.readied path).savedAt? path = none := by
      unfold savedAt? at hp ⊢
      rwa [makeDirectory_readied]
    dsimp only
    rw [save_eq, hsaved, hready]
  | some p =>
    obtain ⟨hlocate, hfile, r, hway⟩ := of_savedAt? hp
    -- the directories are kept, and the file is no directory
    have hkeeps : (s.readied path).KeepsDirectories ((s.readied path).put p (.file bytes)) :=
      keepsDirectories_put hfile
    have hne : p ≠ [] := ne_nil_of_isDirectory hfile
    have hway' := makeDirectory_of_keepsDirectories hway hkeeps
    have hready : ((s.readied path).put p (.file bytes)).readied path
        = (s.readied path).put p (.file bytes) := congrArg Prod.fst hway'
    have hsaved : ((s.readied path).put p (.file bytes)).savedAt? path = some p := by
      unfold savedAt?
      rw [hway']
      dsimp only
      rw [hkeeps.locate? hlocate, Option.filter_some]
      have hnot : ((s.readied path).put p (.file bytes)).isDirectory p = false := by
        unfold isDirectory
        rw [find?_put_self hne]
        rfl
      rw [hnot]
      rfl
    dsimp only
    rw [save_eq, hsaved, hready]
    dsimp only
    rw [put_put]

/-- What can be read was found at some place. -/
theorem opened?_eq_some_iff : s.opened? path = some bytes ↔
    ∃ p n, s.locate? path = some p ∧ s.find? p = some n ∧
      (n = .file bytes ∨ (n = .directory ∧ bytes = [])) := by
  unfold opened?
  constructor
  · intro h
    split at h
    · next content hn =>
      obtain ⟨p, hp, hn⟩ := Option.bind_eq_some_iff.1 hn
      obtain rfl := Option.some.inj h
      exact ⟨p, _, hp, hn, .inl rfl⟩
    · next hn =>
      obtain ⟨p, hp, hn⟩ := Option.bind_eq_some_iff.1 hn
      exact ⟨p, _, hp, hn, .inr ⟨rfl, (Option.some.inj h).symm⟩⟩
    · exact nomatch h
  · rintro ⟨p, n, hp, hn, rfl | ⟨rfl, rfl⟩⟩
    · rw [hp, Option.bind_some, hn]
    · rw [hp, Option.bind_some, hn]

/-- **What is read of another file** is what was read before. -/
theorem opened?_save {log : Text} (hopened : s.opened? log = some bytes')
    (hne : s.savedAt? path ≠ s.locate? log) :
    (s.save path bytes).1.opened? log = some bytes' := by
  obtain ⟨q, n, hq, hn, hbytes⟩ := opened?_eq_some_iff.1 hopened
  have hq' := (extends_readied s path).keepsDirectories.locate? hq
  have hn' := (extends_readied s path).found q n hn
  rw [save_eq]
  cases hp : s.savedAt? path with
  | none => exact opened?_eq_some_iff.2 ⟨q, n, hq', hn', hbytes⟩
  | some p =>
    obtain ⟨-, hfile, -⟩ := of_savedAt? hp
    have hqp : q ≠ p := by
      rintro rfl
      exact hne (hp.trans hq.symm)
    refine opened?_eq_some_iff.2 ⟨q, n, (keepsDirectories_put hfile).locate? hq', ?_, hbytes⟩
    rw [find?_put_of_ne hqp]
    exact hn'

/-- **What is saved is found**, at the same path. -/
theorem content?_save (h : (s.save path bytes).2 = true) :
    (s.save path bytes).1.content? path = some bytes := by
  rw [snd_save] at h
  obtain ⟨p, hp⟩ := Option.isSome_iff_exists.1 h
  obtain ⟨hlocate, hfile, -⟩ := of_savedAt? hp
  have hne : p ≠ [] := ne_nil_of_isDirectory hfile
  rw [save_eq, hp]
  unfold content?
  rw [(keepsDirectories_put hfile).locate? hlocate, Option.bind_some, find?_put_self hne]

end FileStore

end TexTranscript
