import TexTranscript.Json.Decode
import TexTranscript.Proofs.Spelling

/-!
# The order of members

Who writes an object may put its members in any order, and so for the objects within
it. What a decoder makes of a value must not depend on that: it *reads* a result off
the value if it reads the same off everything the value can be reordered to.

The names of the members of a record are all different, so that each field is found,
and found once, wherever it stands.

## Main definitions

* `Json.Reordered` – a value with the members of its objects in another order.
* `Json.Reads` – a decoder reads a result, in whatever order the members are.

## Main statements

* `Json.fields?_of_reordered`, `Json.record?_of_reordered` – the fields of a record.
* `Json.Fits.reordered`, `Json.canHold_reordered` – limits hold in every order.
-/

namespace TexTranscript

namespace Json

mutual

/-- **The second value is the first with its members in another order**, and so for the
values within it. -/
def Reordered : Json → Json → Prop
  | .array items, k => ∃ items', k = .array items' ∧ ItemsReordered items items'
  | .object members, k => ∃ between members',
      k = .object members' ∧ MembersReordered members between ∧ between.Perm members'
  | .null, k => k = .null
  | .bool b, k => k = .bool b
  | .natural n, k => k = .natural n
  | .string s, k => k = .string s
  | .foreign holdable, k => k = .foreign holdable

/-- Items stay where they are. -/
def ItemsReordered : List Json → List Json → Prop
  | [], ks => ks = []
  | j :: js, ks => ∃ k ks', ks = k :: ks' ∧ Reordered j k ∧ ItemsReordered js ks'

/-- The values of members in place. -/
def MembersReordered : List (String × Json) → List (String × Json) → Prop
  | [], ks => ks = []
  | (key, j) :: ms, ks => ∃ k ks', ks = (key, k) :: ks' ∧ Reordered j k ∧ MembersReordered ms ks'

end

mutual

/-- A value is one of its own orders. -/
theorem Reordered.refl : ∀ j : Json, j.Reordered j
  | .array items => ⟨items, rfl, ItemsReordered.refl items⟩
  | .object ms => ⟨ms, ms, rfl, MembersReordered.refl ms, List.Perm.refl ms⟩
  | .null => rfl
  | .bool _ => rfl
  | .natural _ => rfl
  | .string _ => rfl
  | .foreign _ => rfl

theorem ItemsReordered.refl : ∀ js : List Json, ItemsReordered js js
  | [] => rfl
  | j :: js => ⟨j, js, rfl, Reordered.refl j, ItemsReordered.refl js⟩

theorem MembersReordered.refl : ∀ ms : List (String × Json), MembersReordered ms ms
  | [] => rfl
  | (_, j) :: ms => ⟨j, ms, rfl, Reordered.refl j, MembersReordered.refl ms⟩

end

/-! ## Limits -/

/-- Members fit just if the value of each does. -/
theorem membersFit_iff {ms : List (String × Json)} : MembersFit ms ↔ ∀ m ∈ ms, m.2.Fits := by
  induction ms with
  | nil => exact ⟨fun _ => List.forall_mem_nil _, fun _ => trivial⟩
  | cons m ms ih => rw [List.forall_mem_cons, MembersFit, ih]

/-- Members are nested no deeper than allowed just if the value of each is. -/
theorem canHoldMembers_iff {depth : Nat} {ms : List (String × Json)} :
    canHoldMembers depth ms = ms.all fun m => m.2.canHold depth := by
  induction ms with
  | nil => rfl
  | cons m ms ih => rw [List.all_cons, canHoldMembers, ih]

mutual

/-- Numbers have as many bits in every order of the members. -/
theorem Fits.reordered : ∀ {j k : Json}, j.Reordered k → j.Fits → k.Fits
  | .array _, _, h, hfit => by
    obtain ⟨items', rfl, h⟩ := h
    exact ItemsFit.reordered h hfit
  | .object _, _, h, hfit => by
    obtain ⟨between, ms', rfl, h, hperm⟩ := h
    have hbetween := membersFit_iff.1 (MembersFit.reordered h hfit)
    exact membersFit_iff.2 fun m hm => hbetween m (hperm.mem_iff.2 hm)
  | .null, _, h, _ => h ▸ trivial
  | .bool _, _, h, _ => h ▸ trivial
  | .natural _, _, h, hfit => h ▸ hfit
  | .string _, _, h, _ => h ▸ trivial
  | .foreign _, _, h, _ => h ▸ trivial

/-- Items whose numbers have few enough bits have them in every order. -/
theorem ItemsFit.reordered :
    ∀ {js ks : List Json}, ItemsReordered js ks → ItemsFit js → ItemsFit ks
  | [], _, h, _ => h ▸ trivial
  | _ :: _, _, h, hfit => by
    obtain ⟨k, ks', rfl, hk, hks⟩ := h
    exact ⟨Fits.reordered hk hfit.1, ItemsFit.reordered hks hfit.2⟩

/-- Members whose numbers have few enough bits have them in every order. -/
theorem MembersFit.reordered :
    ∀ {ms ks : List (String × Json)}, MembersReordered ms ks → MembersFit ms → MembersFit ks
  | [], _, h, _ => h ▸ trivial
  | (_, _) :: _, _, h, hfit => by
    obtain ⟨k, ks', rfl, hk, hks⟩ := h
    exact ⟨Fits.reordered hk hfit.1, MembersFit.reordered hks hfit.2⟩

end

mutual

/-- Values are nested as deeply in every order. -/
theorem canHold_reordered :
    ∀ {j k : Json} (depth : Nat), j.Reordered k → k.canHold depth = j.canHold depth
  | .array items, _, depth, h => by
    obtain ⟨items', rfl, h⟩ := h
    rw [canHold, canHold, canHoldItems_reordered (depth - 1) h]
  | .object ms, _, depth, h => by
    obtain ⟨between, ms', rfl, h, hperm⟩ := h
    rw [canHold, canHold, ← canHoldMembers_reordered (depth - 1) h, canHoldMembers_iff,
      canHoldMembers_iff, hperm.all_eq]
  | .null, _, _, h => h ▸ rfl
  | .bool _, _, _, h => h ▸ rfl
  | .natural _, _, _, h => h ▸ rfl
  | .string _, _, _, h => h ▸ rfl
  | .foreign _, _, _, h => h ▸ rfl

/-- Items are nested as deeply when each of them is reordered. -/
theorem canHoldItems_reordered : ∀ {js ks : List Json} (depth : Nat),
    ItemsReordered js ks → canHoldItems depth ks = canHoldItems depth js
  | [], _, _, h => h ▸ rfl
  | _ :: _, _, depth, h => by
    obtain ⟨k, ks', rfl, hk, hks⟩ := h
    rw [canHoldItems, canHoldItems, canHold_reordered depth hk, canHoldItems_reordered depth hks]

/-- Members are nested as deeply when each of them is reordered. -/
theorem canHoldMembers_reordered : ∀ {ms ks : List (String × Json)} (depth : Nat),
    MembersReordered ms ks → canHoldMembers depth ks = canHoldMembers depth ms
  | [], _, _, h => h ▸ rfl
  | (_, _) :: _, _, depth, h => by
    obtain ⟨k, ks', rfl, hk, hks⟩ := h
    rw [canHoldMembers, canHoldMembers, canHold_reordered depth hk,
      canHoldMembers_reordered depth hks]

end

/-! ## Fields -/

variable {ms ms' : List (String × Json)} {j k : Json}

/-- A member is found by its name if no other has that name. -/
theorem member?_of_mem {m : String × Json} (hnodup : (ms.map (·.1)).Nodup) (hm : m ∈ ms) :
    member? m.1 ms = some (some m.2) := by
  let p : String × Json → Bool := (·.1 == m.1)
  have hdistinct : ms.Pairwise (·.1 ≠ ·.1) := List.pairwise_map.1 hnodup
  clear hnodup
  have hfilter : ms.filter p = [m] := by
    induction ms with
    | nil => exact absurd hm List.not_mem_nil
    | cons m' ms ih =>
      obtain ⟨hne, hdistinct⟩ := List.pairwise_cons.1 hdistinct
      rcases List.mem_cons.1 hm with rfl | hm
      · have hnone : ms.filter p = [] :=
          List.filter_eq_nil_iff.2 fun m' hm' hp => hne m' hm' (beq_iff_eq.1 hp).symm
        have hp : p m = true := beq_self_eq_true m.1
        rw [List.filter_cons_of_pos hp, hnone]
      · have hp : ¬p m' = true := fun hp => hne m hm (beq_iff_eq.1 hp)
        rw [List.filter_cons_of_neg hp, ih hm hdistinct]
  unfold member?
  rw [hfilter]

/-- All members of an object are found by their names, in whatever order it has them. -/
theorem fields?_perm (hnodup : (ms.map (·.1)).Nodup) (hperm : ms.Perm ms') :
    fields? (ms.map (·.1)) (.object ms') = some (ms.map fun m => some m.2) := by
  have hfind : ∀ m ∈ ms, member? m.1 ms' = some (some m.2) := fun m hm =>
    member?_of_mem ((hperm.map (·.1)).nodup_iff.1 hnodup) (hperm.mem_iff.1 hm)
  have hall : ∀ ns : List (String × Json), (∀ m ∈ ns, member? m.1 ms' = some (some m.2)) →
      (ns.map (·.1)).mapM (member? · ms') = some (ns.map fun m => some m.2) := by
    intro ns h
    induction ns with
    | nil => rfl
    | cons m ns ih =>
      obtain ⟨hm, hns⟩ := List.forall_mem_cons.1 h
      rw [List.map_cons, List.mapM_cons, hm, ih hns]
      rfl
  exact hall ms hfind

/-- Members whose values are reordered in themselves keep their names. -/
theorem MembersReordered.map : ∀ {ms between : List (String × Json)}, MembersReordered ms between →
    between.map (·.1) = ms.map (·.1) ∧ ItemsReordered (ms.map (·.2)) (between.map (·.2))
  | [], _, h => by
    obtain rfl := h
    exact ⟨rfl, rfl⟩
  | (_, _) :: _, _, h => by
    obtain ⟨k, ks', rfl, hk, hks⟩ := h
    obtain ⟨hkeys, hvalues⟩ := MembersReordered.map hks
    exact ⟨congrArg (_ :: ·) hkeys, k, _, rfl, hk, hvalues⟩

/-- **The fields of an object**, each reordered in itself. -/
theorem fields?_of_reordered (names : List String) (hnodup : names.Nodup)
    (hnames : ms.map (·.1) = names) (h : (object ms).Reordered k) :
    ∃ vs, k.fields? names = some (vs.map some) ∧ ItemsReordered (ms.map (·.2)) vs := by
  obtain ⟨between, ms', rfl, h, hperm⟩ := h
  obtain ⟨hkeys, hvalues⟩ := h.map
  refine ⟨between.map (·.2), ?_, hvalues⟩
  rw [← hnames, ← hkeys] at hnodup ⊢
  rw [fields?_perm hnodup hperm, List.map_map]
  rfl

/-- The fields of a record are those of the object that it is written as, each reordered in
itself. -/
theorem record?_of_reordered (names : List String) (hnodup : names.Nodup)
    (hnames : ms.map (·.1) = names) (h : (object ms).Reordered k) :
    ∃ vs, k.record? names = some (vs.map some) ∧ ItemsReordered (ms.map (·.2)) vs := by
  obtain ⟨vs, hfields, hvs⟩ := fields?_of_reordered names hnodup hnames h
  obtain ⟨between, ms', rfl, -⟩ := h
  exact ⟨vs, hfields, hvs⟩

/-! ## Reading -/

variable {α β : Type}

/-- **The decoder reads the result off the value**, in whatever order the members of its
objects are. -/
def Reads (read : Json → Option α) (j : Json) (a : α) : Prop :=
  ∀ k, j.Reordered k → read k = some a

/-- What is read can be given another form. -/
theorem Reads.map {read : Json → Option α} {a : α} (h : Reads read j a) (f : α → β) :
    Reads (fun k => (read k).map f) j (f a) := by
  intro k hk
  show (read k).map f = _
  rw [h k hk]
  rfl

theorem reads_text (s : String) : Reads text? (.string s) s := fun _ hk => hk ▸ rfl

theorem reads_flag (b : Bool) : Reads flag? (.bool b) b := fun _ hk => hk ▸ rfl

/-- A count that can be stored is read as it was written. -/
theorem reads_count {n : Nat} (h : n < UInt64.size) : Reads count? (.natural n) n :=
  fun _ hk => hk ▸ if_pos h

theorem reads_line (n : UInt32) : Reads line? (.natural n.toNat) n := by
  rintro _ rfl
  exact (if_pos n.toNat_lt).trans (congrArg some UInt32.ofNat_toNat)

/-- A list is read item by item. -/
theorem reads_list {item? : Json → Option α} {f : α → Json} {as : List α}
    (h : ∀ a ∈ as, Reads item? (f a) a) : Reads (list? item?) (.array (as.map f)) as := by
  rintro _ ⟨items', rfl, hitems⟩
  show items'.mapM item? = some as
  induction as generalizing items' with
  | nil => exact hitems ▸ rfl
  | cons a as ih =>
    obtain ⟨k, ks, rfl, hk, hks⟩ := hitems
    obtain ⟨ha, has⟩ := List.forall_mem_cons.1 h
    rw [List.mapM_cons, ha k hk, ih has ks hks]
    rfl

end Json

end TexTranscript
