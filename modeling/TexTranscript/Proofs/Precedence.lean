import TexTranscript.Proofs.Failure

/-!
# What a settings file settles

A settings file is applied as a whole or not at all. If it cannot be read, is not JSON in UTF-8,
names a field twice or gives it a value that it cannot take, the run is the one without a settings
file, whatever else is in the file. If there is nothing of this kind in it, every field is settled
on its own: by the flag for it, else by the file, and else as without a file. Only being verbose is
settled by either of the two.

What a value means in a field is told here without the reader of settings; a value that no settings
have in the field is one that it cannot take. A run depends on its settings file and on the flags
that come before it only through the settings that they amount to.

## Main definitions

* `Settings.Field` – the fields of the settings, with their names and places.
* `Settings.Field.given` – the values that a document gives for a field.
* `Settings.Field.Means` – settings have what a value means in a field.
* `Settings.Sound` – no field is given twice, or a value that it cannot take.
* `Arguments.endingWith` – what is seen of a run with certain settings.

## Main statements

* `Settings.ofJson?_eq_some_iff` – which settings are read off a document.
* `Arguments.carryOut_of_effective` – a run is settled by the settings that it comes to.
* `Request.settings_all_or_nothing` – files and flags, field by field.
-/

namespace TexTranscript

/-! ## Values and what they mean -/

namespace Json

/-- The only value there is, if there are not several. -/
def sole? : List Json → Option (Option Json)
  | [] => some none
  | [v] => some (some v)
  | _ => none

/-- A list of values is read as one value at most just if it has no more. -/
theorem sole?_eq_some_iff {vs : List Json} {o : Option Json} :
    sole? vs = some o ↔ vs = o.toList := by
  match vs, o with
  | [], none => exact iff_of_true rfl rfl
  | [], some _ => exact iff_of_false nofun nofun
  | [_], none => exact iff_of_false nofun nofun
  | [v], some w => simp [sole?]
  | _ :: _ :: _, none => exact iff_of_false nofun nofun
  | _ :: _ :: _, some _ => exact iff_of_false nofun nofun

/-- A member is looked up among those with its name. -/
theorem member?_eq (name : String) (members : List (String × Json)) :
    member? name members = sole? ((members.filter (·.1 == name)).map (·.2)) := by
  unfold member?
  generalize members.filter (·.1 == name) = named
  match named with
  | [] => rfl
  | [_] => rfl
  | _ :: _ :: _ => rfl

/-- The name of a constant is a text, or the only member of an object. -/
theorem constant?_false_eq_some_iff {v : Json} {s : String} :
    constant? false v = some s ↔ v = .string s ∨ v = .object [(s, .null)] := by
  constructor
  · intro h
    unfold constant? at h
    split at h
    · obtain rfl := Option.some.inj h
      exact .inl rfl
    · obtain rfl := Option.some.inj h
      exact .inr rfl
    · exact nomatch h
    · exact nomatch h
  · rintro (rfl | rfl) <;> rfl

end Json

/-- A format is read off its name only. -/
theorem Format.ofName?_eq_some_iff {s : String} {f : Format} : ofName? s = some f ↔ s = f.name := by
  constructor
  · intro h
    have hname : (f.name == s) = true := List.find?_some (p := fun f : Format => f.name == s) h
    exact (eq_of_beq hname).symm
  · rintro rfl
    exact ofName?_name f

namespace Settings

/-- **The fields of the settings.** -/
inductive Field where
  | verbose
  | linkScheme
  | format
  | marksCache
deriving DecidableEq

namespace Field

/-- What a field is called in a settings file. -/
def name : Field → String
  | verbose => "verbose"
  | linkScheme => "link_scheme"
  | format => "format"
  | marksCache => "marks_cache"

/-- Where the value of a field stands if there are no names. -/
def place : Field → Nat
  | verbose => 0
  | linkScheme => 1
  | format => 2
  | marksCache => 3

/-- **The values that a document gives for a field**: those of the members with its name, or the
item in its place. -/
def given (f : Field) : Json → List Json
  | .array items => items[f.place]?.toList
  | .object members => (members.filter (·.1 == f.name)).map (·.2)
  | _ => []

/-- **Settings are the same in a field.** -/
def Same : Field → Settings → Settings → Prop
  | verbose, s, t => s.verbose = t.verbose
  | linkScheme, s, t => s.linkScheme = t.linkScheme
  | format, s, t => s.format = t.format
  | marksCache, s, t => s.marksCache = t.marksCache

/-- **Settings have what a value means** in a field. -/
def Means (s : Settings) : Field → Json → Prop
  | verbose, v => v = .bool s.verbose
  | linkScheme, v => v = .string s.linkScheme
  | format, v => v = .string s.format.name ∨ v = .object [(s.format.name, .null)]
  | marksCache, v => v = s.marksCache.elim .null .string

/-- The field can take a value: there are settings that have what it means. -/
def Takes (f : Field) (v : Json) : Prop := ∃ s : Settings, f.Means s v

theorem Same.refl (f : Field) (s : Settings) : f.Same s s := by
  cases f <;> rfl

theorem Same.trans {f : Field} {s t u : Settings} (h : f.Same s t) (h' : f.Same t u) :
    f.Same s u := by
  cases f <;> exact Eq.trans h h'

/-- What a value means in a field depends on that field alone. -/
theorem Means.congr {f : Field} {s t : Settings} {v : Json} (h : f.Same s t) (hv : f.Means t v) :
    f.Means s v := by
  cases f <;> simpa only [Means, show _ = _ from h] using hv

/-- Settings have what a value means in a field, or nothing is said about it. -/
def Settled (f : Field) (s : Settings) : Option Json → Prop
  | none => f.Same s {}
  | some v => f.Means s v

variable {s : Settings} {o : Option Json}

/-- The field of a flag is read as it is settled. -/
theorem flag_iff : orElse false Json.flag? o = some s.verbose ↔ verbose.Settled s o := by
  cases o with
  | none => exact Option.some_inj.trans eq_comm
  | some v => cases v <;> simp [orElse, Json.flag?, Settled, Means]

/-- The field of a text is read as it is settled. -/
theorem text_iff : orElse "txmt" Json.text? o = some s.linkScheme ↔ linkScheme.Settled s o := by
  cases o with
  | none => exact Option.some_inj.trans eq_comm
  | some v => cases v <;> simp [orElse, Json.text?, Settled, Means]

/-- The field of the format is read as it is settled: a format is a constant with its name. -/
theorem format_iff :
    orElse .html (fun j => (Json.constant? false j).bind Format.ofName?) o = some s.format
      ↔ format.Settled s o := by
  cases o with
  | none => exact Option.some_inj.trans eq_comm
  | some v =>
    simp only [orElse, Settled, Means, Option.bind_eq_some_iff, Format.ofName?_eq_some_iff,
      exists_eq_right, Json.constant?_false_eq_some_iff]

/-- The field of the cache is read as it is settled: null is no path. -/
theorem cache_iff : Json.nullable? Json.text? o = some s.marksCache ↔ marksCache.Settled s o := by
  cases o with
  | none => exact Option.some_inj.trans eq_comm
  | some v =>
    cases hs : s.marksCache <;> cases v <;> simp [Json.nullable?, Json.text?, Settled, Means, hs]

end Field

/-! ## What is read off a document -/

/-- The document is a table of settings: an object, or an array with no more items than there are
fields. -/
def IsTable : Json → Prop
  | .array items => items.length ≤ fields.length
  | .object _ => True
  | _ => False

/-- **The document can be applied**: no field is given twice, and none a value that it cannot
take. -/
structure Sound (j : Json) : Prop where
  table : IsTable j
  once : ∀ f : Field, (f.given j).length ≤ 1
  takes : ∀ f : Field, ∀ v ∈ f.given j, f.Takes v

/-- **The settings are those of a document**: in each field they have what is given for it, and
hold what holds without a document if nothing is given. -/
def Follows (s : Settings) (j : Json) : Prop :=
  ∀ f : Field, (f.given j = [] → f.Same s {}) ∧ ∀ v ∈ f.given j, f.Means s v

/-- **The fields of a table** are read off the values that are given for them. -/
theorem given?_of_isTable {j : Json} (h : IsTable j) :
    given? j = [Field.verbose, .linkScheme, .format, .marksCache].mapM
      fun f => Json.sole? (f.given j) := by
  match j, h with
  | .object members, _ =>
    show fields.mapM (Json.member? · members) = _
    rw [show (Json.member? · members) = _ from funext fun name => Json.member?_eq name members]
    rfl
  | .array items, h =>
    have hplace (f : Field) :
        Json.sole? (f.given (.array items)) = some items[f.place]? := Json.sole?_eq_some_iff.2 rfl
    rw [funext hplace]
    refine (if_pos h).trans ?_
    match items, h with
    | [], _ => rfl
    | [_], _ => rfl
    | [_, _], _ => rfl
    | [_, _, _], _ => rfl
    | [_, _, _, _], _ => rfl

/-- A document that is no table gives nothing. -/
theorem given?_of_not_isTable {j : Json} (h : ¬IsTable j) : given? j = none := by
  match j with
  | .array items => exact if_neg h
  | .object members => exact absurd trivial h
  | .null | .bool _ | .natural _ | .string _ | .foreign _ => rfl

/-- Settings are read off the values for their fields, each on its own. -/
theorem ofJson?_of_given {j : Json} {v l f c : Option Json} {s : Settings}
    (h : given? j = some [v, l, f, c]) :
    ofJson? j = some s ↔ Field.verbose.Settled s v ∧ Field.linkScheme.Settled s l ∧
      Field.format.Settled s f ∧ Field.marksCache.Settled s c := by
  rw [← Field.flag_iff, ← Field.text_iff, ← Field.format_iff, ← Field.cache_iff]
  unfold ofJson?
  rw [h]
  simp only [Option.bind_eq_bind, Option.bind_some, Option.pure_def, Option.bind_eq_some_iff,
    Option.some.injEq]
  constructor
  · rintro ⟨v', hv, l', hl, f', hf, c', hc, rfl⟩
    exact ⟨hv, hl, hf, hc⟩
  · rintro ⟨hv, hl, hf, hc⟩
    exact ⟨_, hv, _, hl, _, hf, _, hc, rfl⟩

/-- **Which settings are read off a document**: those of a table that gives each field one value at
most. A table is read field by field, and a document of another kind is refused. -/
theorem ofJson?_eq_some_iff_settled {j : Json} {s : Settings} :
    ofJson? j = some s ↔ IsTable j ∧ ∀ f : Field, ∃ o, f.given j = o.toList ∧ f.Settled s o := by
  by_cases htable : IsTable j
  · have hgiven := given?_of_isTable htable
    simp only [List.mapM_cons, List.mapM_nil] at hgiven
    constructor
    · intro h
      obtain ⟨fields, hfields, -⟩ := Option.bind_eq_some_iff.1 h
      rw [hgiven] at hfields
      simp only [Option.bind_eq_bind, Option.bind_eq_some_iff, Option.pure_def,
        Option.some.injEq] at hfields
      obtain ⟨v, hv, vs, ⟨l, hl, ls, ⟨f, hf, fs, ⟨c, hc, cs, rfl, rfl⟩, rfl⟩, rfl⟩, rfl⟩ := hfields
      rw [hv, hl, hf, hc] at hgiven
      obtain ⟨hv', hl', hf', hc'⟩ := (ofJson?_of_given hgiven).1 h
      refine ⟨htable, fun field => ?_⟩
      cases field with
      | verbose => exact ⟨v, Json.sole?_eq_some_iff.1 hv, hv'⟩
      | linkScheme => exact ⟨l, Json.sole?_eq_some_iff.1 hl, hl'⟩
      | format => exact ⟨f, Json.sole?_eq_some_iff.1 hf, hf'⟩
      | marksCache => exact ⟨c, Json.sole?_eq_some_iff.1 hc, hc'⟩
    · rintro ⟨-, h⟩
      obtain ⟨v, hv, hv'⟩ := h .verbose
      obtain ⟨l, hl, hl'⟩ := h .linkScheme
      obtain ⟨f, hf, hf'⟩ := h .format
      obtain ⟨c, hc, hc'⟩ := h .marksCache
      rw [Json.sole?_eq_some_iff.2 hv, Json.sole?_eq_some_iff.2 hl, Json.sole?_eq_some_iff.2 hf,
        Json.sole?_eq_some_iff.2 hc] at hgiven
      exact (ofJson?_of_given hgiven).2 ⟨hv', hl', hf', hc'⟩
  · refine iff_of_false (fun h => ?_) fun h => htable h.1
    obtain ⟨fields, hfields, -⟩ := Option.bind_eq_some_iff.1 h
    rw [given?_of_not_isTable htable] at hfields
    exact nomatch hfields

/-- **Which settings are read off a document**: those that follow it, if it can be applied. Where a
document can be applied, each field is given one value with a meaning, or none. -/
theorem ofJson?_eq_some_iff {j : Json} {s : Settings} :
    ofJson? j = some s ↔ Sound j ∧ s.Follows j := by
  rw [ofJson?_eq_some_iff_settled]
  constructor
  · rintro ⟨htable, h⟩
    refine ⟨⟨htable, fun f => ?_, fun f v hv => ?_⟩, fun f => ⟨fun hnil => ?_, fun v hv => ?_⟩⟩
    all_goals obtain ⟨o, hgiven, hsettled⟩ := h f
    · rw [hgiven]
      exact Option.length_toList_le
    · rw [hgiven, Option.mem_toList] at hv
      obtain rfl : o = some v := hv
      exact ⟨s, hsettled⟩
    · obtain rfl : o = none := Option.toList_eq_nil_iff.1 (hgiven.symm.trans hnil)
      exact hsettled
    · rw [hgiven, Option.mem_toList] at hv
      obtain rfl : o = some v := hv
      exact hsettled
  · rintro ⟨hsound, hfollows⟩
    refine ⟨hsound.table, fun f => ?_⟩
    match hgiven : f.given j, hsound.once f with
    | [], _ => exact ⟨none, rfl, (hfollows f).1 hgiven⟩
    | [v], _ => exact ⟨some v, rfl, (hfollows f).2 v (hgiven ▸ List.mem_singleton_self v)⟩

/-- A document that can be applied has settings. The settings are put together field by field. -/
theorem exists_follows {j : Json} (h : Sound j) : ∃ s : Settings, s.Follows j := by
  -- each field has settings of its own, of which only this field is taken
  have hfield (f : Field) : ∃ s : Settings,
      (f.given j = [] → f.Same s {}) ∧ ∀ v ∈ f.given j, f.Means s v := by
    match hgiven : f.given j, h.once f with
    | [], _ => exact ⟨{}, fun _ => .refl f {}, List.forall_mem_nil _⟩
    | [v], _ =>
      obtain ⟨s, hs⟩ := h.takes f v (hgiven ▸ List.mem_singleton_self v)
      exact ⟨s, nofun, List.forall_mem_singleton.2 hs⟩
  choose part hpart using hfield
  let s : Settings := ⟨(part .verbose).verbose, (part .linkScheme).linkScheme,
    (part .format).format, (part .marksCache).marksCache⟩
  have hsame (f : Field) : f.Same s (part f) := by
    cases f <;> rfl
  exact ⟨s, fun f => ⟨fun hnil => Field.Same.trans (hsame f) ((hpart f).1 hnil),
    fun v hv => ((hpart f).2 v hv).congr (hsame f)⟩⟩

/-- Settings that follow a document are verbose just if it says so. -/
theorem Follows.verbose_iff {j : Json} {s : Settings} (h : s.Follows j) :
    s.verbose = true ↔ .bool true ∈ Field.verbose.given j := by
  constructor
  · intro hs
    cases hgiven : Field.verbose.given j with
    | nil => exact absurd (hs.symm.trans ((h .verbose).1 hgiven)) nofun
    | cons v vs =>
      have hv : v = .bool s.verbose := (h .verbose).2 v (hgiven ▸ List.mem_cons_self)
      rw [hv, hs]
      exact List.mem_cons_self
  · intro htrue
    exact (Json.bool.inj ((h .verbose).2 _ htrue)).symm

/-! ## What is in a file -/

/-- **The content of a file is a document** in UTF-8. -/
def Holds (content : Option (List UInt8)) (j : Json) : Prop :=
  ∃ bytes t, content = some bytes ∧ Utf8.decode? bytes = some t ∧ Json.read? t = some j

/-- **A file with a document that can be applied** has settings that follow it. -/
theorem follows_load {content : Option (List UInt8)} {j : Json} (hj : Holds content j)
    (h : Sound j) : (load content).Follows j := by
  obtain ⟨bytes, t, rfl, ht, hread⟩ := hj
  obtain ⟨s, hs⟩ := exists_follows h
  have hload : load (some bytes) = s := by
    show ((Utf8.decode? bytes).bind fun t => (Json.read? t).bind ofJson?).getD {} = s
    rw [ht, Option.bind_some, hread, Option.bind_some, ofJson?_eq_some_iff.2 ⟨h, hs⟩]
    rfl
  rw [hload]
  exact hs

/-- **A file without a document that can be applied** settles nothing. -/
theorem load_eq_default {content : Option (List UInt8)} (h : ¬∃ j, Holds content j ∧ Sound j) :
    load content = {} := by
  unfold load
  cases hread : (do ofJson? (← Json.read? (← Utf8.decode? (← content))) : Option Settings) with
  | none => rfl
  | some s =>
    obtain ⟨bytes, hbytes, hread⟩ := Option.bind_eq_some_iff.1 hread
    obtain ⟨t, ht, hread⟩ := Option.bind_eq_some_iff.1 hread
    obtain ⟨j, hj, hs⟩ := Option.bind_eq_some_iff.1 hread
    exact absurd ⟨j, ⟨bytes, t, hbytes, ht, hj⟩, (ofJson?_eq_some_iff.1 hs).1⟩ h

end Settings

/-! ## Runs and their settings -/

namespace Arguments

open Settings (Field Sound Holds)

variable {a : Arguments}

/-- **What is seen of a run with certain settings**, and the files after it. -/
def endingWith (a : Arguments) (standardInput : List UInt8) (settings : Settings) (s : FileStore) :
    Ending × FileStore :=
  let (result, s') := a.resultWith standardInput settings s
  (.ofRun result, s')

/-- **The settings file, and the flags that come before it**, have a part in what is seen only by
the settings that they amount to. -/
theorem carryOut_of_effective (a : Arguments) {verbose : Bool} {format? : Option Format}
    {marks? config? : Option Text} {settings : Settings} {s : FileStore}
    (h : { a with verbose, format?, marks?, config? }.effective s = settings)
    (standardInput : List UInt8) :
    (Request.parse { a with verbose, format?, marks?, config? }).carryOut
        (FileStore.files standardInput) s
      = a.endingWith standardInput settings s := by
  have hrun := run_eq_resultWith { a with verbose, format?, marks?, config? } standardInput s
  rw [h] at hrun
  exact Request.carryOut_of_run hrun

/-- There is a flag for the field, which comes before the settings file. -/
def Overrides (a : Arguments) : Field → Prop
  | .verbose => a.verbose = true
  | .linkScheme => False
  | .format => a.format? ≠ none
  | .marksCache => a.marks? ≠ none

/-- **The settings of a run without a settings file.** -/
def flagged (a : Arguments) : Settings :=
  ⟨a.verbose, "txmt", a.format?.getD .html, a.marks?.map String.ofList⟩

/-- Flags over settings that say nothing settle what the flags say. -/
theorem settings_default (a : Arguments) : a.settings {} = a.flagged := by
  unfold settings flagged
  rw [Bool.false_or, Option.or_none]

/-- **A field is settled by its flag**, or as without a file if the file says nothing about it. -/
theorem same_settings {f : Field} {t : Settings} (h : a.Overrides f ∨ f.Same t {}) :
    f.Same (a.settings t) a.flagged := by
  cases f with
  | verbose =>
    rcases h with h | h
    · exact (congrArg (t.verbose || ·) h).trans ((Bool.or_true _).trans h.symm)
    · exact (congrArg (· || a.verbose) h).trans (Bool.false_or _)
  | linkScheme => exact h.resolve_left id
  | format =>
    rcases h with h | h
    · obtain ⟨format, hformat⟩ := Option.ne_none_iff_exists'.1 h
      show a.format?.getD t.format = a.format?.getD .html
      rw [hformat]
      rfl
    · exact congrArg a.format?.getD h
  | marksCache =>
    rcases h with h | h
    · obtain ⟨marks, hmarks⟩ := Option.ne_none_iff_exists'.1 h
      show (a.marks?.map String.ofList).or t.marksCache = a.marks?.map String.ofList
      rw [hmarks]
      rfl
    · exact (congrArg (a.marks?.map String.ofList).or h).trans (Option.or_none)

/-- **A field without a flag** is settled by the file. -/
theorem settings_same {f : Field} (t : Settings) (h : ¬a.Overrides f) :
    f.Same (a.settings t) t := by
  cases f with
  | verbose =>
    exact (congrArg (t.verbose || ·) (Bool.eq_false_iff.2 h)).trans (Bool.or_false _)
  | linkScheme => rfl
  | format => exact congrArg (Option.getD · t.format) (not_not.1 h)
  | marksCache =>
    exact congrArg (fun marks => (Option.map String.ofList marks).or t.marksCache) (not_not.1 h)

end Arguments

namespace Request

open Settings (Field Sound Holds)

/-- **A settings file is applied as a whole or not at all, and flags come before it field by
field.** If what its path leads to has no content, or not that of a document in which every field
has at most one value, and one that it can take, then what is seen of a run and the files after it
are what they are without a settings file. If it has, the run is one with settings of which each
field is the same as without a settings file, where there is a flag for it or the document gives no
value, and has what the given value means, where there is no flag. A run is verbose if the document
or the flag says so; and each flag changes its own field and no other. What is seen of a run depends
on the settings that it amounts to, so that it is these that are compared. -/
theorem settings_all_or_nothing (a : Arguments) (path : Text) (standardInput : List UInt8)
    (s : FileStore) :
    let files := FileStore.files standardInput
    let configured : Arguments := { a with config? := some path }
    let plain : Arguments := { a with config? := none }
    (parse plain).carryOut files s = a.endingWith standardInput a.flagged s ∧
    ((¬∃ j, Holds (s.content? path) j ∧ Sound j) →
      (parse configured).carryOut files s = (parse plain).carryOut files s) ∧
    ∀ j, Holds (s.content? path) j → Sound j → ∃ settings : Settings,
      (parse configured).carryOut files s = a.endingWith standardInput settings s ∧
      (∀ f : Field, a.Overrides f ∨ f.given j = [] → f.Same settings a.flagged) ∧
      (∀ f : Field, ¬a.Overrides f → ∀ v ∈ f.given j, f.Means settings v) ∧
      (settings.verbose = true ↔ a.verbose = true ∨ .bool true ∈ Field.verbose.given j) ∧
      (parse { configured with verbose := true }).carryOut files s
        = a.endingWith standardInput { settings with verbose := true } s ∧
      (∀ format, (parse { configured with format? := some format }).carryOut files s
        = a.endingWith standardInput { settings with format } s) ∧
      ∀ marks, (parse { configured with marks? := some marks }).carryOut files s
        = a.endingWith standardInput { settings with marksCache := some (String.ofList marks) } s := by
  intro files configured plain
  have hflagged : plain.effective s = a.flagged := a.settings_default
  have hplain : (parse plain).carryOut files s = a.endingWith standardInput a.flagged s :=
    a.carryOut_of_effective hflagged standardInput
  have hconfigured : (parse configured).carryOut files s
      = a.endingWith standardInput (a.settings (.load (s.content? path))) s :=
    a.carryOut_of_effective rfl standardInput
  refine ⟨hplain, fun hunsound => ?_, fun j hj hsound => ?_⟩
  · rw [hconfigured, hplain, Settings.load_eq_default hunsound, Arguments.settings_default]
  · have hfollows := Settings.follows_load hj hsound
    refine ⟨a.settings (.load (s.content? path)), hconfigured, fun f hf => ?_, fun f hf v hv => ?_,
      ?_, ?_, fun format => ?_, fun marks => ?_⟩
    · exact Arguments.same_settings (hf.imp_right (hfollows f).1)
    · exact ((hfollows f).2 v hv).congr (Arguments.settings_same _ hf)
    · rw [Arguments.settings, Bool.or_eq_true, or_comm, hfollows.verbose_iff]
    · have hverbose : { configured with verbose := true }.effective s
          = { a.settings (.load (s.content? path)) with verbose := true } :=
        congrArg (fun verbose => { a.settings (.load (s.content? path)) with verbose })
          (Bool.or_true _)
      exact a.carryOut_of_effective hverbose standardInput
    · exact a.carryOut_of_effective rfl standardInput
    · exact a.carryOut_of_effective rfl standardInput

/-- A file that names the format twice, although it could be verbose, and one that names it once. -/
theorem settings_all_or_nothing_format :
    let twice : Json :=
      .object [("verbose", .bool true), ("format", .string "json"), ("format", .string "json")]
    let once : Json := .object [("verbose", .bool true), ("format", .string "json")]
    let plain : Arguments := { tool? := some .bibtex, marks? := some "marks".toList }
    let configured : Arguments := { plain with config? := some "set".toList }
    let world (j : Json) := FileStore.empty.put ["set".toList] (.file (Utf8.encode j.compact))
    let files := FileStore.files [0x61]
    (¬∃ j, Holds ((world twice).content? "set".toList) j ∧ Sound j) ∧
      (parse configured).carryOut files (world twice)
        = (parse plain).carryOut files (world twice) ∧
      Holds ((world once).content? "set".toList) once ∧ Sound once ∧
      (parse configured).carryOut files (world once)
        = plain.endingWith [0x61] ⟨true, "txmt", .json, some "marks"⟩ (world once) := by
  intro twice once plain configured world files
  have hcontent (j : Json) :
      (world j).content? "set".toList = some (Utf8.encode j.compact) := rfl
  have hunsound : ¬∃ j, Holds ((world twice).content? "set".toList) j ∧ Sound j := by
    rintro ⟨j, ⟨bytes, t, hbytes, ht, hread⟩, hsound⟩
    obtain rfl := Option.some.inj ((hcontent twice).symm.trans hbytes)
    obtain rfl := Option.some.inj ((Utf8.decode?_encode _).symm.trans ht)
    have htwice : Json.read? twice.compact = some twice :=
      Json.read?_compact ⟨trivial, trivial, trivial, trivial⟩
    obtain rfl := Option.some.inj (htwice.symm.trans hread)
    exact absurd (hsound.once .format) (by decide)
  have honce : Holds ((world once).content? "set".toList) once :=
    ⟨_, _, hcontent once, Utf8.decode?_encode _, Json.read?_compact ⟨trivial, trivial, trivial⟩⟩
  have hsound : Sound once := by
    refine ⟨trivial, fun f => by cases f <;> decide, fun f v hv => ?_⟩
    cases f with
    | verbose => exact ⟨⟨true, "", .html, none⟩, List.mem_singleton.1 hv⟩
    | format => exact ⟨⟨true, "", .json, none⟩, .inl (List.mem_singleton.1 hv)⟩
    | linkScheme => exact absurd hv List.not_mem_nil
    | marksCache => exact absurd hv List.not_mem_nil
  obtain ⟨-, hnothing, -⟩ :=
    settings_all_or_nothing plain "set".toList [0x61] (world twice)
  obtain ⟨-, -, hall⟩ := settings_all_or_nothing plain "set".toList [0x61] (world once)
  obtain ⟨⟨verbose, scheme, format, cache⟩, hrun, hsame, hmeans, hverbose, -⟩ :=
    hall once honce hsound
  obtain rfl : verbose = true := hverbose.2 (.inr List.mem_cons_self)
  obtain rfl : scheme = "txmt" := hsame .linkScheme (.inr rfl)
  obtain rfl : cache = some "marks" := hsame .marksCache (.inr rfl)
  obtain rfl : format = .json := by
    rcases hmeans .format (fun h => h rfl) _ List.mem_cons_self with h | h
    · cases format with
      | html => exact absurd (Json.string.inj h) (by decide)
      | json => rfl
    · exact nomatch h
  exact ⟨hunsound, hnothing hunsound, honce, hsound, hrun⟩

end Request

end TexTranscript
