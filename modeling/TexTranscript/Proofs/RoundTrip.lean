import TexTranscript.Gutter
import TexTranscript.Proofs.Reordering

/-!
# What is stored is read back

Each type of the message vocabulary has an encoder and a decoder, which were written
separately. They belong together: what is encoded is decoded to the same, however its
members are arranged and its text is laid out, and what is decoded from any text is
encoded as a text that means the same.

Only counts are bounded, for a decoder takes no more than sixty-four bits. What it has
taken is bounded, therefore.

## Main definitions

* `Message.Storable` – the counts of a message can be stored.
* `decode` – what a decoder makes of a text.
* `RoundTrips` – an encoder and a decoder that belong together.

## Main statements

* `Message.reads` – a message is read back, in whatever order its members come.
* `codecs_roundTrip` – encoders and decoders belong together.
-/

namespace TexTranscript

open Json

/-! ## Records -/

/-- A count that is no larger than the largest can be stored. -/
theorem lt_size_of_le {n : Nat} (h : n ≤ Outcome.maxCount) : n < UInt64.size :=
  Nat.lt_of_le_of_lt h (by decide)

/-- A count that is read is no larger than the largest. -/
theorem le_of_count? {j : Json} {n : Nat} (h : j.count? = some n) : n ≤ Outcome.maxCount := by
  unfold count? at h
  split at h
  · split at h
    · next hlt => exact Option.some.inj h ▸ Nat.le_pred_of_lt hlt
    · exact absurd h (by simp)
  · exact absurd h (by simp)

/-- An outcome is read back if its counts can be stored. -/
theorem Outcome.reads {o : Outcome} (h : o.Storable) : Reads Outcome.ofJson? o.toJson o := by
  intro k hk
  obtain ⟨_, hrecord, fatal, _, rfl, hfatal, errors, _, rfl, herrors, warnings, _, rfl, hwarnings,
    rfl⟩ := record?_of_reordered ["fatal", "errors", "warnings"] (by decide) rfl hk
  unfold Outcome.ofJson?
  rw [hrecord]
  show (fatal.flag?).bind _ = _
  rw [reads_flag o.fatal fatal hfatal]
  show (errors.count?).bind _ = _
  rw [reads_count (lt_size_of_le h.1) errors herrors]
  show (warnings.count?).bind _ = _
  rw [reads_count (lt_size_of_le h.2) warnings hwarnings]
  rfl

/-- The counts of an outcome that is read can be stored. -/
theorem Outcome.storable_of_ofJson {j : Json} {o : Outcome} (h : Outcome.ofJson? j = some o) :
    o.Storable := by
  unfold Outcome.ofJson? at h
  obtain ⟨vs, -, h⟩ := Option.bind_eq_some_iff.1 h
  split at h
  · obtain ⟨fatal, -, h⟩ := Option.bind_eq_some_iff.1 h
    obtain ⟨errors, herrors, h⟩ := Option.bind_eq_some_iff.1 h
    obtain ⟨warnings, hwarnings, h⟩ := Option.bind_eq_some_iff.1 h
    obtain rfl := Option.some.inj h
    exact ⟨le_of_count? herrors, le_of_count? hwarnings⟩
  · exact nomatch h

/-- A location is read back. -/
theorem Location.reads (l : Location) : Reads Location.ofJson? l.toJson l := by
  intro k hk
  obtain ⟨_, hrecord, file, _, rfl, hfile, line, _, rfl, hline, rfl⟩ :=
    record?_of_reordered ["file", "line"] (by decide) rfl hk
  unfold Location.ofJson?
  rw [hrecord]
  show (file.text?).bind _ = _
  rw [reads_text l.file file hfile]
  show (line.line?).bind _ = _
  rw [reads_line l.line line hline]
  rfl

/-- A tool is read back by its name. -/
theorem Tool.reads (held : Bool) (t : Tool) : Reads (Tool.ofJson? held) t.toJson t := by
  intro k hk
  obtain rfl := hk
  exact Tool.ofExactName?_name t

/-- A severity is read back by its name. -/
theorem Severity.reads (s : Severity) : Reads Severity.ofJson? s.toJson s := by
  intro k hk
  obtain rfl := hk
  exact Severity.ofName?_name s

/-- A mark is read back. -/
theorem Mark.reads (m : Mark) : Reads Mark.ofJson? m.toJson m := by
  intro k hk
  obtain ⟨_, hrecord, file, _, rfl, hfile, line, _, rfl, hline, severity, _, rfl, hseverity,
    message, _, rfl, hmessage, rfl⟩ :=
    record?_of_reordered ["file", "line", "severity", "message"] (by decide) rfl hk
  unfold Mark.ofJson?
  rw [hrecord]
  show (file.text?).bind _ = _
  rw [reads_text m.file file hfile]
  show (line.line?).bind _ = _
  rw [reads_line m.line line hline]
  show (Severity.ofJson? severity).bind _ = _
  rw [m.severity.reads severity hseverity]
  show (message.text?).bind _ = _
  rw [reads_text m.message message hmessage]
  rfl

/-- A list of texts is read as it is. -/
theorem reads_texts (ss : List String) : Reads (list? text?) (.array (ss.map .string)) ss :=
  reads_list fun s _ => reads_text s

/-- Files in ascending order are put into a set in the same order. -/
theorem FileSet.ofList_files (s : FileSet) : FileSet.ofList s.files = s := by
  obtain ⟨files, hasc⟩ := s
  induction files with
  | nil => rfl
  | cons f fs ih =>
    obtain ⟨hf, hfs⟩ := List.pairwise_cons.1 hasc
    have hplace : FileSet.place f fs = f :: fs := by
      cases fs with
      | nil => rfl
      | cons g gs => exact if_pos (hf g List.mem_cons_self)
    show (FileSet.ofList fs).insert f = _
    rw [ih hfs]
    unfold FileSet.insert
    simp only [hplace]

/-- A ledger is read back; its files are in ascending order already. -/
theorem MarkLedger.reads (ledger : MarkLedger) : Reads MarkLedger.ofJson? ledger.toJson ledger := by
  intro k hk
  obtain ⟨_, hrecord, files, _, rfl, hfiles, rfl⟩ :=
    record?_of_reordered ["files_with_marks"] (by decide) rfl hk
  unfold MarkLedger.ofJson?
  rw [hrecord]
  show (list? text? files).bind _ = _
  rw [reads_texts ledger.filesWithMarks.files files hfiles]
  show some (MarkLedger.mk (FileSet.ofList ledger.filesWithMarks.files)) = _
  rw [FileSet.ofList_files]

/-- An update is read back. -/
theorem MarkUpdate.reads (u : MarkUpdate) : Reads MarkUpdate.ofJson? u.toJson u := by
  intro k hk
  obtain ⟨_, hrecord, clear, _, rfl, hclear, set, _, rfl, hset, rfl⟩ :=
    record?_of_reordered ["clear", "set"] (by decide) rfl hk
  unfold MarkUpdate.ofJson?
  rw [hrecord]
  show (list? text? clear).bind _ = _
  rw [reads_texts u.clear clear hclear]
  show (list? Mark.ofJson? set).bind _ = _
  rw [reads_list (fun m _ => m.reads) set hset]
  rfl

/-! ## Messages -/

namespace Message

variable {α β : Type} {read : Json → Option α} {read' : Json → Option β}
  {j j' j'' : Json} {a b c : α} {a' : β}

/-- An object with one member is read back if the member is. -/
theorem reads_one (name : String) (h : Reads read j a) :
    Reads (one? name read) (.object [(name, j)]) a := by
  intro k hk
  obtain ⟨_, hfields, v, _, rfl, hv, rfl⟩ :=
    fields?_of_reordered [name] (List.pairwise_singleton _ name) rfl hk
  unfold one?
  rw [hfields]
  exact h v hv

/-- An object with two members is read back if both are. -/
theorem reads_two (name name' : String) (hne : name ≠ name') (h : Reads read j a)
    (h' : Reads read' j' a') :
    Reads (two? name name' read read') (.object [(name, j), (name', j')]) (a, a') := by
  intro k hk
  obtain ⟨_, hfields, v, _, rfl, hv, v', _, rfl, hv', rfl⟩ :=
    fields?_of_reordered [name, name'] (by simpa using hne) rfl hk
  unfold two?
  rw [hfields]
  show (read v).bind _ = _
  rw [h v hv]
  show (read' v').bind _ = _
  rw [h' v' hv']
  rfl

/-- An object with three members is read back if all are. -/
theorem reads_three (name name' name'' : String) (hnodup : [name, name', name''].Nodup)
    (h : Reads read j a) (h' : Reads read j' b) (h'' : Reads read j'' c) :
    Reads (three? name name' name'' read) (.object [(name, j), (name', j'), (name'', j'')])
      (a, b, c) := by
  intro k hk
  obtain ⟨_, hfields, v, _, rfl, hv, v', _, rfl, hv', v'', _, rfl, hv'', rfl⟩ :=
    fields?_of_reordered [name, name', name''] hnodup rfl hk
  unfold three?
  rw [hfields]
  show (read v).bind _ = _
  rw [h v hv]
  show (read v').bind _ = _
  rw [h' v' hv']
  show (read v'').bind _ = _
  rw [h'' v'' hv'']
  rfl

/-- A text with a location, if there is one, is read back. -/
theorem reads_located (text : String) (location : Option Location) :
    Reads located? (.object [("text", .string text), ("location", locationJson location)])
      (text, location) := by
  intro k hk
  obtain ⟨_, hfields, _, _, rfl, rfl, v, _, rfl, hv, rfl⟩ :=
    fields?_of_reordered ["text", "location"] (by decide) rfl hk
  have hlocation : nullable? Location.ofJson? (some v) = some location := by
    cases location with
    | none => exact hv ▸ rfl
    | some loc =>
      have hread := loc.reads v hv
      obtain ⟨between, ms, rfl, -⟩ := hv
      exact congrArg (Option.map some) hread
  unfold located?
  rw [hfields]
  show (nullable? Location.ofJson? (some v)).bind _ = _
  rw [hlocation]
  rfl

/-- **The counts of the message can be stored.** -/
def Storable : Message → Prop
  | runSummary run errors warnings =>
    run ≤ Outcome.maxCount ∧ errors ≤ Outcome.maxCount ∧ warnings ≤ Outcome.maxCount
  | summary outcome runs => outcome.Storable ∧ runs ≤ Outcome.maxCount
  | _ => True

/-- The data of a message are read back, whether they were held back or not. The cases are the kinds
of messages, by the members that their data have. -/
theorem reads_ofParts (held : Bool) {m : Message} (h : m.Storable) :
    Reads (ofParts? held m.kind) (.object m.data) m := by
  cases m with
  | info text => exact (reads_one "text" (reads_text text)).map info
  | warning text location =>
    exact (reads_located text location).map fun r => warning r.1 r.2
  | error text location =>
    exact (reads_located text location).map fun r => error r.1 r.2
  | fatal text => exact (reads_one "text" (reads_text text)).map fatal
  | formatWarning text => exact (reads_one "text" (reads_text text)).map formatWarning
  | verbatim text => exact (reads_one "text" (reads_text text)).map verbatim
  | excerpt lines => exact (reads_one "lines" (reads_texts lines)).map excerpt
  | latexmk text => exact (reads_one "text" (reads_text text)).map latexmk
  | toolStarted tool banner =>
    exact (reads_two "tool" "banner" (by decide) (tool.reads held) (reads_text banner)).map
      fun r => toolStarted r.1 r.2
  | toolFinished tool => exact (reads_one "tool" (tool.reads held)).map toolFinished
  | toolVersion tool version =>
    exact (reads_two "tool" "version" (by decide) (tool.reads held) (reads_text version)).map
      fun r => toolVersion r.1 r.2
  | fileEntered path => exact (reads_one "path" (reads_text path)).map fileEntered
  | inclusion path => exact (reads_one "path" (reads_text path)).map inclusion
  | progress description file status =>
    exact (reads_three "description" "file" "status" (by decide) (reads_text description)
      (reads_text file) (reads_text status)).map
      fun r => progress r.1 r.2.1 r.2.2
  | sorting status => exact (reads_one "status" (reads_text status)).map sorting
  | artifact description path =>
    exact (reads_two "description" "path" (by decide) (reads_text description)
      (reads_text path)).map
      fun r => artifact r.1 r.2
  | transcript path => exact (reads_one "path" (reads_text path)).map transcript
  | glossaryType name files =>
    exact (reads_two "name" "files" (by decide) (reads_text name) (reads_text files)).map
      fun r => glossaryType r.1 r.2
  | xindyRun glossary language =>
    exact (reads_two "glossary" "language" (by decide) (reads_text glossary)
      (reads_text language)).map
      fun r => xindyRun r.1 r.2
  | glossaryFinished name path =>
    exact (reads_two "name" "path" (by decide) (reads_text name) (reads_text path)).map
      fun r => glossaryFinished r.1 r.2
  | abnormalTermination log => exact (reads_one "log" (reads_text log)).map abnormalTermination
  | runSummary run errors warnings =>
    exact (reads_three "run" "errors" "warnings" (by decide) (reads_count (lt_size_of_le h.1))
      (reads_count (lt_size_of_le h.2.1)) (reads_count (lt_size_of_le h.2.2))).map
      fun r => runSummary r.1 r.2.1 r.2.2
  | summary outcome runs =>
    exact (reads_two "outcome" "runs" (by decide) (Outcome.reads h.1)
      (reads_count (lt_size_of_le h.2))).map
      fun r => summary r.1 r.2

/-- No message is nested too deeply to be held back. -/
theorem canHold_data (m : Message) : (Json.object m.data).canHold (depthLimit - 1) = true := by
  have hlocation (depth : Nat) (location : Option Location) :
      (locationJson location).canHold (depth + 1) = true := by
    cases location <;> rfl
  have hlines (depth : Nat) (lines : List String) :
      canHoldItems depth (lines.map .string) = true := by
    induction lines with
    | nil => rfl
    | cons line lines ih => exact ih
  cases m with
  | warning text location => exact (Bool.and_true _).trans (hlocation 124 location)
  | error text location => exact (Bool.and_true _).trans (hlocation 124 location)
  | excerpt lines => exact (Bool.and_true _).trans (hlines 124 lines)
  | _ => rfl

/-- **A message is read back**, also if its data come before its kind. The data are read as they
stand if their kind is known, and are held back otherwise. -/
theorem reads {m : Message} (h : m.Storable) : Reads ofJson? m.toJson m := by
  intro k hk
  obtain ⟨_, hfields, _, _, rfl, rfl, data, _, rfl, hdata, rfl⟩ :=
    fields?_of_reordered ["kind", "data"] (by decide) rfl hk
  obtain ⟨between, members, rfl, -⟩ := hk
  have hhold : (dataFirst members && !data.canHold (depthLimit - 1)) = false := by
    rw [canHold_reordered _ hdata, canHold_data m]
    exact Bool.and_false _
  show ((object members).fields? ["kind", "data"]).bind _ = _
  rw [hfields]
  show (if (dataFirst members && !data.canHold (depthLimit - 1)) = true then none
    else ofParts? (dataFirst members) m.kind data) = some m
  rw [hhold]
  exact reads_ofParts (dataFirst members) h data hdata

/-- Of an object with two members both were read. -/
theorem of_two {read : Json → Option α} {read' : Json → Option β} {name name' : String} {j : Json}
    {r : α × β} (h : two? name name' read read' j = some r) :
    (∃ v, read v = some r.1) ∧ ∃ v, read' v = some r.2 := by
  unfold two? at h
  obtain ⟨vs, -, h⟩ := Option.bind_eq_some_iff.1 h
  split at h
  · next v v' =>
    obtain ⟨a, ha, h⟩ := Option.bind_eq_some_iff.1 h
    obtain ⟨b, hb, h⟩ := Option.bind_eq_some_iff.1 h
    obtain rfl := Option.some.inj h
    exact ⟨⟨v, ha⟩, v', hb⟩
  · exact absurd h (by simp)

/-- Of an object with three members all were read. -/
theorem of_three {read : Json → Option α} {name name' name'' : String} {j : Json}
    {r : α × α × α} (h : three? name name' name'' read j = some r) :
    (∃ v, read v = some r.1) ∧ (∃ v, read v = some r.2.1) ∧ ∃ v, read v = some r.2.2 := by
  unfold three? at h
  obtain ⟨vs, -, h⟩ := Option.bind_eq_some_iff.1 h
  split at h
  · next v v' v'' =>
    obtain ⟨a, ha, h⟩ := Option.bind_eq_some_iff.1 h
    obtain ⟨b, hb, h⟩ := Option.bind_eq_some_iff.1 h
    obtain ⟨c, hc, h⟩ := Option.bind_eq_some_iff.1 h
    obtain rfl := Option.some.inj h
    exact ⟨⟨v, ha⟩, ⟨v', hb⟩, v'', hc⟩
  · exact absurd h (by simp)

/-- A message that was read off its parts can be stored: what it counts was read as a count. -/
theorem storable_of_ofParts {held : Bool} {kind : String} {j : Json} {m : Message}
    (h : ofParts? held kind j = some m) : m.Storable := by
  unfold ofParts? at h
  split at h
  case h_22 =>
    obtain ⟨_, hread, rfl⟩ := Option.map_eq_some_iff.1 h
    obtain ⟨⟨_, hrun⟩, ⟨_, herrors⟩, _, hwarnings⟩ := of_three hread
    exact ⟨le_of_count? hrun, le_of_count? herrors, le_of_count? hwarnings⟩
  case h_23 =>
    obtain ⟨_, hread, rfl⟩ := Option.map_eq_some_iff.1 h
    obtain ⟨⟨_, houtcome⟩, _, hruns⟩ := of_two hread
    exact ⟨Outcome.storable_of_ofJson houtcome, le_of_count? hruns⟩
  case h_24 => exact nomatch h
  -- No other kind has a count.
  all_goals
    obtain ⟨_, -, rfl⟩ := Option.map_eq_some_iff.1 h
    exact trivial

/-- A message that was read can be stored, in whichever order its members came. -/
theorem storable_of_ofJson {j : Json} {m : Message} (h : ofJson? j = some m) : m.Storable := by
  unfold ofJson? at h
  split at h
  · exact storable_of_ofParts h
  · next members =>
    obtain ⟨vs, -, h⟩ := Option.bind_eq_some_iff.1 h
    split at h
    · next kind data =>
      dsimp only at h
      split at h
      · exact nomatch h
      · obtain ⟨name, -, h⟩ := Option.bind_eq_some_iff.1 h
        exact storable_of_ofParts h
    · exact nomatch h
  · exact nomatch h

end Message

/-! ## Limits -/

/-- The items of a list fit if each value does. -/
theorem itemsFit_map {α : Type} {f : α → Json} (h : ∀ a, (f a).Fits) (as : List α) :
    ItemsFit (as.map f) := by
  induction as with
  | nil => trivial
  | cons a as ih => exact ⟨h a, ih⟩

theorem itemsFit_texts (ss : List String) : ItemsFit (ss.map .string) :=
  itemsFit_map (f := .string) (fun _ => trivial) ss

/-- The counts of an outcome that can be stored fit. -/
theorem Outcome.fits {o : Outcome} (h : o.Storable) : o.toJson.Fits :=
  ⟨trivial, lt_size_of_le h.1, lt_size_of_le h.2, trivial⟩

/-- A line number has thirty-two bits. -/
theorem line_lt_size (line : UInt32) : line.toNat < UInt64.size :=
  Nat.lt_trans line.toNat_lt (by decide)

theorem Location.fits (l : Location) : l.toJson.Fits := ⟨trivial, line_lt_size l.line, trivial⟩

/-- The line of a mark fits. -/
theorem Mark.fits (m : Mark) : m.toJson.Fits :=
  ⟨trivial, line_lt_size m.line, trivial, trivial, trivial⟩

theorem MarkLedger.fits (ledger : MarkLedger) : ledger.toJson.Fits :=
  ⟨itemsFit_texts ledger.filesWithMarks.files, trivial⟩

/-- The lines of the marks in an update fit. -/
theorem MarkUpdate.fits (u : MarkUpdate) : u.toJson.Fits :=
  ⟨itemsFit_texts u.clear, itemsFit_map Mark.fits u.set, trivial⟩

/-- The numbers of a message that can be stored fit. -/
theorem Message.fits {m : Message} (h : m.Storable) : m.toJson.Fits := by
  have hlocation (location : Option Location) : (locationJson location).Fits := by
    cases location with
    | none => trivial
    | some loc => exact loc.fits
  have hdata : MembersFit m.data := by
    cases m with
    | warning text location => exact ⟨trivial, hlocation location, trivial⟩
    | error text location => exact ⟨trivial, hlocation location, trivial⟩
    | excerpt lines => exact ⟨itemsFit_texts lines, trivial⟩
    | runSummary run errors warnings =>
      exact ⟨lt_size_of_le h.1, lt_size_of_le h.2.1, lt_size_of_le h.2.2, trivial⟩
    | summary outcome runs => exact ⟨Outcome.fits h.1, lt_size_of_le h.2, trivial⟩
    | _ => simp [data, MembersFit, Fits, Tool.toJson]
  exact ⟨trivial, hdata, trivial⟩

/-! ## Texts -/

/-- What a decoder makes of a text. -/
def decode {α : Type} (ofJson? : Json → Option α) (t : Text) : Option α := (read? t).bind ofJson?

/-- **An encoder and a decoder that belong together**, for the values that can be stored. -/
structure RoundTrips {α : Type} (toJson : α → Json) (ofJson? : Json → Option α)
    (Storable : α → Prop) : Prop where
  /-- A value is read back from its text. -/
  readBack : ∀ a, Storable a → decode ofJson? (toJson a).compact = some a
  /-- A value is read back also if its members come in another order, and the text is laid out in
  lines. -/
  readReordered : ∀ a, Storable a → ∀ j, (toJson a).Reordered j →
    decode ofJson? j.compact = some a ∧ ∀ level, decode ofJson? (j.spread level) = some a
  /-- What is read off any text can be stored. -/
  storable : ∀ t a, decode ofJson? t = some a → Storable a
  /-- To encode what was read off any text leads to the same value and the same text. -/
  stable : ∀ t a, decode ofJson? t = some a → decode ofJson? (toJson a).compact = some a ∧
    (decode ofJson? (toJson a).compact).map (fun b => (toJson b).compact) = some (toJson a).compact

/-- **Encoder and decoder belong together** if values are read back, their numbers fit, and what is
read can be stored. -/
theorem RoundTrips.of_reads {α : Type} {toJson : α → Json} {ofJson? : Json → Option α}
    {Storable : α → Prop} (hreads : ∀ a, Storable a → Reads ofJson? (toJson a) a)
    (hfits : ∀ a, Storable a → (toJson a).Fits)
    (hstorable : ∀ j a, ofJson? j = some a → Storable a) :
    RoundTrips toJson ofJson? Storable := by
  have hreordered (a : α) (ha : Storable a) (j : Json) (hj : (toJson a).Reordered j) :
      decode ofJson? j.compact = some a ∧ ∀ level, decode ofJson? (j.spread level) = some a := by
    have hfit := (hfits a ha).reordered hj
    unfold decode
    refine ⟨?_, fun level => ?_⟩
    · rw [read?_compact hfit]
      exact hreads a ha j hj
    · rw [read?_spread level hfit]
      exact hreads a ha j hj
  have hback (a : α) (ha : Storable a) : decode ofJson? (toJson a).compact = some a :=
    (hreordered a ha (toJson a) (Reordered.refl (toJson a))).1
  have hread (t : Text) (a : α) (h : decode ofJson? t = some a) : Storable a := by
    obtain ⟨j, -, hj⟩ := Option.bind_eq_some_iff.1 h
    exact hstorable j a hj
  refine ⟨hback, hreordered, hread, fun t a h => ⟨hback a (hread t a h), ?_⟩⟩
  rw [hback a (hread t a h)]
  rfl

/-- Encoder and decoder of a type without counts belong together, whatever the value. -/
theorem RoundTrips.of_all {α : Type} {toJson : α → Json} {ofJson? : Json → Option α}
    (hreads : ∀ a, Reads ofJson? (toJson a) a) (hfits : ∀ a, (toJson a).Fits) :
    RoundTrips toJson ofJson? fun _ => True :=
  .of_reads (fun a _ => hreads a) (fun a _ => hfits a) fun _ _ _ => trivial

/-- **Encoders and decoders belong together**, for each type of the message vocabulary. Each type is
read back in every order, which was proved from its members upwards; reading the text itself is the
part that all of them share. -/
theorem codecs_roundTrip :
    RoundTrips Message.toJson Message.ofJson? Message.Storable ∧
    RoundTrips Mark.toJson Mark.ofJson? (fun _ => True) ∧
    RoundTrips Outcome.toJson Outcome.ofJson? Outcome.Storable ∧
    RoundTrips Location.toJson Location.ofJson? (fun _ => True) ∧
    RoundTrips Tool.toJson (Tool.ofJson? false) (fun _ => True) ∧
    RoundTrips Severity.toJson Severity.ofJson? (fun _ => True) ∧
    RoundTrips MarkLedger.toJson MarkLedger.ofJson? (fun _ => True) ∧
    RoundTrips MarkUpdate.toJson MarkUpdate.ofJson? (fun _ => True) ∧
    ∀ m : Message, m.Storable → decode Message.ofJson?
      (Json.object [("data", .object m.data), ("kind", .string m.kind)]).compact = some m := by
  have hmessages : RoundTrips Message.toJson Message.ofJson? Message.Storable :=
    .of_reads (fun _ h => Message.reads h) (fun _ h => Message.fits h)
      fun _ _ h => Message.storable_of_ofJson h
  refine ⟨hmessages, ?mark, ?outcome, ?location, ?tool, ?severity, ?ledger, ?update, ?dataFirst⟩
  case mark => exact .of_all Mark.reads Mark.fits
  case outcome =>
    exact .of_reads (fun _ h => Outcome.reads h) (fun _ h => Outcome.fits h)
      fun _ _ h => Outcome.storable_of_ofJson h
  case location => exact .of_all Location.reads Location.fits
  case tool => exact .of_all (Tool.reads false) fun _ => trivial
  case severity => exact .of_all Severity.reads fun _ => trivial
  case ledger => exact .of_all MarkLedger.reads MarkLedger.fits
  case update => exact .of_all MarkUpdate.reads MarkUpdate.fits
  case dataFirst =>
    intro m hm
    refine (hmessages.readReordered m hm _ ?_).1
    exact ⟨_, _, rfl, MembersReordered.refl _, List.Perm.swap _ _ _⟩

end TexTranscript
