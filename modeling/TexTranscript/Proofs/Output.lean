import TexTranscript.Proofs.Setup
import TexTranscript.Proofs.Thrift

/-!
# The output tells the exit code

In JSON, a run puts out one line for each message of its parse, and one for the summary.
No line holds a line feed of its own, since those in texts are escaped; so whoever reads
the output line by line gets the messages back, and the summary is the last of them. It
counts what the messages before it say, and the exit code can be told from it.

This is so whatever the run reads while it is under way. A ledger can be saved into the
very transcript that latexmk keeps watching; then the messages are still those of a parse
of latexmk, and all that such a parse keeps holds of them (`Watch.keeps_run`).

## Main definitions

* `Json.IsPlain` – texts without control characters.
* `Report.Agrees` – the counts of a report are those of its messages.
* `Arguments.Undisturbed` – no ledger is saved into a transcript that is watched.

## Main statements

* `Json.isPlain_compact`, `Json.lineFeed_notMem_compact` – a value is written on one line, without
  control characters.
* `Format.splitOn_output_json` – an output is read line by line.
* `Arguments.exists_parse` – what a run parses agrees.
* `Arguments.json_tells_exitCode` – the output of a run tells its exit code.
-/

namespace TexTranscript

/-! ## Line by line -/

namespace Json

/-- **There is no control character** in the text. -/
def IsPlain (t : Text) : Prop := ∀ c ∈ t, 0x20 ≤ c.toNat

instance (t : Text) : Decidable (IsPlain t) := List.decidableBAll _ t

namespace IsPlain

variable {s t : Text} {c : Char}

theorem cons (hc : 0x20 ≤ c.toNat) (ht : IsPlain t) : IsPlain (c :: t) :=
  List.forall_mem_cons.2 ⟨hc, ht⟩

theorem append (hs : IsPlain s) (ht : IsPlain t) : IsPlain (s ++ t) :=
  List.forall_mem_append.2 ⟨hs, ht⟩

end IsPlain

/-- What is written for a character has no control character in it. -/
theorem isPlain_escapeChar (c : Char) : IsPlain (escapeChar c) := by
  by_cases hlow : c.toNat < 0x20
  · -- there are few control characters
    have hcontrol : ∀ n < 0x20, IsPlain (escapeChar (Char.ofNat n)) := by decide
    have hc := hcontrol c.toNat hlow
    rwa [Char.ofNat_toNat] at hc
  unfold escapeChar
  by_cases hquote : c = '"'
  · rw [if_pos hquote]
    decide
  by_cases hslash : c = '\\'
  · rw [if_neg hquote, if_pos hslash]
    decide
  · rw [if_neg hquote, if_neg hslash, if_pos (Nat.not_lt.1 hlow)]
    exact List.forall_mem_singleton.2 (Nat.not_lt.1 hlow)

/-- A string is written without control characters. -/
theorem isPlain_quote (s : String) : IsPlain (quote s) := by
  have hchars : IsPlain (s.toList.flatMap escapeChar) := fun c h =>
    let ⟨d, _, hd⟩ := List.mem_flatMap.1 h
    isPlain_escapeChar d c hd
  exact (hchars.cons (by decide)).append (by decide)

mutual

/-- **A value is written without control characters.** -/
theorem isPlain_compact : ∀ j : Json, IsPlain j.compact
  | null => by decide
  | bool b => by cases b <;> decide
  | natural n => fun _ hc => le_trans (by decide) (Char.le_def.1 (mem_toDigits hc).1)
  | string s => isPlain_quote s
  | array items => ((isPlain_compactItems items).cons (by decide)).append (by decide)
  | object members => ((isPlain_compactMembers members).cons (by decide)).append (by decide)
  | foreign holdable => by cases holdable <;> decide

/-- Items are written without control characters. -/
theorem isPlain_compactItems : ∀ items : List Json, IsPlain (compactItems items)
  | [] => List.forall_mem_nil _
  | [j] => isPlain_compact j
  | j :: k :: js =>
    (isPlain_compact j).append ((isPlain_compactItems (k :: js)).cons (by decide))

/-- Members are written without control characters. -/
theorem isPlain_compactMembers : ∀ members : List (String × Json), IsPlain (compactMembers members)
  | [] => List.forall_mem_nil _
  | [(key, j)] => (isPlain_quote key).append ((isPlain_compact j).cons (by decide))
  | (key, j) :: m :: ms =>
    ((isPlain_quote key).append ((isPlain_compact j).cons (by decide))).append
      ((isPlain_compactMembers (m :: ms)).cons (by decide))

end

/-- **A value is written on one line.** -/
theorem lineFeed_notMem_compact (j : Json) : '\n' ∉ j.compact :=
  fun h => absurd (isPlain_compact j '\n' h) (by decide)

end Json

/-- **An output in JSON is read line by line**: there is one line for each message, and behind the
last line feed there is nothing. The induction is on the messages; each is written on one line and
followed by a line feed. -/
theorem Format.splitOn_output_json (l : Linker) (ms : List Message) :
    (Format.json.output l ms).splitOn '\n' = ms.map (fun m => m.toJson.compact) ++ [[]] := by
  induction ms with
  | nil => rfl
  | cons m ms ih =>
    have hcons : Format.json.output l (m :: ms)
        = m.toJson.compact ++ '\n' :: Format.json.output l ms := by
      show (m.toJson.compact ++ ['\n']) ++ Format.json.output l ms = _
      rw [List.append_assoc]
      rfl
    rw [hcons, List.splitOn_append_cons_self_of_not_mem (Json.lineFeed_notMem_compact _), ih]
    rfl

/-- The lines of messages are read back, if their counts can be stored. -/
theorem Message.map_decode {ms : List Message} (h : ∀ m ∈ ms, m.Storable) :
    (ms.map fun m => m.toJson.compact).map (decode Message.ofJson?) = ms.map some := by
  rw [List.map_map]
  refine List.map_congr_left fun m hm => ?_
  rw [Function.comp_apply, decode, Json.read?_compact (Message.fits (h m hm))]
  exact Message.reads (h m hm) _ (Json.Reordered.refl _)

/-! ## Reports that agree -/

/-- **A report agrees with its messages**: it counts what they say, and none of them is the
summary that is still to come. -/
structure Report.Agrees (r : Report) : Prop where
  warnings : r.outcome.warnings = r.messages.countP Message.isWarning
  errors : r.outcome.errors
    = r.messages.countP Message.isError + r.messages.countP Message.isFreshFatal
  unsummed : ∀ m ∈ r.messages, ∀ outcome runs, m ≠ .summary outcome runs
  runs : 1 ≤ r.runs

/-- What latexmk keeps makes its report agree. The sums are those of the log, which the messages
tell. -/
theorem Report.agrees_of_balanced {R : Type} [LineSource R]
    {p : Grammar.Position R Build.Memory} (hb : p.scope.log.Balanced true)
    (hs : Build.SumsUp p.memory p.scope.log) (rounds : List Build.RoundReport) :
    Report.Agrees { Report.ofScope p.scope p.memory.runs with rounds } where
  warnings := congrArg Outcome.warnings hb
  errors := congrArg Outcome.errors hb
  unsummed m hm := (hs.within m hm).ne_summary
  runs := Nat.le_max_right ..

/-- **Every step of latexmk keeps what makes its report agree**: the log is balanced, and the memory
sums it up. -/
theorem Build.keeps_balanced (master : Text) (watching : Bool) :
    (grammar master watching).Keeps fun memory log => log.Balanced true ∧ SumsUp memory log :=
  keeps ⟨Log.balanced_empty true, sumsUp_empty⟩ fun hstep h =>
    ⟨hstep.balanced h.1, hstep.sumsUp h.2⟩

/-- **The report of every transcript agrees** with the messages that were emitted. -/
theorem agrees_parseTranscript (tool : Tool) (master : Text) (verbose : Bool) (ls : List Line) :
    (parseTranscript tool master verbose ls).Agrees where
  warnings := congrArg Outcome.warnings (parseTranscript_balanced tool master verbose ls)
  errors := congrArg Outcome.errors (parseTranscript_balanced tool master verbose ls)
  unsummed m hm := ((parseTranscript_countsUpTo tool master verbose ls).within m hm).ne_summary
  runs := by cases tool <;> exact Nat.le_max_right ..

/-- **The report of latexmk agrees** with its messages, also while it keeps watching. -/
theorem agrees_parseBuild (master : Text) (watching verbose : Bool) (ls : List Line) :
    (parseBuild master watching verbose ls).Agrees := by
  have h := (Build.keeps_balanced master watching).parse verbose ls
  exact Report.agrees_of_balanced h.1 h.2 _

namespace Arguments

variable {a : Arguments} {standardInput bytes : List UInt8} {s : FileStore} {linker : Linker}

/-- What a run reports agrees with what it emits, whichever tool it was called for. -/
theorem agrees_report (a : Arguments) (verbose : Bool) (bytes : List UInt8) :
    (a.report verbose bytes).Agrees := by
  rw [report_eq]
  split
  · exact agrees_parseBuild ..
  · exact agrees_parseTranscript ..

/-- **All that a run puts out can be stored**, if the bytes of its transcript can be counted. The
report is that of a transcript with fewer lines than bytes, and a parse stays within the limits of
its lines. -/
theorem storable_messages (a : Arguments) (verbose : Bool) {bytes : List UInt8}
    (hbytes : bytes.length < UInt64.size) :
    ∀ m ∈ messages (a.report verbose bytes), m.Storable := by
  have hlines : (Line.ofBytes bytes).length ≤ Outcome.maxCount :=
    (Line.length_ofBytes_le bytes).trans (Nat.le_pred_of_lt hbytes)
  rw [report_eq]
  split
  · exact (parseBuild_countsUpTo ..).storable hlines
  · exact (parseTranscript_countsUpTo ..).storable hlines

/-- **A run is undisturbed**: while latexmk keeps watching, no ledger is saved into its
transcript. -/
def Undisturbed (a : Arguments) (s : FileStore) : Prop :=
  a.watching = true → ∀ cache, (a.effective s).marksCache = some cache → a.Apart s cache.toList

/-- **What a run parses agrees**, and it is the transcript if the run is undisturbed. Where the
store is disturbed while latexmk is watched, the reports are those of a transcript that ends
earlier. -/
theorem exists_parse (hopens : a.transcript? standardInput s = some bytes) :
    ∃ r updates s',
      parse (FileStore.files standardInput) a (a.effective s) bytes s = ((r, updates), s') ∧
      r.Agrees ∧ (a.Undisturbed s → r = a.report (a.effective s).verbose bytes) := by
  cases hcache : (a.effective s).marksCache with
  | none =>
    exact ⟨_, _, _, parse_of_none hcache a standardInput bytes s, agrees_report .., fun _ => rfl⟩
  | some cache =>
    cases hw : a.watching with
    | false => exact ⟨_, _, _, parse_of_not_watching hcache hw, agrees_report .., fun _ => rfl⟩
    | true =>
      by_cases hapart : a.Apart s cache.toList
      · exact ⟨_, _, _, parse_of_marksCache hcache hopens hapart, agrees_report .., fun _ => rfl⟩
      · -- the transcript may change, and the parse is one of latexmk all the same
        obtain ⟨w, updates, s', hrun, hb, hs⟩ := Watch.keeps_run
          (Build.keeps_balanced a.master true) standardInput (a.lookAgain standardInput bytes)
          (max bytes.length fileLimit) (.load (s.content? cache.toList))
          (w := .start a.master) ⟨Log.balanced_empty true, Build.sumsUp_empty⟩ s
        refine ⟨w.report, updates, s', ?_, Report.agrees_of_balanced hb hs _, fun h => ?_⟩
        · rw [parse_of_watching hcache hw, hrun]
        · exact absurd (h hw cache hcache) hapart

/-- **The output of a run tells its exit code.** In JSON it is a sequence of lines, one for each
message of the parse and one for the summary, which is the last and the only one. The lines are read
back as the messages, since their counts can be stored; the summary has the counts of the messages
before it, and at least one run; and the exit code is the one that belongs to it. What is parsed is
the transcript, unless a ledger is saved into it meanwhile. What is written is split at its line
feeds, each line is read back, and the counts in the last one are those that the exit code is made
from. -/
theorem json_tells_exitCode (h : a.Starts standardInput s bytes linker)
    (hjson : (a.effective s).format = .json) :
    ∃ (r : Report) (finish : Finish) (s' : FileStore),
      a.run (FileStore.files standardInput) s = (.ok finish, s') ∧
      parse (FileStore.files standardInput) a (a.effective s) bytes s
        = ((r, finish.updates), s') ∧
      (a.Undisturbed s → r = a.report (a.effective s).verbose bytes) ∧
      (let said := r.messages ++ [.summary r.outcome r.runs]
      let lines := said.map fun m => m.toJson.compact
      finish.output.splitOn '\n' = lines ++ [[]] ∧
      ((∀ m ∈ said, m.Storable) → lines.map (decode Message.ofJson?) = said.map some) ∧
      (a.Undisturbed s → bytes.length < UInt64.size → ∀ m ∈ said, m.Storable)) ∧
      (∀ m ∈ r.messages, ∀ outcome runs, m ≠ .summary outcome runs) ∧
      r.outcome.warnings = r.messages.countP Message.isWarning ∧
      r.outcome.errors
        = r.messages.countP Message.isError + r.messages.countP Message.isFreshFatal ∧
      1 ≤ r.runs ∧
      finish.exitCode = if r.outcome.fatal then 3 else if 0 < r.outcome.errors then 2
        else if 0 < r.outcome.warnings then 1 else 0 := by
  obtain ⟨r, updates, s', hparse, hagrees, hr⟩ := exists_parse h.opens
  have hrun := run_of_starts h
  rw [hparse, hjson] at hrun
  refine ⟨r, _, s', hrun, hparse, hr, ⟨Format.splitOn_output_json _ _, Message.map_decode,
    fun hundisturbed hbytes => ?_⟩, hagrees.unsummed, hagrees.warnings, hagrees.errors,
    hagrees.runs, rfl⟩
  rw [hr hundisturbed]
  exact a.storable_messages _ hbytes

/-- A run of BibTeX on the standard input. -/
theorem json_tells_exitCode_bibtex :
    let a : Arguments := ⟨some .bibtex, none, false, false, some .json, none, none, none⟩
    let r := a.report false [0x61]
    a.Starts [0x61] .empty [0x61] .standard ∧ (a.effective .empty).format = .json ∧
      ∃ finish s', a.run (FileStore.files [0x61]) .empty = (.ok finish, s') ∧
        (finish.output.splitOn '\n').dropLast.map (decode Message.ofJson?)
          = (r.messages ++ [Message.summary r.outcome r.runs]).map some := by
  intro a r
  have h : a.Starts [0x61] .empty [0x61] .standard :=
    ⟨rfl, rfl, show Linker.named "txmt".toList = _ from rfl⟩
  have hundisturbed : a.Undisturbed .empty := fun hw => Bool.noConfusion hw
  obtain ⟨r', finish, s', hrun, -, hr, ⟨hlines, hread, hstorable⟩, -⟩ :=
    json_tells_exitCode h rfl
  obtain rfl : r' = r := hr hundisturbed
  refine ⟨h, rfl, finish, s', hrun, ?_⟩
  rw [hlines, List.dropLast_concat]
  exact hread (hstorable hundisturbed (by decide))

end Arguments

end TexTranscript
