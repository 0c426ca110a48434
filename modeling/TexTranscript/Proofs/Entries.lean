import TexTranscript.Proofs.Attribution
import TexTranscript.Proofs.SourceNames

/-!
# Which file a statement enters

A statement can enter several source files (`Typesetting.entries`): it has a name behind
`(./` for each of them. The parser looks at the first of them only. It is the one that is
reported, and to which the warnings are attributed that follow. Nothing else that a
statement says makes the parser take another file for the one that is read.

## Main definitions

* `Typesetting.IsEntry` – a statement enters a file of this name.
* `Typesetting.entries` – the files that a statement enters, in order.
* `Log.StaysInFile` – no file was entered meanwhile.

## Main statements

* `Typesetting.classify_fileEntered_iff` – how the parser reads that a file is entered.
* `Typesetting.dispatch_entered`, `Typesetting.dispatch_stays` – what the parser then does, and
  what it does otherwise.
* `Typesetting.file_entries_recognized` – which statements enter a file.
* `Typesetting.first_entry_wins` – and which file they enter.
-/

namespace TexTranscript

namespace Typesetting

variable {ext name text : Text}

/-! ## The files that a statement enters -/

/-- What a text enters that begins with `(./`. -/
def entryAt? (ext text : Text) : Option Text :=
  (Text.after? "(./".toList text).bind (shortestName? ext)

/-- **The files that a statement enters**, in order: behind each `(./` the shortest name of a
source file, if one is opened there. -/
def entries (ext statement : Text) : List Text := statement.tails.filterMap (entryAt? ext)

/-- **A statement enters a file** of this name. -/
def IsEntry (ext statement name : Text) : Prop :=
  ∃ before behind, statement = before ++ "(./".toList ++ behind ∧ Opens ext name behind

variable {statement : Text}

theorem entryAt?_eq_some_iff : entryAt? ext text = some name ↔
    ∃ behind, text = "(./".toList ++ behind ∧ shortestName? ext behind = some name := by
  unfold entryAt?
  rw [Option.bind_eq_some_iff]
  exact exists_congr fun behind => and_congr_left fun _ => Text.after?_eq_some_iff

/-- What is listed as an entry is one. -/
theorem isEntry_of_mem_entries (h : name ∈ entries ext statement) : IsEntry ext statement name := by
  obtain ⟨text, htext, hname⟩ := List.mem_filterMap.1 h
  obtain ⟨before, rfl⟩ := (List.mem_tails _ _).1 htext
  obtain ⟨behind, rfl, hshortest⟩ := entryAt?_eq_some_iff.1 hname
  exact ⟨before, behind, (List.append_assoc ..).symm, (shortestName?_eq_some_iff.1 hshortest).1⟩

/-- Where a file is entered, there is an entry. The name that is entered there need not be listed,
since a shorter one may stand in its place. -/
theorem entries_ne_nil (h : IsEntry ext statement name) : entries ext statement ≠ [] := by
  obtain ⟨before, behind, rfl, hopens⟩ := h
  obtain ⟨shortest, hshortest⟩ : ∃ shortest, shortestName? ext behind = some shortest := by
    rw [← Option.ne_none_iff_exists']
    exact fun hnone => shortestName?_eq_none_iff.1 hnone name hopens
  refine List.ne_nil_of_mem (a := shortest) (List.mem_filterMap.2 ⟨"(./".toList ++ behind, ?_, ?_⟩)
  · exact (List.mem_tails _ _).2 ⟨before, (List.append_assoc ..).symm⟩
  · exact entryAt?_eq_some_iff.2 ⟨behind, rfl, hshortest⟩

/-- A plus sign stands for itself, and no name goes beyond a closing parenthesis. -/
example : entries "c++".toList "(./a.c++ (./a.cc) (./b.tex".toList
    = ["a.c++".toList, "b.tex".toList] := by decide

/-- What the rule for source files captures of a text that begins with `(./`. -/
def capturedAt? (ext text : Text) : Option (List Text) :=
  (Text.after? "(./".toList text).bind fun behind =>
    (shortestName? ext behind).map fun name => [behind.take (name.length + 1)]

/-- Nothing is entered where the rule for source files captures nothing. -/
theorem entryAt?_of_capturedAt? (h : capturedAt? ext text = none) : entryAt? ext text = none := by
  rw [Option.eq_none_iff_forall_ne_some]
  intro name hname
  obtain ⟨behind, rfl, hshortest⟩ := entryAt?_eq_some_iff.1 hname
  unfold capturedAt? at h
  rw [Text.after?_eq_some_iff.2 rfl, Option.bind_some, hshortest] at h
  exact absurd h (Option.some_ne_none _)

/-- What the pattern captures is searched for at each place of the text in turn. -/
theorem captures?_fileEntry (hext : '.' ∉ ext) (t : Text) :
    (fileEntry ext).captures? t = (Pattern.stops .any t).findSome? (capturedAt? ext) := by
  rw [captures?_eq_searchFewest, Pattern.searchFewest_eq]
  simp only [searchFewest_skipEnding hext]
  rfl

end Typesetting

/-- White space at the end of a text is stripped. -/
theorem Text.stripBy_concat {p : Char → Bool} {c : Char} (hc : p c = true) (t : Text) :
    stripBy p (t ++ [c]) = stripBy p t := by
  unfold stripBy
  rw [List.dropWhile_append]
  split
  · next h =>
    rw [List.isEmpty_iff.1 h, List.dropWhile_cons_of_pos hc]
    rfl
  · rw [List.reverse_append, List.reverse_singleton, List.singleton_append,
      List.dropWhile_cons_of_pos hc]

namespace Typesetting

/-- The gap behind a name does not count. -/
theorem sourceName_take (name : Text) {rest : Text} (hgap : AtGap rest) :
    sourceName ((name ++ rest).take (name.length + 1)) = sourceName name := by
  cases rest with
  | nil => rw [List.append_nil, List.take_of_length_le (Nat.le_succ _)]
  | cons c rest =>
    obtain rfl := hgap.eq_space c rfl
    rw [List.take_append, List.take_of_length_le (Nat.le_succ _), Nat.add_sub_cancel_left]
    exact congrArg dropCurrentDir (Text.stripBy_concat (by decide) name)

/-- **The rule captures the first entry**, with the gap behind it. The search goes through the tails
of the statement from the front, and the list of entries is made of them in the same order, so the
first hit is the head of that list. -/
theorem exists_of_captures (hext : '.' ∉ ext) {groups : List Text}
    (h : (fileEntry ext).captures? statement = some groups) :
    ∃ first others captured, entries ext statement = first :: others ∧ groups = [captured] ∧
      sourceName captured = sourceName first := by
  rw [captures?_fileEntry hext, List.findSome?_eq_some_iff] at h
  obtain ⟨passed, text, more, hstops, hfound, hpassed⟩ := h
  obtain ⟨behind, hbehind, hfound⟩ := Option.bind_eq_some_iff.1 hfound
  obtain ⟨first, hfirst, rfl⟩ := Option.map_eq_some_iff.1 hfound
  obtain ⟨later, htails⟩ := Pattern.stops_prefix_tails .any statement
  rw [hstops, List.append_assoc] at htails
  have hentries : entries ext statement = first :: (more ++ later).filterMap (entryAt? ext) :=
    List.filterMap_eq_cons_iff.2 ⟨passed, text, more ++ later, htails.symm,
      fun u hu => entryAt?_of_capturedAt? (hpassed u hu),
      entryAt?_eq_some_iff.2 ⟨behind, Text.after?_eq_some_iff.1 hbehind, hfirst⟩, rfl⟩
  obtain ⟨-, rest, rfl, hgap⟩ := (shortestName?_eq_some_iff.1 hfirst).1
  exact ⟨first, _, _, hentries, rfl, sourceName_take first hgap⟩

/-- In a line that enters a file the rule for source files captures something. -/
theorem entries_eq_nil_of_captures (hext : '.' ∉ ext) (hline : '\n' ∉ statement)
    (h : (fileEntry ext).captures? statement = none) : entries ext statement = [] := by
  have hstops : Pattern.stops .any statement = statement.tails :=
    Pattern.stops_eq_tails (CharClass.forall_except_iff.2 hline)
  rw [captures?_fileEntry hext, hstops, List.findSome?_eq_none_iff] at h
  exact List.filterMap_eq_nil_iff.2 fun u hu => entryAt?_of_capturedAt? (h u hu)

/-! ## Which file is read -/

/-- The extension of the source files holds no dot. -/
theorem dot_notMem_extension (master : Text) : '.' ∉ extension master := by
  unfold extension
  rcases hext : FilePath.extension? master with _ | ext
  · decide
  obtain ⟨name, -, hname⟩ := Option.bind_eq_some_iff.1 hext
  unfold FilePath.splitAtDot at hname
  dsimp only at hname
  split at hname
  · exact absurd hname.symm (Option.some_ne_none ext)
  · obtain rfl := Option.some.inj hname
    intro hdot
    have hkept := List.mem_takeWhile_imp (List.mem_reverse.1 hdot)
    exact absurd hkept (by decide)

variable {master : Text}

/-- The reading never is that a file is entered. -/
def EntersNone (read : List Text → Option Finding) : Prop :=
  ∀ groups name, read groups ≠ some (.fileEntered name)

theorem entersNone_const {found : Finding} (h : ∀ name, found ≠ .fileEntered name) :
    EntersNone fun _ => some found :=
  fun _ name hread => h name (Option.some.inj hread)

theorem entersNone_readOne {found : Text → Finding}
    (h : ∀ text name, found text ≠ .fileEntered name) :
    EntersNone (readOne found) := by
  intro groups name hread
  unfold readOne at hread
  split at hread
  · next text => exact h text name (Option.some.inj hread)
  · exact absurd hread.symm (Option.some_ne_none _)

theorem entersNone_readError : EntersNone readError := by
  intro groups name hread
  unfold readError at hread
  split at hread
  · exact Finding.noConfusion (Option.some.inj hread)
  · exact absurd hread.symm (Option.some_ne_none _)

/-- No rule behind the one for source files reads that a file is entered. So if a file is entered,
it was the second rule that read it. -/
theorem rules_enterNone (ext : Text) : ∀ rule ∈ (rules ext).drop 2, EntersNone rule.read :=
  List.forall_iff_forall_mem.1
    ⟨entersNone_readOne nofun, entersNone_const nofun, entersNone_readOne nofun,
      entersNone_const nofun, entersNone_const nofun, entersNone_const nofun,
      entersNone_const nofun, entersNone_const nofun, entersNone_readError, entersNone_readError,
      entersNone_readError, entersNone_const nofun, fun groups name hread => by
        dsimp only at hread
        split at hread
        · exact Finding.noConfusion (Option.some.inj hread)
        · exact absurd hread.symm (Option.some_ne_none _),
      entersNone_const nofun, entersNone_const nofun⟩

/-- **A statement enters a file where the rule for source files captures a name**, unless it names
the document class. -/
theorem classify_fileEntered_iff : (engine master).classify statement = some (.fileEntered name) ↔
    Text.startsWith "Document Class".toList statement = false ∧
      (fileEntry (extension master)).captures? statement = some [name] := by
  have hclass := Rule.reading?_sign (.lit "Document Class") Finding.remark statement
  have hentry : (Rule.mk (fileEntry (extension master)) (readOne .fileEntered)).reading? statement
      = ((fileEntry (extension master)).captures? statement).bind (readOne .fileEntered) := rfl
  rw [Pattern.matchesStart_lit] at hclass
  show (List.findSome? _ (_ :: _ :: (rules (extension master)).drop 2)) = _ ↔ _
  rw [List.findSome?_cons, hclass, List.findSome?_cons, hentry]
  rcases Text.startsWith "Document Class".toList statement with _ | _
  · rcases hcaptures : (fileEntry (extension master)).captures? statement with _ | groups
    · refine iff_of_false (fun h => ?_) fun h => Option.some_ne_none _ h.2.symm
      obtain ⟨rule, hrule, h⟩ := List.exists_of_findSome?_eq_some h
      obtain ⟨groups, -, h⟩ := Option.bind_eq_some_iff.1 h
      exact rules_enterNone _ rule hrule groups name h
    · obtain ⟨captured, rfl⟩ := List.length_eq_one_iff.1 (Pattern.length_of_captures rfl hcaptures)
      simp [readOne]
  · exact iff_of_false (fun h => Finding.noConfusion (Option.some.inj h))
      fun h => Bool.noConfusion h.1

end Typesetting

/-- The entry is that a file was entered. -/
def ParseState.Entry.entersFile : ParseState.Entry → Bool
  | enterFile _ => true
  | _ => false

/-- **No file was entered meanwhile**: the state knows the same one, and no message says so. -/
structure Log.StaysInFile (log log' : Log) : Prop where
  currentFile : log'.state.currentFile = log.state.currentFile
  messages : ∃ ms, log'.messages = log.messages ++ ms ∧ ∀ m ∈ ms, m.entered? = none

namespace Log.StaysInFile

variable {log log' : Log}

theorem refl (log : Log) : log.StaysInFile log :=
  ⟨rfl, [], (List.append_nil _).symm, List.forall_mem_nil _⟩

theorem emit (h : log.StaysInFile log') {m : Message} (hm : m.entered? = none) :
    log.StaysInFile (log'.emit m) := by
  obtain ⟨ms, hms, hnone⟩ := h.messages
  refine ⟨h.currentFile, ms ++ [m], ?_, List.forall_mem_append.2
    ⟨hnone, List.forall_mem_singleton.2 hm⟩⟩
  show log'.messages ++ [m] = _
  rw [hms, List.append_assoc]

theorem record (h : log.StaysInFile log') {e : ParseState.Entry}
    (he : e.entersFile = false) : log.StaysInFile (log'.record e) := by
  refine ⟨?_, h.messages⟩
  rw [← h.currentFile]
  cases e with
  | enterFile path => exact Bool.noConfusion he
  | _ => rfl

end Log.StaysInFile

namespace Typesetting

variable {ν : Type} {statement : Text} {master : Text}

/-- A wrapped warning does not enter a file, whatever stands in the line that it takes. -/
theorem reactToWrapped_stays (log : Log) :
    (reactToWrapped master statement : Reaction ν Unit).Ensures
      (fun _ log' => log.StaysInFile log') log := by
  refine Reaction.ensures_bind.2 fun next => ?_
  cases next with
  | none => exact ((Log.StaysInFile.refl log).emit rfl).record rfl
  | some next =>
    rw [Reaction.Ensures]
    dsimp only
    split
    · exact (((Log.StaysInFile.refl log).record rfl).emit rfl).record rfl
    · exact ((Log.StaysInFile.refl log).emit rfl).record rfl

/-- A runaway argument does not enter a file, whatever stands in the line that it takes. -/
theorem reactToRunaway_stays (log : Log) :
    (reactToRunaway statement : Reaction ν Unit).Ensures
      (fun _ log' => log.StaysInFile log') log := by
  refine Reaction.ensures_bind.2 (show Reaction.Ensures _ _ _ from fun next => ?_)
  have herror := ((Log.StaysInFile.refl log).emit (m := .error (String.ofList statement) none)
    rfl).record (e := .count .error) rfl
  cases next with
  | none => exact herror
  | some next =>
    show (if _ then _ else _ : Reaction ν Unit).Ensures _ _
    split
    · exact (herror.emit rfl).record rfl
    · exact herror.emit rfl

/-- **Nothing else that a statement says** makes the parser take another file for the one that is
read. There is one case for each thing that can be read off a statement. -/
theorem react_stays {found : Finding} (h : ∀ name, found ≠ .fileEntered name) (memory : Unit)
    (log : Log) : (react master found statement memory : Reaction ν Unit).Ensures
      (fun _ log' => log.StaysInFile log') log := by
  have hlog := Log.StaysInFile.refl log
  cases found with
  | fileEntered name => exact absurd rfl (h name)
  | remark => exact hlog.emit rfl
  | inclusion path => exact hlog.emit rfl
  | warning line => exact ((hlog.record rfl).emit rfl).record rfl
  | wrappedWarning => exact reactToWrapped_stays log
  | formatWarning => exact hlog.emit rfl
  | error file line description =>
    show (if _ then _ else _ : Reaction ν Unit).Ensures _ _
    split
    · exact (((hlog.record rfl).emit rfl).record rfl).record rfl
    · exact ((hlog.record rfl).emit rfl).record rfl
  | runaway => exact reactToRunaway_stays log
  | transcript name => exact (hlog.emit rfl).record rfl
  | alert =>
    show (if _ then _ else _ : Reaction ν Unit).Ensures _ _
    split
    · exact (hlog.emit rfl).record rfl
    · exact (hlog.emit rfl).record rfl
  | fatal => exact ((hlog.emit rfl).record rfl).record rfl

variable {R : Type} [LineSource R] {name : Text}

/-- A statement that does not enter a file leaves the engine in the file that it is in. -/
theorem dispatch_stays (h : ∀ name, (engine master).classify statement ≠ some (.fileEntered name))
    (verbose : Bool) (p : Grammar.Position R Unit) :
    p.scope.log.StaysInFile ((engine master).dispatch verbose statement p).scope.log := by
  unfold Grammar.dispatch
  split
  · next found hc =>
    have hne : ∀ name, found ≠ .fileEntered name := fun name hname => h name (hname ▸ hc)
    exact Reaction.run_ensures verbose (react_stays hne p.memory p.scope.log)
  · cases verbose with
    | false => exact .refl _
    | true =>
      show p.scope.log.StaysInFile (p.scope.emit _).log
      rw [Scope.log_emit]
      exact (Log.StaysInFile.refl _).emit rfl

/-- A statement that enters a file makes it the file that the engine is in, says so, and does
nothing else. -/
theorem dispatch_entered (h : (engine master).classify statement = some (.fileEntered name))
    (verbose : Bool) (p : Grammar.Position R Unit) :
    ((engine master).dispatch verbose statement p).scope.log =
      (p.scope.log.record (.enterFile (String.ofList (sourceName name)))).emit
        (.fileEntered (String.ofList (sourceName name))) := by
  unfold Grammar.dispatch
  rw [h]
  exact Scope.log_emit _ _

/-- Of a statement that enters a file it is said which one, and nothing else. -/
theorem said_entered (h : (engine master).classify statement = some (.fileEntered name))
    (verbose : Bool) (p : Grammar.Position R Unit) :
    ((engine master).turn verbose statement p).said
      = [.fileEntered (String.ofList (sourceName name))] :=
  Grammar.said_eq (congrArg Log.messages (dispatch_entered h verbose p))

/-- Of a statement that enters no file it is not said that it does. -/
theorem fileEntered_notMem_said
    (h : ∀ name, (engine master).classify statement ≠ some (.fileEntered name))
    (verbose : Bool) (p : Grammar.Position R Unit) (path : String) :
    .fileEntered path ∉ ((engine master).turn verbose statement p).said := by
  obtain ⟨ms, hms, hnone⟩ := (dispatch_stays h verbose p).messages
  rw [Grammar.said_eq hms]
  exact fun hmem => Option.some_ne_none _ (hnone _ hmem)

/-- A line that enters a file is read as such, unless it names the document class. -/
theorem exists_classify_of_isEntry (hline : '\n' ∉ statement)
    (hdoc : Text.startsWith "Document Class".toList statement = false)
    (h : IsEntry (extension master) statement name) :
    ∃ captured, (engine master).classify statement = some (.fileEntered captured) := by
  rcases hcaptures : (fileEntry (extension master)).captures? statement with _ | groups
  · exact absurd (entries_eq_nil_of_captures (dot_notMem_extension master) hline hcaptures)
      (entries_ne_nil h)
  · obtain ⟨captured, rfl⟩ := List.length_eq_one_iff.1 (Pattern.length_of_captures rfl hcaptures)
    exact ⟨captured, classify_fileEntered_iff.2 ⟨hdoc, hcaptures⟩⟩

/-- **The name that is read** is that of the first entry. The rule captures a name with its gap, and
the gap is gone when the name has been trimmed. -/
theorem exists_entries_of_classify
    (h : (engine master).classify statement = some (.fileEntered name)) :
    ∃ first others, entries (extension master) statement = first :: others ∧
      sourceName name = sourceName first := by
  obtain ⟨first, others, captured, hentries, hname, hsource⟩ :=
    exists_of_captures (dot_notMem_extension master) (classify_fileEntered_iff.1 h).2
  obtain rfl := List.singleton_inj.1 hname
  exact ⟨first, others, hentries, hsource⟩

/-- **File entries are recognized exactly.** Let a statement be a single line that does not begin
with `Document Class`. Then it is said of it that a file is entered just if there is the name of a
source file in it, between `(./` and a gap; whatever characters there are in the extension of the
master document, they stand for themselves. Of any statement it is only said with the path of such a
name, which then is that of the current file. And a statement that begins with `Document Class`, or
that enters no file, leaves the current file as it is. One direction comes from the rule that was
used, and the other from its being the second of the table: only the one for the document class
comes before it. -/
theorem file_entries_recognized (master : Text) (verbose : Bool) (p : Grammar.Position R Unit)
    (statement : Text) :
    ('\n' ∉ statement → Text.startsWith "Document Class".toList statement = false →
      ((∃ path, .fileEntered path ∈ ((engine master).turn verbose statement p).said) ↔
        ∃ name, IsEntry ((FilePath.extension? master).getD "tex".toList) statement name)) ∧
    (∀ path, .fileEntered path ∈ ((engine master).turn verbose statement p).said →
      Text.startsWith "Document Class".toList statement = false ∧
      (∃ name, IsEntry ((FilePath.extension? master).getD "tex".toList) statement name ∧
        path = String.ofList (sourceName name)) ∧
      ((engine master).dispatch verbose statement p).scope.state.currentFile = some path) ∧
    (Text.startsWith "Document Class".toList statement = true ∨
        (∀ name, ¬IsEntry ((FilePath.extension? master).getD "tex".toList) statement name) →
      ((engine master).dispatch verbose statement p).scope.state.currentFile
        = p.scope.state.currentFile) := by
  -- what is entered is decided by the rule that classifies the statement
  by_cases hentered : ∃ name, (engine master).classify statement = some (.fileEntered name)
  · obtain ⟨name, hname⟩ := hentered
    obtain ⟨first, others, hentries, hsource⟩ := exists_entries_of_classify hname
    have hdoc := (classify_fileEntered_iff.1 hname).1
    have hentry : IsEntry (extension master) statement first :=
      isEntry_of_mem_entries (hentries ▸ List.mem_cons_self)
    have hcurrent : ((engine master).dispatch verbose statement p).scope.state.currentFile
        = some (String.ofList (sourceName name)) :=
      congrArg (·.state.currentFile) (dispatch_entered hname verbose p)
    rw [said_entered hname]
    refine ⟨fun _ _ => ⟨fun _ => ⟨first, hentry⟩, fun _ => ⟨_, List.mem_singleton.2 rfl⟩⟩,
      fun path hpath => ?_, ?_⟩
    · obtain rfl := Message.fileEntered.inj (List.mem_singleton.1 hpath)
      exact ⟨hdoc, ⟨first, hentry, congrArg String.ofList hsource⟩, hcurrent⟩
    · rintro (hdoc' | hnone)
      · exact absurd (hdoc.symm.trans hdoc') Bool.false_ne_true
      · exact absurd hentry (hnone first)
  · rw [not_exists] at hentered
    have hsilent := fileEntered_notMem_said hentered verbose p
    refine ⟨fun hline hdoc => ⟨?_, ?_⟩, fun path hpath => absurd hpath (hsilent path),
      fun _ => (dispatch_stays hentered verbose p).currentFile⟩
    · rintro ⟨path, hpath⟩
      exact absurd hpath (hsilent path)
    · rintro ⟨name, hentry⟩
      obtain ⟨captured, hcaptured⟩ := exists_classify_of_isEntry hline hdoc hentry
      exact absurd hcaptured (hentered captured)

/-- What is said of a warning with a line number. -/
theorem said_warning {line : Text} (h : (engine master).classify statement = some (.warning line))
    (verbose : Bool) {p : Grammar.Position R Unit} {path : String}
    (hpath : p.scope.state.currentFile = some path) :
    ((engine master).turn verbose statement p).said
      = [.warning (String.ofList statement) (some ⟨path, lineNumber line⟩)] := by
  refine Grammar.said_eq ?_
  unfold Grammar.dispatch
  rw [h]
  show (p.scope.messages.push (.warning (String.ofList statement)
    (some ⟨p.scope.state.currentFile.getD (String.ofList (sourceName master)),
      lineNumber line⟩))).toList = _
  rw [hpath, Array.toList_push]
  rfl

/-- **The first entry of a statement wins.** Whatever else a statement enters, only its first file
is reported and becomes the current one, so that a warning behind it that has a line number is
attributed to this file. This is the last file that the statement enters just if both have the same
path, as they have if there is no other. The lazy repetition in front of the pattern gives the first
place at which the rest of it matches, and the statement is not looked at again behind that. -/
theorem first_entry_wins {master statement name : Text}
    (h : (engine master).classify statement = some (.fileEntered name)) (verbose : Bool)
    (p : Grammar.Position R Unit) :
    ∃ first others, entries (extension master) statement = first :: others ∧
      ((engine master).turn verbose statement p).said
        = [.fileEntered (String.ofList (sourceName first))] ∧
      ((engine master).dispatch verbose statement p).scope.state.currentFile
        = some (String.ofList (sourceName first)) ∧
      (∀ warned line, (engine master).classify warned = some (.warning line) →
        ((engine master).turn verbose warned ((engine master).dispatch verbose statement p)).said
          = [.warning (String.ofList warned)
              (some ⟨String.ofList (sourceName first), lineNumber line⟩)]) ∧
      ∀ last, (first :: others).getLast? = some last →
        (((engine master).dispatch verbose statement p).scope.state.currentFile
          = some (String.ofList (sourceName last)) ↔ sourceName last = sourceName first) := by
  obtain ⟨first, others, hentries, hsource⟩ := exists_entries_of_classify h
  have hcurrent : ((engine master).dispatch verbose statement p).scope.state.currentFile
      = some (String.ofList (sourceName first)) := by
    rw [← hsource]
    exact congrArg (·.state.currentFile) (dispatch_entered h verbose p)
  refine ⟨first, others, hentries, ?_, hcurrent,
    fun warned line hw => said_warning hw verbose hcurrent, fun last _ => ?_⟩
  · rw [said_entered h, hsource]
  · rw [hcurrent, Option.some_inj, String.ofList_inj]
    exact eq_comm

/-- A statement that enters two files is read as one that enters a file. -/
theorem first_entry_wins_of_two :
    (engine "main.tex".toList).classify "** (./a.tex (./b.tex".toList
        = some (.fileEntered "a.tex ".toList) ∧
      ∃ first others, entries (extension "main.tex".toList) "** (./a.tex (./b.tex".toList
          = first :: others ∧
        ((engine "main.tex".toList).dispatch false "** (./a.tex (./b.tex".toList
            ((engine "main.tex".toList).begin ([] : List Line))).scope.state.currentFile
          = some (String.ofList (sourceName first)) := by
  have hentered : (engine "main.tex".toList).classify "** (./a.tex (./b.tex".toList
      = some (.fileEntered "a.tex ".toList) := by decide
  obtain ⟨first, others, hentries, -, hcurrent, -⟩ := first_entry_wins hentered false
    ((engine "main.tex".toList).begin ([] : List Line))
  exact ⟨hentered, first, others, hentries, hcurrent⟩

/-- Not the last entry wins: here the second file is opened within the first one, and the parser
goes on as if the engine still read the first. -/
theorem second_entry_ignored :
    entries (extension "main.tex".toList) "(./a.tex (./b.tex".toList
        = ["a.tex".toList, "b.tex".toList] ∧
      ((engine "main.tex".toList).dispatch false "(./a.tex (./b.tex".toList
          ((engine "main.tex".toList).begin ([] : List Line))).scope.state.currentFile
        = some "a.tex" := by
  decide

end Typesetting

end TexTranscript
