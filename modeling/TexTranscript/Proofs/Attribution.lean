import TexTranscript.Proofs.Confinement
import TexTranscript.Proofs.Dialects
import TexTranscript.Proofs.Discipline
import TexTranscript.Proofs.Marks

/-!
# Which source file a message is about

Most warnings of an engine give a line only. They are attributed to the source file
that the engine entered last, and to the master document before it entered any. The
parser keeps this file in its state; but since it says of every file that it was
entered, the messages tell as well which file it is, and every located warning can be
checked against those in front of it.

Latexmk calls an engine more than once. Each time its parser starts afresh, so that in
the messages of latexmk only those of the same section count.

Errors are different: an engine prints the file itself, and so does the linter. But
whoever names a source file, it is named without any `./` in front, so that the same
file has one name wherever it is reported.

## Main definitions

* `Message.entered?`, `Message.sourceFiles` – the source files that a message names.
* `fileAfter` – the source file that an engine is in, as the messages tell.
* `Attributed`, `AttributedInSections` – every located warning names this file.
* `IsPlainPath` – a path without `./` in front.

## Main statements

* `Log.Course.attributed` – what an engine does keeps its warnings attributed.
* `Build.Tour.attributedInSections` – so they are in each section of latexmk.
* `Dialect.namesPlainly` – no tool names a source file with `./` in front.
* `warnings_name_file_entered` – the files of every parse.
-/

namespace TexTranscript

namespace Message

/-- The path of the source file that the message says was entered. -/
def entered? : Message → Option String
  | fileEntered path => some path
  | _ => none

/-- **The source files that the message names**: where something is located, or what was
entered. -/
def sourceFiles : Message → List String
  | warning _ (some loc) => [loc.file]
  | error _ (some loc) => [loc.file]
  | fileEntered path => [path]
  | _ => []

/-- The message is a warning with a location. -/
def isLocatedWarning : Message → Bool
  | warning _ (some _) => true
  | _ => false

variable {m : Message}

theorem mem_sourceFiles_of_entered? {path : String} (h : m.entered? = some path) :
    path ∈ m.sourceFiles := by
  cases m with
  | fileEntered path' => exact List.mem_singleton.2 (Option.some.inj h).symm
  | _ => exact absurd h (Option.some_ne_none path).symm

/-- A mark is in the source file that its message names. -/
theorem file_mem_sourceFiles {mark : Mark} (h : m.mark? = some mark) :
    mark.file ∈ m.sourceFiles := by
  unfold mark? at h
  split at h
  · obtain rfl := Option.some.inj h
    exact List.mem_singleton.2 rfl
  · obtain rfl := Option.some.inj h
    exact List.mem_singleton.2 rfl
  · exact absurd h (Option.some_ne_none mark).symm

theorem sourceFiles_of_isMention (h : m.IsMention) : m.sourceFiles = [] := by
  cases m with
  | warning text location => exact h.elim
  | error text location => exact h.elim
  | fileEntered path => exact h.elim
  | _ => rfl

theorem entered?_of_sourceFiles (h : m.sourceFiles = []) : m.entered? = none := by
  cases m with
  | fileEntered path => exact absurd h (List.cons_ne_nil _ _)
  | _ => rfl

theorem isLocatedWarning_of_sourceFiles (h : m.sourceFiles = []) : m.isLocatedWarning = false := by
  cases m with
  | warning text location =>
    cases location with
    | none => rfl
    | some loc => exact absurd h (List.cons_ne_nil _ _)
  | _ => rfl

end Message

/-! ## The file that an engine is in -/

/-- The path of the source file that was entered last, if one was. -/
def enteredLast? (messages : List Message) : Option String :=
  (messages.filterMap Message.entered?).getLast?

/-- **The source file that an engine is in** after some messages: the one that it entered last,
and the master document before it entered any. -/
def fileAfter (master : Text) (messages : List Message) : String :=
  (enteredLast? messages).getD (String.ofList (sourceName master))

/-- **Every located warning names the file** that the engine is in where it stands. -/
def Attributed (master : Text) (messages : List Message) : Prop :=
  ∀ before text loc after, messages = before ++ .warning text (some loc) :: after →
    loc.file = fileAfter master before

variable {master : Text} {messages : List Message} {m : Message}

/-- A file that is entered is the one that was entered last. -/
theorem enteredLast?_concat_some {path : String} (h : m.entered? = some path)
    (messages : List Message) : enteredLast? (messages ++ [m]) = some path := by
  unfold enteredLast?
  rw [List.filterMap_append]
  simp [h]

/-- No message but one that enters a file changes which was entered last. -/
theorem enteredLast?_concat_none (h : m.entered? = none) (messages : List Message) :
    enteredLast? (messages ++ [m]) = enteredLast? messages := by
  unfold enteredLast?
  rw [List.filterMap_append]
  simp [h]

/-- What stands in a list with one more at its end is that one, or stood in it before. -/
theorem split_concat {α : Type} {l before after : List α} {a b : α}
    (h : l ++ [a] = before ++ b :: after) :
    (l = before ∧ a = b) ∨ ∃ after', l = before ++ b :: after' := by
  rcases List.eq_nil_or_concat after with rfl | ⟨after', c, rfl⟩
  · obtain ⟨hl, ha⟩ := List.append_inj' h rfl
    exact .inl ⟨hl, List.singleton_inj.1 ha⟩
  · rw [List.concat_eq_append, ← List.cons_append, ← List.append_assoc] at h
    exact .inr ⟨after', (List.append_inj' h rfl).1⟩

theorem Attributed.concat (h : Attributed master messages)
    (hm : ∀ text loc, m = .warning text (some loc) → loc.file = fileAfter master messages) :
    Attributed master (messages ++ [m]) := by
  intro before text loc after hsplit
  rcases split_concat hsplit with ⟨rfl, hlast⟩ | ⟨after', hin⟩
  · exact hm text loc hlast
  · exact h before text loc after' hin

/-- A message that is no located warning can stand anywhere. -/
theorem Attributed.concat_of_not_located (h : Attributed master messages)
    (hm : m.isLocatedWarning = false) : Attributed master (messages ++ [m]) :=
  h.concat fun text loc hw => by
    rw [hw] at hm
    exact Bool.noConfusion hm

/-- **An engine keeps its warnings attributed**, and its state knows the file that was entered last.
The two facts are carried along together, for a warning gets its location from the state, and what
the messages say about the file is only known through the first of them. -/
theorem Log.Course.attributed {log : Log} (h : ({} : Log).Course (Permits master .latex) log) :
    log.state.currentFile = enteredLast? log.messages ∧ Attributed master log.messages := by
  have hempty : Attributed master [] := fun before text loc after hsplit => by simp at hsplit
  refine h.keeps (I := fun log => log.state.currentFile = enteredLast? log.messages ∧
    Attributed master log.messages) ⟨rfl, hempty⟩ fun {log d} hp ⟨hfile, hlog⟩ => ?_
  -- what neither enters a file nor is a located warning
  have other {m : Message} (he : m.entered? = none) (hw : m.isLocatedWarning = false) :
      log.state.currentFile = enteredLast? (log.messages ++ [m]) ∧
        Attributed master (log.messages ++ [m]) :=
    ⟨hfile.trans (enteredLast?_concat_none he _).symm, hlog.concat_of_not_located hw⟩
  cases hp with
  | @mention _ _ m hm =>
    have hfiles := Message.sourceFiles_of_isMention hm
    exact other (Message.entered?_of_sourceFiles hfiles)
      (Message.isLocatedWarning_of_sourceFiles hfiles)
  | @unlocated _ _ severity => cases severity with
    | warning => exact other rfl rfl
    | error => exact other rfl rfl
  | attributed =>
    refine ⟨hfile.trans (enteredLast?_concat_none rfl _).symm, hlog.concat fun text loc hw => ?_⟩
    -- the file that the state knows is the one that the messages tell
    obtain ⟨-, hloc⟩ := Message.warning.inj hw
    rw [← Option.some.inj hloc, hfile]
    rfl
  | fileLineError => exact other rfl rfl
  | fatal => exact other rfl rfl
  | enterFile =>
    exact ⟨(enteredLast?_concat_some rfl _).symm, hlog.concat_of_not_located rfl⟩
  | finish =>
    show _ = enteredLast? (log.messages ++ []) ∧ Attributed master (log.messages ++ [])
    rw [List.append_nil]
    exact ⟨hfile, hlog⟩

variable {R : Type} [LineSource R]

/-- **The warnings of an engine are attributed**, whatever its transcript is. -/
theorem attributed_latex (master : Text) (verbose : Bool) (source : R) :
    Attributed master (parseTranscript .latex master verbose source).messages := by
  have hlatex : Tool.latex ≠ .latexmk := nofun
  obtain ⟨log, hcourse, hof⟩ := parseTranscript_course hlatex master verbose source
  rw [hof.messages]
  exact hcourse.attributed.2

/-! ## Sections of latexmk -/

/-- **Every located warning stands in a section of an engine**, and names the file that the engine
is in since the banner of this section. -/
def AttributedInSections (master : Text) (messages : List Message) : Prop :=
  ∀ before text loc after, messages = before ++ .warning text (some loc) :: after →
    ∃ outside banner inside, before = outside ++ .toolStarted .latex banner :: inside ∧
      (∀ m ∈ inside, m.isEdge = false) ∧ loc.file = fileAfter master inside

/-- Where no warning is located, there is nothing to show. -/
theorem attributedInSections_of_forall (h : ∀ m ∈ messages, m.isLocatedWarning = false) :
    AttributedInSections master messages := by
  intro before text loc after hsplit
  have hm := h (.warning text (some loc)) (by simp [hsplit])
  exact Bool.noConfusion hm

/-- What is said before a section does not count in it. A warning in the second list keeps the
section that it has there, with more messages outside. -/
theorem AttributedInSections.append {messages' : List Message}
    (h : AttributedInSections master messages) (h' : AttributedInSections master messages') :
    AttributedInSections master (messages ++ messages') := by
  intro before text loc after hsplit
  rcases List.append_eq_append_iff.1 hsplit with ⟨between, rfl, hrest⟩ | ⟨between, hfront, hrest⟩
  · obtain ⟨outside, banner, inside, rfl, hedge, hfile⟩ := h' _ text loc after hrest
    exact ⟨messages ++ outside, banner, inside, (List.append_assoc ..).symm, hedge, hfile⟩
  · cases between with
    | nil =>
      rw [List.append_nil] at hfront
      obtain ⟨outside, banner, inside, hin, hedge, hfile⟩ :=
        h' [] text loc after (by simpa using hrest.symm)
      exact absurd hin (by simp)
    | cons m between =>
      obtain ⟨rfl, -⟩ := List.cons.inj hrest
      exact h before text loc between hfront

namespace Build

variable {verbose : Bool} {watching : Bool}

/-- Of the sections, only those of an engine locate warnings. -/
theorem isLocatedWarning_of_section {tool : Tool} (htool : tool ∈ sectionTools)
    (hne : tool ≠ .latex) (source : R) :
    ∀ m ∈ (parseTranscript tool master verbose source).messages, m.isLocatedWarning = false := by
  have hlatexmk : tool ≠ .latexmk := by
    rintro rfl
    simp [sectionTools] at htool
  obtain ⟨log, hcourse, hof⟩ := parseTranscript_course hlatexmk master verbose source
  have hsection : IsSection master tool log := ⟨htool, hcourse⟩
  have hmarks := hsection.marks_eq_nil hne
  rw [List.filterMap_eq_nil_iff] at hmarks
  intro m hm
  rw [hof.messages] at hm
  have hmark := hmarks m hm
  cases m with
  | warning text location =>
    cases location with
    | none => rfl
    | some loc => exact absurd hmark (Option.some_ne_none _)
  | _ => rfl

/-- **An item of a tour is attributed within itself.** What latexmk says is no located warning, and
in a section of an engine the messages between banner and end are those of a parse that stands
alone. -/
theorem Item.attributedInSections {item : Item} (h : item.IsProper master verbose) :
    AttributedInSections master (item.messages master verbose) := by
  cases item with
  | own message =>
    refine attributedInSections_of_forall (List.forall_mem_singleton.2 ?_)
    have hown : message.isOwnOfBuild = true := h
    cases message with
    | warning text location => exact Bool.noConfusion hown
    | _ => rfl
  | inSection tool banner behind =>
    by_cases htool : tool = .latex
    · subst htool
      intro before text loc after hsplit
      -- the warning is neither the message that opens the section nor the one that closes it
      cases before with
      | nil => exact Message.noConfusion (List.cons.inj hsplit).1
      | cons m before =>
        obtain ⟨rfl, hin⟩ := List.cons.inj hsplit
        rcases split_concat hin with ⟨-, hlast⟩ | ⟨after', hengine⟩
        · exact Message.noConfusion hlast
        · refine ⟨[], banner, before, rfl, fun m hm => h.2 m ?_,
            attributed_latex master verbose behind before text loc after' hengine⟩
          rw [hengine]
          exact List.mem_append_left _ hm
    · refine attributedInSections_of_forall ?_
      refine List.forall_mem_append.2 ⟨List.forall_mem_cons.2 ⟨rfl, ?_⟩,
        List.forall_mem_singleton.2 rfl⟩
      exact isLocatedWarning_of_section h.1 htool behind

/-- **On a tour of latexmk** every located warning is attributed within its section. Sections do not
reach into each other, so the items can be taken one at a time. -/
theorem Tour.attributedInSections {ls unread : List Line} {items : List Item}
    (h : Tour master verbose ls items unread) :
    AttributedInSections master (items.flatMap (Item.messages master verbose)) := by
  have hproper := h.proper
  clear h
  induction items with
  | nil => exact attributedInSections_of_forall (List.forall_mem_nil _)
  | cons item items ih =>
    obtain ⟨hitem, hitems⟩ := List.forall_mem_cons.1 hproper
    exact (Item.attributedInSections hitem).append (ih hitems)

end Build

/-! ## Paths without `./` in front -/

/-- **The path is plain**: it does not start with `./`. -/
def IsPlainPath (path : String) : Prop := Text.startsWith "./".toList path.toList = false

/-- What is left of a printed path is plain. -/
theorem isPlainPath_sourceName (printed : Text) :
    IsPlainPath (String.ofList (sourceName printed)) := by
  have htext : (String.ofList (sourceName printed)).toList = sourceName printed :=
    String.toList_ofList
  unfold IsPlainPath
  rw [htext]
  exact startsWith_dropCurrentDir (Text.trim printed)

/-- **A message names source files plainly.** -/
def Message.NamesPlainly (m : Message) : Prop := ∀ path ∈ m.sourceFiles, IsPlainPath path

theorem Message.namesPlainly_of_sourceFiles (h : m.sourceFiles = []) : m.NamesPlainly := by
  unfold NamesPlainly
  rw [h]
  exact List.forall_mem_nil _

/-- A message that names a source file as it was printed. -/
theorem Message.namesPlainly_of_printed {printed : Text}
    (h : m.sourceFiles = [String.ofList (sourceName printed)]) : m.NamesPlainly := by
  unfold NamesPlainly
  rw [h]
  exact List.forall_mem_singleton.2 (isPlainPath_sourceName printed)

/-- Marks are in files that are named plainly. -/
theorem isPlainPath_of_mem_marks (h : ∀ m ∈ messages, m.NamesPlainly) :
    ∀ mark ∈ messages.filterMap Message.mark?, IsPlainPath mark.file := by
  intro mark hmark
  obtain ⟨m, hm, hmark⟩ := List.mem_filterMap.1 hmark
  exact h m hm _ (Message.file_mem_sourceFiles hmark)

variable {σ ι ν : Type}

namespace Lint

/-- The linter names source files plainly. -/
theorem namesPlainly :
    (grammar : Grammar Unit Finding ν).Confined (fun _ => Message.NamesPlainly)
      (· = .finished) := by
  intro found statement memory
  have hquote : (quoteSource : Reaction ν Unit).Confined Message.NamesPlainly
      (found = .finished) := quoteSource_confined fun _ => Message.namesPlainly_of_sourceFiles rfl
  cases found with
  | remark => exact ⟨Message.namesPlainly_of_sourceFiles rfl, trivial⟩
  | problem severity file line description =>
    cases severity with
    | error =>
      exact ⟨nofun, Message.namesPlainly_of_printed rfl, nofun, hquote⟩
    | warning =>
      exact ⟨nofun, Message.namesPlainly_of_printed rfl, nofun, hquote⟩
  | finished => exact ⟨fun _ => rfl, trivial⟩

end Lint

namespace Typesetting

/-- The message is a located warning, or names source files plainly. -/
def Allows (m : Message) : Prop := m.isLocatedWarning = false → m.NamesPlainly

theorem allows_of_sourceFiles (h : m.sourceFiles = []) : Allows m :=
  fun _ => Message.namesPlainly_of_sourceFiles h

theorem allows_of_printed {printed : Text}
    (h : m.sourceFiles = [String.ofList (sourceName printed)]) : Allows m :=
  fun _ => Message.namesPlainly_of_printed h

theorem allows_warning (text : String) (location : Option Location) :
    Allows (.warning text location) := by
  cases location with
  | none => exact allows_of_sourceFiles rfl
  | some loc => exact nofun

/-- An engine names source files plainly, apart from its warnings, which name the file it is in. -/
theorem allows (master : Text) :
    (grammar master : Grammar Unit Finding ν).Confined (fun _ => Allows) Finding.IsLast := by
  intro found statement memory
  cases found with
  | remark => exact ⟨allows_of_sourceFiles rfl, trivial⟩
  | fileEntered name => exact ⟨nofun, allows_of_printed rfl, trivial⟩
  | inclusion path => exact ⟨allows_of_sourceFiles rfl, trivial⟩
  | warning line => exact fun state => ⟨nofun, nofun, nofun, trivial⟩
  | wrappedWarning => exact reactToWrapped_confined allows_warning
  | formatWarning => exact ⟨allows_of_sourceFiles rfl, trivial⟩
  | error file line description =>
    refine ⟨nofun, allows_of_printed rfl, nofun, ?_⟩
    split
    · exact ⟨nofun, trivial⟩
    · exact trivial
  | runaway =>
    exact reactToRunaway_confined (fun _ => allows_of_sourceFiles rfl)
      (fun _ => allows_of_sourceFiles rfl) fun _ => allows_of_sourceFiles rfl
  | transcript name =>
    exact ⟨allows_of_sourceFiles rfl, fun _ => ⟨name, rfl⟩, trivial⟩
  | alert =>
    dsimp only [grammar, react]
    split
    · exact ⟨allows_of_sourceFiles rfl, nofun, trivial⟩
    · exact ⟨allows_of_sourceFiles rfl, nofun, trivial⟩
  | fatal => exact ⟨allows_of_sourceFiles rfl, nofun, nofun, trivial⟩

end Typesetting

/-- **A warning names plainly** what was named plainly when it was entered. The file of a located
warning was entered before, by a message that is no warning and names it plainly, or it is the
master document, which is named like a printed path. -/
theorem Attributed.namesPlainly (h : Attributed master messages)
    (hothers : ∀ m ∈ messages, Typesetting.Allows m) : ∀ m ∈ messages, m.NamesPlainly := by
  intro m hm
  rcases hw : m.isLocatedWarning with _ | _
  · exact hothers m hm hw
  obtain ⟨text, loc, rfl⟩ : ∃ text loc, m = .warning text (some loc) := by
    cases m with
    | warning text location =>
      cases location with
      | none => exact Bool.noConfusion hw
      | some loc => exact ⟨text, loc, rfl⟩
    | _ => exact Bool.noConfusion hw
  obtain ⟨before, after, rfl⟩ := List.append_of_mem hm
  refine List.forall_mem_singleton.2 ?_
  rw [h before text loc after rfl]
  unfold fileAfter enteredLast?
  rcases hlast : (before.filterMap Message.entered?).getLast? with _ | path
  · exact isPlainPath_sourceName master
  · obtain ⟨m, hm, hpath⟩ := List.mem_filterMap.1 (List.mem_of_getLast? hlast)
    have hentered : m.isLocatedWarning = false := by
      cases m with
      | warning text location => exact absurd hpath (Option.some_ne_none _).symm
      | _ => rfl
    exact hothers m (List.mem_append_left _ hm) hentered path
      (Message.mem_sourceFiles_of_entered? hpath)

/-- Four tools name no source file at all. -/
theorem Log.Course.sourceFiles_eq_nil {tool : Tool} {log : Log}
    (h : ({} : Log).Course (Permits master tool) log) (hlatex : tool ≠ .latex)
    (hchktex : tool ≠ .chktex) : ∀ m ∈ log.messages, m.sourceFiles = [] := by
  refine h.keeps (I := fun log => ∀ m ∈ log.messages, m.sourceFiles = []) (List.forall_mem_nil _)
    fun {log d} hp hlog => List.forall_mem_append.2 ⟨hlog, ?_⟩
  cases hp with
  | mention hm => exact List.forall_mem_singleton.2 (Message.sourceFiles_of_isMention hm)
  | @unlocated _ _ severity => cases severity with
    | warning => exact List.forall_mem_singleton.2 rfl
    | error => exact List.forall_mem_singleton.2 rfl
  | attributed => exact absurd rfl hlatex
  | fileLineError => exact absurd rfl hlatex
  | finding => exact absurd rfl hchktex
  | fatal => exact List.forall_mem_singleton.2 rfl
  | enterFile => exact absurd rfl hlatex
  | finish => exact List.forall_mem_nil _

namespace Dialect

variable {verbose : Bool}

/-- **A parse of any tool but latexmk is a course** of what its tool permits. -/
theorem exists_course {d : Dialect} (hd : d.isTool = true)
    (hne : ∀ master watching, d ≠ .latexmk master watching) (verbose : Bool) (source : R) :
    ∃ P, ({} : Log).Course P (d.parse verbose source).scope.log := by
  cases d with
  | latex master => exact ⟨_, (Typesetting.performs master).keeps.parse verbose source⟩
  | bibtex => exact ⟨_, (Bibliography.bibtex_performs []).keeps.parse verbose source⟩
  | biber => exact ⟨_, (Bibliography.biber_performs []).keeps.parse verbose source⟩
  | makeindex extensions => exact ⟨_, (Index.performs [] extensions).keeps.parse verbose source⟩
  | makeglossaries query => exact ⟨_, (Glossary.performs []).keeps.parse verbose source⟩
  | chktex => exact ⟨_, (Lint.performs []).keeps.parse verbose source⟩
  | latexmk master watching => exact absurd rfl (hne master watching)
  | custom rules atEnd => exact Bool.noConfusion hd

theorem namesPlainly_latex (master : Text) (verbose : Bool) (source : R) :
    ∀ m ∈ ((Dialect.latex master).parse verbose source).scope.messages.toList,
      m.NamesPlainly := by
  have hothers := ((Typesetting.allows (ν := Unit) master).keeps
    (fun _ => Typesetting.allows_of_sourceFiles rfl)
    fun _ => ⟨Typesetting.allows_of_sourceFiles rfl, trivial⟩).parse verbose source
  exact (attributed_latex master verbose source).namesPlainly hothers

/-- A tool that has only mentions, counts and texts names no source file, and so none with `./`. -/
theorem namesPlainly_of_course {tool : Tool} {log : Log}
    (h : ({} : Log).Course (Permits [] tool) log) (hlatex : tool ≠ .latex)
    (hchktex : tool ≠ .chktex) : ∀ m ∈ log.messages, m.NamesPlainly :=
  fun m hm => Message.namesPlainly_of_sourceFiles (h.sourceFiles_eq_nil hlatex hchktex m hm)

/-- The tools that latexmk calls name source files plainly, and latexmk itself names none. -/
theorem namesPlainly_of_item {master : Text} {item : Build.Item}
    (h : item.IsProper master verbose) : ∀ m ∈ item.messages master verbose, m.NamesPlainly := by
  cases item with
  | own message =>
    refine List.forall_mem_singleton.2 (Message.namesPlainly_of_sourceFiles ?_)
    have hown : message.isOwnOfBuild = true := h
    cases message with
    | latexmk text => rfl
    | runSummary run errors warnings => rfl
    | verbatim text => rfl
    | _ => exact Bool.noConfusion hown
  | inSection tool banner behind =>
    have htool : tool ∈ Build.sectionTools := h.1
    have hedge {m : Message} (hm : m.sourceFiles = []) : m.NamesPlainly :=
      Message.namesPlainly_of_sourceFiles hm
    refine List.forall_mem_append.2 ⟨List.forall_mem_cons.2 ⟨hedge rfl, ?_⟩,
      List.forall_mem_singleton.2 (hedge rfl)⟩
    simp only [Build.sectionTools, List.mem_cons, List.not_mem_nil, or_false] at htool
    rcases htool with rfl | rfl | rfl | rfl
    · exact namesPlainly_latex master verbose behind
    · exact namesPlainly_of_course ((Bibliography.bibtex_performs []).keeps.parse verbose behind)
        (by decide) (by decide)
    · exact namesPlainly_of_course ((Bibliography.biber_performs []).keeps.parse verbose behind)
        (by decide) (by decide)
    · exact namesPlainly_of_course ((Index.performs [] _).keeps.parse verbose behind) (by decide)
        (by decide)

/-- **No tool names a source file with `./` in front.** An engine is the only tool that needs an
argument of its own, since its warnings take over a file that an earlier message has named. -/
theorem namesPlainly {d : Dialect} (hd : d.isTool = true) (verbose : Bool) (source : R) :
    ∀ m ∈ (d.parse verbose source).scope.messages.toList, m.NamesPlainly := by
  cases d with
  | latex master => exact namesPlainly_latex master verbose source
  | bibtex =>
    exact namesPlainly_of_course ((Bibliography.bibtex_performs []).keeps.parse verbose source)
      nofun nofun
  | biber =>
    exact namesPlainly_of_course ((Bibliography.biber_performs []).keeps.parse verbose source)
      nofun nofun
  | makeindex extensions =>
    exact namesPlainly_of_course ((Index.performs [] extensions).keeps.parse verbose source)
      nofun nofun
  | makeglossaries query =>
    exact namesPlainly_of_course ((Glossary.performs []).keeps.parse verbose source) nofun nofun
  | chktex =>
    exact ((Lint.namesPlainly (ν := Unit)).keeps
      (fun _ => Message.namesPlainly_of_sourceFiles rfl) fun _ => trivial).parse verbose source
  | latexmk master watching =>
    obtain ⟨items, htour, hmessages, -⟩ := Build.exists_tour master watching verbose source
    have hproper := htour.proper
    change (parseBuild master watching verbose source).messages = _ at hmessages
    show ∀ m ∈ (parseBuild master watching verbose source).messages, m.NamesPlainly
    rw [hmessages]
    intro m hm
    obtain ⟨item, hitem, hm⟩ := List.mem_flatMap.1 hm
    exact namesPlainly_of_item (hproper item hitem) m hm
  | custom rules atEnd => exact Bool.noConfusion hd

end Dialect

/-! ## Marks -/

/-- The marks of the last section of an engine are in files that are named plainly. -/
theorem isPlainPath_engineMarks (h : ∀ m ∈ messages, m.NamesPlainly) :
    ∀ mark ∈ engineMarks messages, IsPlainPath mark.file :=
  isPlainPath_of_mem_marks fun m hm => h m ((List.rtakeWhile_suffix _ _).subset hm)

/-- The marks of each round are in files that are named plainly. -/
theorem isPlainPath_rounds (h : ∀ m ∈ messages, m.NamesPlainly) :
    ∀ marks ∈ (roundsOf messages).map engineMarks, ∀ mark ∈ marks, IsPlainPath mark.file := by
  intro marks hmarks
  obtain ⟨before, hbefore, rfl⟩ := List.mem_map.1 hmarks
  have hfront : before <+: messages := (List.mem_inits _ _).1 (List.mem_filter.1 hbefore).1
  exact isPlainPath_engineMarks fun m hm => h m (hfront.subset hm)

/-- **No mark of latexmk is in a file with `./` in front**, nor one that it reports of a round. -/
theorem isPlainPath_parseBuild (master : Text) (watching verbose : Bool) (source : R) :
    (∀ mark ∈ (parseBuild master watching verbose source).marks, IsPlainPath mark.file) ∧
      ∀ report ∈ (parseBuild master watching verbose source).rounds,
        ∀ mark ∈ report.marks, IsPlainPath mark.file := by
  have hkeeps : (Build.grammar master watching).Keeps (Build.Mirrors watching) :=
    Build.keeps (Build.mirrors_empty watching) Build.Step.mirrors
  obtain ⟨memory, log, h, hlog, hrounds⟩ := parseBuild_keeps hkeeps verbose source
  have hplain : ∀ m ∈ (parseBuild master watching verbose source).messages, m.NamesPlainly :=
    Dialect.namesPlainly (d := .latexmk master watching) rfl verbose source
  rw [hlog.messages] at hplain
  refine ⟨?_, fun report hreport => ?_⟩
  · rw [hlog.marks, h.marks]
    exact isPlainPath_engineMarks hplain
  · rw [hrounds] at hreport
    have hmarks : report.marks ∈ memory.reports.map (·.marks) := List.mem_map_of_mem hreport
    rw [h.rounds] at hmarks
    cases watching with
    | true => exact isPlainPath_rounds hplain _ hmarks
    | false => exact absurd hmarks List.not_mem_nil

/-- **No tool marks a file with `./` in front.** Marks belong to messages, and messages name their
files plainly. -/
theorem Dialect.isPlainPath_marks {d : Dialect} (hd : d.isTool = true) (verbose : Bool)
    (source : R) : ∀ mark ∈ (d.parse verbose source).scope.state.marks, IsPlainPath mark.file := by
  by_cases hbuild : ∃ master watching, d = .latexmk master watching
  · obtain ⟨master, watching, rfl⟩ := hbuild
    exact (isPlainPath_parseBuild master watching verbose source).1
  · obtain ⟨P, hcourse⟩ := exists_course hd
      (fun master watching h => hbuild ⟨master, watching, h⟩) verbose source
    have hmarks : (d.parse verbose source).scope.state.marks
        = (d.parse verbose source).scope.messages.toList.filterMap Message.mark? :=
      hcourse.marks_eq
    rw [hmarks]
    exact isPlainPath_of_mem_marks (namesPlainly hd verbose source)

/-- **Located warnings name the file that was entered last.** In every parse of an engine, of every
source, the file of a located warning is the path of the last file that was entered before it, and
the master document, as a source file is named, if there was none. In a parse of latexmk, watching
or not, every located warning stands in a section of an engine, and only the files count that were
entered since the banner of this section. And no tool names a source file with `./` in front: not
as the place of an error or of a warning, not as a file that was entered, and not in a mark, be it
one of those in the end or one that latexmk reports of a round. -/
theorem warnings_name_file_entered (master : Text) (verbose : Bool) (source : R) :
    (∀ before text loc after,
      (parseTranscript .latex master verbose source).messages
          = before ++ .warning text (some loc) :: after →
        loc.file = ((before.filterMap Message.entered?).getLast?).getD
          (String.ofList (sourceName master))) ∧
    parseTranscript .latexmk master verbose source = parseBuild master false verbose source ∧
    (∀ watching before text loc after,
      (parseBuild master watching verbose source).messages
          = before ++ .warning text (some loc) :: after →
        ∃ outside banner inside, before = outside ++ .toolStarted .latex banner :: inside ∧
          (∀ m ∈ inside, m.isEdge = false) ∧
          loc.file = ((inside.filterMap Message.entered?).getLast?).getD
            (String.ofList (sourceName master))) ∧
    (∀ d : Dialect, d.isTool = true →
      (∀ m ∈ (d.parse verbose source).scope.messages.toList, ∀ path ∈ m.sourceFiles,
        Text.startsWith "./".toList path.toList = false) ∧
      ∀ mark ∈ (d.parse verbose source).scope.state.marks,
        Text.startsWith "./".toList mark.file.toList = false) ∧
    ∀ report ∈ (parseBuild master true verbose source).rounds, ∀ mark ∈ report.marks,
      Text.startsWith "./".toList mark.file.toList = false := by
  refine ⟨attributed_latex master verbose source, rfl, fun watching => ?_, fun d hd => ?_,
    (isPlainPath_parseBuild master true verbose source).2⟩
  · obtain ⟨items, htour, hmessages, -⟩ := Build.exists_tour master watching verbose source
    rw [hmessages]
    exact htour.attributedInSections
  · exact ⟨Dialect.namesPlainly hd verbose source, Dialect.isPlainPath_marks hd verbose source⟩

end TexTranscript
