import TexTranscript.Proofs.Biber
import TexTranscript.Proofs.Dialects
import TexTranscript.Proofs.Matches

/-!
# Messages without line breaks

A transcript is read line by line, and no line holds a line feed; nor does a statement, which is
put together of lines. So no text in a message holds one either, wherever it comes from: a
statement, what was captured of it, the line behind it, or both with a space between them; the name
of the master document; a path or a name that a parser remembers. Every cut that is made on the way
leaves characters out, and what is put in between is known.

What is remembered is kept free of line feeds along with the messages: the path of the source file
that was entered last, the transcript that Biber announced, and the types of glossaries.

## Main definitions

* `Message.strings`, `Message.Unbroken` – the texts of a message, and that they have no line feeds.
* `Reaction.Unbroken` – what a reaction emits and remembers has none, if the lines have none.
* `Grammar.Unbroken` – the same of a grammar.

## Main statements

* `Pattern.infix_of_captures` – what is captured stands in the text.
* `Reaction.Unbroken.run`, `Grammar.Unbroken.parse` – one reaction, and a whole parse.
* `Typesetting.unbroken`, `Build.unbroken` and so on – the tools.
* `Dialect.unbroken_parse` – the parses of all of them.
-/

namespace TexTranscript

/-! ## Cuts -/

namespace Text

/-- What is left of a text when its ends are stripped has its characters. -/
theorem stripBy_subset (p : Char → Bool) (t : Text) : stripBy p t ⊆ t := fun c hc => by
  have hback := (List.dropWhile_suffix p).subset (List.mem_reverse.1 hc)
  exact (List.dropWhile_suffix p).subset (List.mem_reverse.1 hback)

theorem trim_subset (t : Text) : trim t ⊆ t := stripBy_subset isBlank t

/-- What follows the last separator of a text has its characters. -/
theorem afterLast_subset (sep : Char) (t : Text) : afterLast sep t ⊆ t := fun _ hc =>
  List.mem_reverse.1 ((List.takeWhile_prefix _).subset (List.mem_reverse.1 hc))

end Text

/-- A path without the `./` in front is the end of the path. -/
theorem dropCurrentDir_suffix (p : Text) : dropCurrentDir p <:+ p := by
  fun_induction dropCurrentDir p with
  | case1 p ih => exact ih.trans ((List.suffix_cons '/' p).trans (List.suffix_cons '.' _))
  | case2 p _ => exact List.suffix_refl p

/-- The name of a source file has the characters of the printed path. -/
theorem sourceName_subset (printed : Text) : sourceName printed ⊆ printed := fun _ hc =>
  Text.trim_subset printed ((dropCurrentDir_suffix _).subset hc)

namespace FilePath

variable {p ext before name : Text}

/-- What is left of a reversed path without what trails behind its name is the end of it. -/
theorem dropTrailing_suffix (r : Text) : dropTrailing r <:+ r := by
  fun_induction dropTrailing r with
  | case1 r ih => exact ih.trans (List.suffix_cons '/' r)
  | case2 r ih => exact ih.trans ((List.suffix_cons '/' r).trans (List.suffix_cons '.' _))
  | case3 r _ _ => exact List.suffix_refl r

/-- The name of a path and what is in front of it have the characters of the path. -/
theorem splitName?_subset (h : splitName? p = some (before, name)) : before ⊆ p ∧ name ⊆ p := by
  have hback {c : Char} (hc : c ∈ dropTrailing p.reverse) : c ∈ p :=
    List.mem_reverse.1 ((dropTrailing_suffix _).subset hc)
  unfold splitName? at h
  dsimp only at h
  split at h
  · exact nomatch h
  · obtain ⟨rfl, rfl⟩ := Prod.mk.inj (Option.some.inj h)
    exact ⟨fun c hc => hback ((List.dropWhile_suffix _).subset (List.mem_reverse.1 hc)),
      fun c hc => hback ((List.takeWhile_prefix _).subset (List.mem_reverse.1 hc))⟩

/-- The name of a path has its characters. -/
theorem name?_subset (h : name? p = some name) : name ⊆ p := by
  obtain ⟨⟨before, name'⟩, hsplit, rfl⟩ := Option.map_eq_some_iff.1 h
  exact (splitName?_subset hsplit).2

/-- The stem of a name has its characters. -/
theorem splitAtDot_subset (name : Text) : (splitAtDot name).1 ⊆ name := by
  unfold splitAtDot
  dsimp only
  split
  · exact List.Subset.refl name
  · exact List.take_subset _ _

/-- To set an extension brings nothing but it and a dot. -/
theorem setExtension_subset (p ext : Text) : setExtension p ext ⊆ p ++ '.' :: ext := by
  unfold setExtension
  split
  · exact List.subset_append_left _ _
  · next before name hsplit =>
    obtain ⟨hbefore, hname⟩ := splitName?_subset hsplit
    refine List.append_subset.2 ⟨List.append_subset.2 ⟨?_, ?_⟩, ?_⟩
    · exact List.Subset.trans hbefore (List.subset_append_left _ _)
    · exact List.Subset.trans (splitAtDot_subset name)
        (List.Subset.trans hname (List.subset_append_left _ _))
    · split
      · exact List.nil_subset _
      · exact List.subset_append_right _ _

/-- **A path with another extension** has the characters of the two, and a dot. -/
theorem withExtension_subset (p ext : Text) : withExtension p ext ⊆ p ++ '.' :: ext := by
  unfold withExtension
  split
  · exact setExtension_subset p ext
  · next old _ =>
    refine List.Subset.trans (setExtension_subset _ ext) (List.append_subset.2 ⟨?_, ?_⟩)
    · exact List.Subset.trans (List.take_subset _ _) (List.subset_append_left _ _)
    · exact List.subset_append_right _ _

/-- A path with another extension has no line feed if neither of the two has one. -/
theorem lineFeed_notMem_withExtension (hp : '\n' ∉ p) (hext : '\n' ∉ ext) :
    '\n' ∉ withExtension p ext := by
  intro hm
  rcases List.mem_append.1 (withExtension_subset p ext hm) with hm | hm
  · exact hp hm
  · exact hext ((List.mem_cons.1 hm).resolve_left (by decide))

end FilePath

/-! ## What is captured -/

namespace Pattern

variable {p : Pattern} {t u rest : Text} {groups : List Text}

/-- The groups of a match capture parts of what is matched. -/
theorem Matches.isInfix_of_mem (h : p.Matches t groups rest) : ∀ u ∈ groups, u <:+: t := by
  induction p generalizing t groups rest with
  | literal s | quoted s | one c | many c | several c | fewest c | atEnd =>
    obtain ⟨-, rfl⟩ := h
    exact List.forall_mem_nil _
  | optional p ih =>
    rcases h with h | ⟨-, rfl⟩
    · exact ih h
    · exact List.forall_mem_nil _
  | seq p q ihp ihq =>
    obtain ⟨t₁, t₂, groups₁, groups₂, rfl, rfl, hp, hq⟩ := h
    exact List.forall_mem_append.2
      ⟨fun u hu => (ihp hp u hu).trans (List.prefix_append t₁ t₂).isInfix,
        fun u hu => (ihq hq u hu).trans (List.suffix_append t₁ t₂).isInfix⟩
  | alt p q ihp ihq =>
    rcases h with h | h
    · exact ihp h
    · exact ihq h
  | group p ih =>
    obtain ⟨inner, rfl, h⟩ := h
    exact List.forall_mem_append.2 ⟨ih h, List.forall_mem_singleton.2 (List.infix_refl t)⟩
  | bracket p ih => exact ih h

/-- **What is captured stands in the text.** -/
theorem infix_of_captures (h : p.captures? t = some groups) : ∀ u ∈ groups, u <:+: t := by
  obtain ⟨matched, rest, rfl, hmatched⟩ := exists_matches_of_captures h
  exact fun u hu => (hmatched.isInfix_of_mem u hu).trans (List.prefix_append matched rest).isInfix

end Pattern

/-! ## Messages -/

namespace Message

/-- **The texts of a message**, with the lines of an excerpt one by one. -/
def strings : Message → List String
  | info text => [text]
  | warning text location => text :: (location.map Location.file).toList
  | error text location => text :: (location.map Location.file).toList
  | fatal text => [text]
  | formatWarning text => [text]
  | verbatim text => [text]
  | excerpt lines => lines
  | latexmk text => [text]
  | toolStarted _ banner => [banner]
  | toolFinished _ => []
  | toolVersion _ version => [version]
  | fileEntered path => [path]
  | inclusion path => [path]
  | progress description file status => [description, file, status]
  | sorting status => [status]
  | artifact description path => [description, path]
  | transcript path => [path]
  | glossaryType name files => [name, files]
  | xindyRun glossary language => [glossary, language]
  | glossaryFinished name path => [name, path]
  | abnormalTermination log => [log]
  | runSummary _ _ _ => []
  | summary _ _ => []

/-- **No text of the message holds a line feed.** -/
def Unbroken (m : Message) : Prop := ∀ s ∈ m.strings, '\n' ∉ s.toList

end Message

variable {t u v : Text}

theorem lineFeed_notMem_of_subset (hu : u ⊆ t) (h : '\n' ∉ t) : '\n' ∉ u := fun hm => h (hu hm)

theorem lineFeed_notMem_ofList (h : '\n' ∉ t) : '\n' ∉ (String.ofList t).toList := by
  rwa [String.toList_ofList]

/-- A message of one text is without line feeds if the text is. -/
theorem unbroken_one (h : '\n' ∉ t) : ∀ s ∈ [String.ofList t], '\n' ∉ s.toList :=
  List.forall_mem_singleton.2 (lineFeed_notMem_ofList h)

/-- A message of two texts is without line feeds if both are. -/
theorem unbroken_two (h : '\n' ∉ t) (hu : '\n' ∉ u) :
    ∀ s ∈ [String.ofList t, String.ofList u], '\n' ∉ s.toList :=
  List.forall_mem_cons.2 ⟨lineFeed_notMem_ofList h, unbroken_one hu⟩

/-- A message of three texts is without line feeds if all of them are. -/
theorem unbroken_three (h : '\n' ∉ t) (hu : '\n' ∉ u) (hv : '\n' ∉ v) :
    ∀ s ∈ [String.ofList t, String.ofList u, String.ofList v], '\n' ∉ s.toList :=
  List.forall_mem_cons.2 ⟨lineFeed_notMem_ofList h, unbroken_two hu hv⟩

/-! ## Reactions -/

/-- The path of the current source file holds no line feed. -/
def ParseState.Unbroken (s : ParseState) : Prop := ∀ path ∈ s.currentFile, '\n' ∉ path.toList

/-- A path that is entered holds no line feed. -/
def ParseState.Entry.Unbroken : ParseState.Entry → Prop
  | .enterFile path => '\n' ∉ path.toList
  | _ => True

/-- A state in which something without line feeds is recorded has none. -/
theorem ParseState.Unbroken.record {s : ParseState} {e : ParseState.Entry} (hs : s.Unbroken)
    (he : e.Unbroken) : (s.record e).Unbroken := by
  cases e with
  | enterFile path => exact fun _ h => Option.some.inj h ▸ he
  | _ => exact hs

/-- What a nested parser emits has no line feeds, if the lines that it reads have none. -/
def Nested.Unbroken {ν : Type} (nested : Nested ν) : Prop :=
  ∀ (verbose : Bool) (ls : List Line), (∀ l ∈ ls, lineFeed ∉ l.bytes) →
    ∀ m ∈ (nested.parse verbose ls).messages.toList, m.Unbroken

/-- **A running parse has no line feeds** in what it has emitted, in what it knows, and in the
lines that are left. -/
structure Scope.Unbroken {R : Type} [LineSource R] (s : Scope R) : Prop where
  state : s.state.Unbroken
  messages : ∀ m ∈ s.messages.toList, m.Unbroken
  lines : ∀ l ∈ LineSource.lines s.unread, lineFeed ∉ l.bytes

namespace Scope.Unbroken

variable {R ν : Type} [LineSource R] {s : Scope R}

/-- A message without line feeds can be emitted. -/
theorem emit (hs : s.Unbroken) {m : Message} (hm : m.Unbroken) : (s.emit m).Unbroken where
  state := hs.state
  messages := by
    show ∀ m' ∈ (s.messages.push m).toList, m'.Unbroken
    rw [Array.toList_push]
    exact List.forall_mem_append.2 ⟨hs.messages, List.forall_mem_singleton.2 hm⟩
  lines := hs.lines

/-- What has no line feeds can be recorded. -/
theorem record (hs : s.Unbroken) {e : ParseState.Entry} (he : e.Unbroken) :
    (s.record e).Unbroken := ⟨hs.state.record he, hs.messages, hs.lines⟩

/-- Where lines were taken off, the others are left. -/
theorem withUnread (hs : s.Unbroken) {unread : R}
    (h : LineSource.lines unread ⊆ LineSource.lines s.unread) : (s.withUnread unread).Unbroken :=
  ⟨hs.state, hs.messages, fun l hl => hs.lines l (h hl)⟩

/-- A nested parser leaves nothing behind that has line feeds. -/
theorem takeOver (hs : s.Unbroken) {nested : Nested ν} (hn : nested.Unbroken) (verbose : Bool) :
    (s.takeOver (nested.parse verbose s.unread)).Unbroken where
  state := hs.state
  messages := by
    show ∀ m ∈ (s.messages ++ (nested.parse verbose s.unread).messages).toList, m.Unbroken
    have hsame : (nested.parse verbose s.unread).messages
        = (nested.parse verbose (LineSource.lines s.unread)).messages :=
      congrArg (·.messages) (nested.parse_overLines verbose s.unread)
    rw [Array.toList_append, hsame]
    exact List.forall_mem_append.2 ⟨hs.messages, hn verbose _ hs.lines⟩
  lines l hl := hs.lines l ((nested.reads verbose s.unread).lines_suffix.subset hl)

end Scope.Unbroken

namespace Reaction

variable {R ν α β : Type} [LineSource R] {Q : α → Prop} {r : Reaction ν α}

/-- **A reaction emits nothing with line feeds**, whatever the state is in which it is carried out
and whichever lines it meets with, as long as these have none; and its result has a property. -/
def Unbroken (Q : α → Prop) : Reaction ν α → Prop
  | done result => Q result
  | emit message next => message.Unbroken ∧ next.Unbroken Q
  | record entry next => entry.Unbroken ∧ next.Unbroken Q
  | inspect next => ∀ state : ParseState, state.Unbroken → (next state).Unbroken Q
  | lookAhead next => ∀ line : Option Text, (∀ t ∈ line, '\n' ∉ t) → (next line).Unbroken Q
  | delegate nested next => nested.Unbroken ∧ ∀ d, (next d).Unbroken Q

/-- The next line of a source whose lines have no line feeds has none. -/
theorem lineFeed_notMem_takeLine {unread : R}
    (h : ∀ l ∈ LineSource.lines unread, lineFeed ∉ l.bytes) :
    ∀ t ∈ (LineSource.takeLine unread).1, '\n' ∉ t := by
  have hline : (LineSource.takeLine unread).1 = (Line.take (LineSource.lines unread)).1 :=
    congrArg Prod.fst (LineSource.lines_takeLine unread)
  rw [hline]
  cases hls : LineSource.lines unread with
  | nil => exact fun t ht => nomatch ht
  | cons l ls =>
    intro t ht
    obtain rfl : l.text = t := Option.some.inj ht
    exact Utf8.lineFeed_notMem_decodeLossy (h l (hls ▸ List.mem_cons_self))

/-- **What a reaction leaves behind** has no line feeds. -/
theorem Unbroken.run (h : r.Unbroken Q) (verbose : Bool) {s : Scope R} (hs : s.Unbroken) :
    Q (r.run verbose s).1 ∧ (r.run verbose s).2.Unbroken := by
  induction r generalizing s with
  | done result => exact ⟨h, hs⟩
  | emit message next ih => exact ih h.2 (hs.emit h.1)
  | record entry next ih => exact ih h.2 (hs.record h.1)
  | inspect next ih => exact ih s.state (h s.state hs.state) hs
  | lookAhead next ih =>
    have hrest := (LineSource.Reads.nothing (r := s.unread)).line.lines_suffix.subset
    exact ih _ (h _ (lineFeed_notMem_takeLine hs.lines)) (hs.withUnread hrest)
  | delegate nested next ih => exact ih _ (h.2 _) (hs.takeOver h.1 verbose)

/-- In sequence, the second reaction starts from what the first one results in. -/
theorem Unbroken.bind {Q : β → Prop} {f : α → Reaction ν β}
    (h : r.Unbroken fun a => (f a).Unbroken Q) : (r.bind f).Unbroken Q := by
  induction r with
  | done result => exact h
  | emit message next ih => exact ⟨h.1, ih h.2⟩
  | record entry next ih => exact ⟨h.1, ih h.2⟩
  | inspect next ih => exact fun state hstate => ih state (h state hstate)
  | lookAhead next ih => exact fun line hline => ih line (h line hline)
  | delegate nested next ih => exact ⟨h.1, fun d => ih d (h.2 d)⟩

end Reaction

/-! ## Grammars -/

variable {σ ι ν ρ R : Type} [LineSource R]

/-- What a rule reads off texts without line feeds has a property. -/
def Rule.Yields (P : ι → Prop) (rule : Rule ι) : Prop :=
  ∀ groups : List Text, (∀ u ∈ groups, '\n' ∉ u) → ∀ found, rule.read groups = some found → P found

/-- A sign yields what it is a sign of. -/
theorem Rule.yields_sign {P : ι → Prop} (pattern : Pattern) {found : ι} (h : P found) :
    (Rule.sign pattern found).Yields P := fun _ _ _ hread => Option.some.inj hread ▸ h

namespace Grammar

/-- **A grammar emits nothing with line feeds**, and what it remembers keeps a property. -/
structure Unbroken (g : Grammar σ ι ν) (I : σ → Prop) : Prop where
  start : I g.start
  react : ∀ {statement : Text} {found : ι} {memory : σ}, '\n' ∉ statement →
    g.classify statement = some found → I memory → (g.react found statement memory).Unbroken I
  atEnd : ∀ {memory : σ}, I memory → (g.atEnd memory).Unbroken I

variable {g : Grammar σ ι ν} {I : σ → Prop} {P : ι → Prop}

/-- What is read off a statement without line feeds has a property that all rules yield. -/
theorem of_classify (hrules : ∀ rule ∈ g.rules, rule.Yields P) {statement : Text} {found : ι}
    (hfeed : '\n' ∉ statement) (h : g.classify statement = some found) : P found := by
  obtain ⟨rule, hrule, hreading⟩ := List.exists_of_findSome?_eq_some h
  obtain ⟨groups, hgroups, hread⟩ := Option.bind_eq_some_iff.1 hreading
  exact hrules rule hrule groups
    (fun u hu hm => hfeed ((Pattern.infix_of_captures hgroups u hu).subset hm)) found hread

/-- One statement leaves nothing behind that has line feeds. -/
theorem Unbroken.dispatch (h : g.Unbroken I) (verbose : Bool) {statement : Text}
    (hfeed : '\n' ∉ statement) {p : Position R σ} (hmemory : I p.memory)
    (hscope : p.scope.Unbroken) :
    I (g.dispatch verbose statement p).memory ∧ (g.dispatch verbose statement p).scope.Unbroken := by
  unfold Grammar.dispatch
  split
  · next found hc => exact (h.react hfeed hc hmemory).run verbose hscope
  · split
    · have hecho : (Message.verbatim (String.ofList statement)).Unbroken :=
        unbroken_one hfeed
      exact ⟨hmemory, hscope.emit hecho⟩
    · exact ⟨hmemory, hscope⟩

/-- **All statements, one after the other, leave nothing behind that has line feeds.** -/
theorem Unbroken.consume (h : g.Unbroken I) (verbose : Bool) {p : Position R σ}
    (hmemory : I p.memory) (hscope : p.scope.Unbroken) :
    I (g.consume verbose p).memory ∧ (g.consume verbose p).scope.Unbroken := by
  fun_induction Grammar.consume g verbose p with
  | case1 p _ => exact ⟨hmemory, hscope⟩
  | case2 p _ source hn =>
    have hrest := (LineSource.Reads.of_takeStatement hn).lines_suffix.subset
    exact ⟨hmemory, hscope.withUnread hrest⟩
  | case3 p _ statement source hn ih =>
    have hrest := (LineSource.Reads.of_takeStatement hn).lines_suffix.subset
    have hfeed := (Statement.lineFeed_notMem_next? (LineSource.next?_of_takeStatement_some hn)
      hscope.lines).1
    obtain ⟨hmemory', hscope'⟩ := h.dispatch verbose hfeed (p := p.withUnread source) hmemory
      (hscope.withUnread hrest)
    exact ih hmemory' hscope'

/-- **A parse leaves nothing behind that has line feeds**, if the lines that it reads have none. -/
theorem Unbroken.parse (h : g.Unbroken I) (verbose : Bool) {source : R}
    (hlines : ∀ l ∈ LineSource.lines source, lineFeed ∉ l.bytes) :
    (g.parse verbose (g.begin source)).scope.Unbroken := by
  have hbegin : (g.begin source).scope.Unbroken :=
    ⟨fun _ hpath => (nomatch hpath), List.forall_mem_nil _, hlines⟩
  obtain ⟨hmemory, hscope⟩ := h.consume verbose (p := g.begin source) h.start hbegin
  unfold Grammar.parse
  dsimp only
  split
  · exact hscope
  · exact ((h.atEnd hmemory).run verbose hscope).2

/-- A grammar that is called leaves nothing behind that has line feeds. -/
theorem Unbroken.nested (h : g.Unbroken I) (close : σ → ρ) : (g.nested close).Unbroken :=
  fun verbose _ hls => (h.parse verbose hls).messages

end Grammar

/-! ## Reactions that all tools have -/

namespace Reaction

variable {α : Type} {Q : Unit → Prop} {text : Text}

/-- Information without line feeds leaves none behind. -/
theorem unbroken_info (h : '\n' ∉ text) (hQ : Q ()) : (info text : Reaction ν Unit).Unbroken Q :=
  ⟨unbroken_one h, hQ⟩

/-- A warning without line feeds leaves none behind. -/
theorem unbroken_warning (h : '\n' ∉ text) (hQ : Q ()) :
    (warning text : Reaction ν Unit).Unbroken Q :=
  ⟨unbroken_one h, trivial, hQ⟩

/-- An error without line feeds leaves none behind. -/
theorem unbroken_error (h : '\n' ∉ text) (hQ : Q ()) :
    (error text : Reaction ν Unit).Unbroken Q :=
  ⟨unbroken_one h, trivial, hQ⟩

/-- A fatal error without line feeds leaves none behind. -/
theorem unbroken_fatal (h : '\n' ∉ text) (hQ : Q ()) :
    (fatal text : Reaction ν Unit).Unbroken Q :=
  ⟨unbroken_one h, trivial, trivial, hQ⟩

/-- A located warning leaves no line feeds behind if its text and its file have none. -/
theorem unbroken_locatedWarning {loc : Location} (h : '\n' ∉ text) (hfile : '\n' ∉ loc.file.toList)
    (hQ : Q ()) : (locatedWarning text loc : Reaction ν Unit).Unbroken Q :=
  ⟨trivial, List.forall_mem_cons.2 ⟨lineFeed_notMem_ofList h, List.forall_mem_singleton.2 hfile⟩,
    trivial, hQ⟩

/-- A located error leaves no line feeds behind if its text and its file have none. -/
theorem unbroken_locatedError {loc : Location} (h : '\n' ∉ text) (hfile : '\n' ∉ loc.file.toList)
    (hQ : Q ()) : (locatedError text loc : Reaction ν Unit).Unbroken Q :=
  ⟨trivial, List.forall_mem_cons.2 ⟨lineFeed_notMem_ofList h, List.forall_mem_singleton.2 hfile⟩,
    trivial, hQ⟩

end Reaction

/-! ## The typesetting engines -/

namespace Typesetting

variable {master : Text}

/-- No text of the finding that comes into a message holds a line feed. -/
def Finding.Unbroken : Finding → Prop
  | .fileEntered name => '\n' ∉ name
  | .inclusion path => '\n' ∉ path
  | .error file _ description => '\n' ∉ file ∧ '\n' ∉ description
  | .transcript name => '\n' ∉ name
  | _ => True

/-- A rule that reads one text yields nothing with line feeds, if the finding has none that the text
has not. -/
theorem yields_readOne (found : Text → Finding) (h : ∀ t, '\n' ∉ t → (found t).Unbroken)
    (pattern : Pattern) : (Rule.mk pattern (readOne found)).Yields Finding.Unbroken := by
  rintro (_ | ⟨t, _ | _⟩) hgroups _ ⟨⟩
  exact h t (hgroups t List.mem_cons_self)

/-- The rules for located errors yield nothing with line feeds. -/
theorem yields_readError (pattern : Pattern) :
    (Rule.mk pattern readError).Yields Finding.Unbroken := by
  rintro (_ | ⟨file, _ | ⟨line, _ | ⟨description, _ | _⟩⟩⟩) hgroups _ ⟨⟩
  exact ⟨hgroups file (by simp), hgroups description (by simp)⟩

/-- No rule for the engines yields anything with line feeds. -/
theorem yields_rules (ext : Text) : ∀ rule ∈ rules ext, rule.Yields Finding.Unbroken := by
  unfold rules
  simp only [List.forall_mem_cons, List.not_mem_nil, false_implies, implies_true, and_true]
  refine ⟨Rule.yields_sign _ trivial, yields_readOne .fileEntered (fun _ h => h) _,
    yields_readOne .inclusion (fun _ h => h) _, Rule.yields_sign _ trivial,
    yields_readOne .warning (fun _ _ => trivial) _, Rule.yields_sign _ trivial,
    Rule.yields_sign _ trivial, Rule.yields_sign _ trivial, Rule.yields_sign _ trivial,
    Rule.yields_sign _ trivial, yields_readError _, yields_readError _, yields_readError _,
    Rule.yields_sign _ trivial, ?_, Rule.yields_sign _ trivial, Rule.yields_sign _ trivial⟩
  rintro (_ | ⟨_, _ | ⟨name, _ | _⟩⟩) hgroups _ ⟨⟩
  exact hgroups name (by simp)

/-- The source file that an engine is reading has no line feed in its path. -/
theorem unbroken_currentFile (hmaster : '\n' ∉ master) :
    (currentFile master : Reaction ν String).Unbroken fun file => '\n' ∉ file.toList := by
  intro state hstate
  show '\n' ∉ (state.currentFile.getD (String.ofList (sourceName master))).toList
  cases hfile : state.currentFile with
  | none => exact lineFeed_notMem_ofList (lineFeed_notMem_of_subset (sourceName_subset _) hmaster)
  | some path => exact hstate path hfile

/-- A warning that is located in the file that an engine is reading has no line feeds. -/
theorem unbroken_warningAt {text : Text} (hmaster : '\n' ∉ master) (htext : '\n' ∉ text)
    (line : UInt32) : (do
      let file ← currentFile master
      Reaction.locatedWarning text ⟨file, line⟩ : Reaction ν Unit).Unbroken fun _ => True := by
  intro state hstate
  exact Reaction.unbroken_locatedWarning htext (unbroken_currentFile (ν := ν) hmaster state hstate)
    trivial

/-- A warning that looks ahead leaves no line feeds behind: the next line has none. -/
theorem unbroken_reactToWrapped (hmaster : '\n' ∉ master) {statement : Text}
    (hfeed : '\n' ∉ statement) :
    (reactToWrapped master statement : Reaction ν Unit).Unbroken fun _ => True := by
  refine Reaction.Unbroken.bind (r := Reaction.nextLine) fun next hnext => ?_
  cases next with
  | none => exact Reaction.unbroken_warning hfeed trivial
  | some next =>
    rw [Reaction.Unbroken]
    dsimp only
    split
    · have hboth : '\n' ∉ statement ++ ' ' :: next := fun hm =>
        (List.mem_append.1 hm).elim hfeed fun hm =>
          hnext next rfl ((List.mem_cons.1 hm).resolve_left (by decide))
      exact unbroken_warningAt hmaster hboth _
    · exact Reaction.unbroken_warning hfeed trivial

/-- An argument that never ended leaves no line feeds behind. -/
theorem unbroken_reactToRunaway {statement : Text} (hfeed : '\n' ∉ statement) :
    (reactToRunaway statement : Reaction ν Unit).Unbroken fun _ => True := by
  refine (Reaction.unbroken_error hfeed ?_).bind
  rintro (_ | next) hnext
  · exact trivial
  · have hnext : '\n' ∉ next := hnext next rfl
    show (if _ then _ else _ : Reaction ν Unit).Unbroken _
    split
    · exact ⟨unbroken_one (lineFeed_notMem_of_subset (Text.trim_subset next) hnext), trivial,
        trivial⟩
    · exact ⟨unbroken_one hnext, trivial⟩

/-- The transcript of a document has no line feed in its path if the document has none. -/
theorem lineFeed_notMem_logFile (hmaster : '\n' ∉ master) : '\n' ∉ logFile master := by
  unfold logFile
  cases hname : FilePath.name? (FilePath.withExtension master "log".toList) with
  | none => decide
  | some name =>
    exact lineFeed_notMem_of_subset (FilePath.name?_subset hname)
      (FilePath.lineFeed_notMem_withExtension hmaster (by decide))

/-- No reaction to what an engine printed leaves line feeds behind. -/
theorem unbroken_react (hmaster : '\n' ∉ master) {statement : Text} (hfeed : '\n' ∉ statement)
    {found : Finding} (hfound : found.Unbroken) :
    (react master found statement () : Reaction ν Unit).Unbroken fun _ => True := by
  cases found with
  | remark => exact Reaction.unbroken_info hfeed trivial
  | fileEntered name =>
    have hname : '\n' ∉ (String.ofList (sourceName name)).toList :=
      lineFeed_notMem_ofList (lineFeed_notMem_of_subset (sourceName_subset name) hfound)
    exact ⟨hname, List.forall_mem_singleton.2 hname, trivial⟩
  | inclusion path =>
    exact ⟨unbroken_one hfound, trivial⟩
  | warning line => exact unbroken_warningAt hmaster hfeed _
  | wrappedWarning => exact unbroken_reactToWrapped hmaster hfeed
  | formatWarning => exact ⟨unbroken_one hfeed, trivial⟩
  | error file line description =>
    have htext : '\n' ∉ Text.trim description :=
      lineFeed_notMem_of_subset (Text.trim_subset description) hfound.2
    have hfile : '\n' ∉ (locationOf file line).file.toList :=
      lineFeed_notMem_ofList (lineFeed_notMem_of_subset (sourceName_subset file) hfound.1)
    refine (Reaction.unbroken_locatedError htext hfile ?_).bind
    show (if _ then _ else _ : Reaction ν Unit).Unbroken _
    split
    · exact ⟨trivial, trivial⟩
    · exact trivial
  | runaway => exact unbroken_reactToRunaway hfeed
  | transcript name =>
    exact ⟨unbroken_one (lineFeed_notMem_of_subset (Text.stripBy_subset _ name) hfound), trivial,
      trivial⟩
  | alert =>
    show (if _ then _ else _ : Reaction ν Unit).Unbroken _
    split
    · exact Reaction.unbroken_error hfeed trivial
    · exact Reaction.unbroken_warning hfeed trivial
  | fatal => exact Reaction.unbroken_fatal hfeed trivial

/-- **The engines leave no line feeds behind**, if the master document has none in its name. -/
theorem unbroken (hmaster : '\n' ∉ master) :
    (grammar master : Grammar Unit Finding ν).Unbroken fun _ => True where
  start := trivial
  react hfeed hc _ := unbroken_react hmaster hfeed (Grammar.of_classify (yields_rules _) hfeed hc)
  atEnd _ := ⟨unbroken_one (lineFeed_notMem_logFile hmaster), trivial⟩

end Typesetting

/-! ## The other tools -/

namespace Bibliography

/-- **BibTeX leaves no line feeds behind.** -/
theorem bibtex_unbroken : (bibtex : Grammar Unit BibtexFinding ν).Unbroken fun _ => True where
  start := trivial
  react {statement found _} hfeed _ _ := by
    cases found with
    | remark => exact Reaction.unbroken_info hfeed trivial
    | warning => exact Reaction.unbroken_warning hfeed trivial
    | error => exact Reaction.unbroken_error hfeed trivial
    | finished => exact ⟨trivial, trivial⟩
  atEnd _ := trivial

/-- No text of the finding that comes into a message holds a line feed. -/
def BiberFinding.Unbroken : BiberFinding → Prop
  | .logfile name => '\n' ∉ name
  | .output path => '\n' ∉ path
  | _ => True

/-- No rule for Biber yields anything with line feeds. -/
theorem yields_biberRules : ∀ rule ∈ biberRules, rule.Yields BiberFinding.Unbroken := by
  unfold biberRules
  simp only [List.forall_mem_cons, List.not_mem_nil, false_implies, implies_true, and_true]
  refine ⟨Rule.yields_sign _ trivial, ?_, Rule.yields_sign _ trivial, Rule.yields_sign _ trivial,
    Rule.yields_sign _ trivial, ?_⟩
  · rintro (_ | ⟨name, _ | _⟩) hgroups _ ⟨⟩
    exact hgroups name List.mem_cons_self
  · rintro (_ | ⟨path, _ | _⟩) hgroups _ ⟨⟩
    exact hgroups path List.mem_cons_self

/-- **Biber leaves no line feeds behind**, and the transcript that it announced, which is kept in
mind, has none. -/
theorem biber_unbroken : (biber : Grammar (Option Text) BiberFinding ν).Unbroken
    fun announced => ∀ name ∈ announced, '\n' ∉ name where
  start _ h := nomatch h
  react {statement found announced} hfeed hc hannounced := by
    have hfound : found.Unbroken := Grammar.of_classify yields_biberRules hfeed hc
    cases found with
    | remark => exact (Reaction.unbroken_info hfeed hannounced).bind
    | logfile name =>
      exact (Reaction.unbroken_info hfeed fun _ h => Option.some.inj h ▸ hfound).bind
    | warning => exact (Reaction.unbroken_warning hfeed hannounced).bind
    | error => exact (Reaction.unbroken_error hfeed hannounced).bind
    | fatal => exact (Reaction.unbroken_fatal hfeed hannounced).bind
    | output path =>
      have hnamed : '\n' ∉ announced.getD (transcriptOf path) := by
        cases announced with
        | none =>
          exact FilePath.lineFeed_notMem_withExtension
            (lineFeed_notMem_of_subset (Text.trim_subset path) hfound) (by decide)
        | some name => exact hannounced name rfl
      exact ⟨unbroken_one hnamed, trivial,
        fun _ h => nomatch h⟩
  atEnd h := h

end Bibliography

namespace Index

/-- No text of the finding holds a line feed. -/
def Finding.Unbroken : Finding → Prop
  | .version number => '\n' ∉ number
  | .progress description file status => '\n' ∉ description ∧ '\n' ∉ file ∧ '\n' ∉ status
  | .sorting status => '\n' ∉ status
  | .artifact description path => '\n' ∉ description ∧ '\n' ∉ path
  | .transcript description path => '\n' ∉ description ∧ '\n' ∉ path

/-- No rule for makeindex yields anything with line feeds. -/
theorem yields_rules (extensions : List Text) :
    ∀ rule ∈ rules extensions, rule.Yields Finding.Unbroken := by
  unfold rules
  simp only [List.forall_mem_cons, List.not_mem_nil, false_implies, implies_true, and_true]
  refine ⟨?_, ?_, ?_, ?_, ?_⟩
  · rintro (_ | ⟨number, _ | _⟩) hgroups _ ⟨⟩
    exact hgroups number List.mem_cons_self
  · rintro (_ | ⟨description, _ | ⟨file, _ | ⟨status, _ | _⟩⟩⟩) hgroups _ ⟨⟩
    exact ⟨hgroups description (by simp), hgroups file (by simp), hgroups status (by simp)⟩
  · rintro (_ | ⟨status, _ | _⟩) hgroups _ ⟨⟩
    exact hgroups status List.mem_cons_self
  · rintro (_ | ⟨description, _ | ⟨path, _ | _⟩⟩) hgroups _ ⟨⟩
    exact ⟨hgroups description (by simp), hgroups path (by simp)⟩
  · rintro (_ | ⟨description, _ | ⟨path, _ | _⟩⟩) hgroups _ ⟨⟩
    exact ⟨hgroups description (by simp), hgroups path (by simp)⟩

/-- **Makeindex leaves no line feeds behind**, whatever the extensions are. -/
theorem unbroken (extensions : List Text) :
    (grammar extensions : Grammar Unit Finding ν).Unbroken fun _ => True where
  start := trivial
  react {statement found _} hfeed hc _ := by
    have hfound : found.Unbroken := Grammar.of_classify (yields_rules extensions) hfeed hc
    cases found with
    | version number => exact ⟨unbroken_one hfound, trivial⟩
    | progress description file status =>
      exact ⟨unbroken_three hfound.1 hfound.2.1 hfound.2.2, trivial⟩
    | sorting status => exact ⟨unbroken_one hfound, trivial⟩
    | artifact description path => exact ⟨unbroken_two hfound.1 hfound.2, trivial⟩
    | transcript description path =>
      exact ⟨unbroken_two hfound.1 hfound.2, trivial, trivial⟩
  atEnd _ := trivial

end Index

namespace Glossary

/-- No text of the finding holds a line feed that comes into a message. -/
def Finding.Unbroken : Finding → Prop
  | .makeindex number => '\n' ∉ number
  | .version number => '\n' ∉ number
  | .glossaryType name files => '\n' ∉ name ∧ '\n' ∉ files
  | .progress description file status => '\n' ∉ description ∧ '\n' ∉ file ∧ '\n' ∉ status
  | .artifact description path => '\n' ∉ description ∧ '\n' ∉ path
  | .finished path => '\n' ∉ path
  | .xindy language extension => '\n' ∉ language ∧ '\n' ∉ extension
  | _ => True

/-- No rule for the glossary maker yields anything with line feeds. -/
theorem yields_rules : ∀ rule ∈ rules, rule.Yields Finding.Unbroken := by
  unfold rules
  simp only [List.forall_mem_cons, List.not_mem_nil, false_implies, implies_true, and_true]
  refine ⟨?_, ?_, ?_, ?_, ?_, ?_, ?_, Rule.yields_sign _ trivial, Rule.yields_sign _ trivial,
    Rule.yields_sign _ trivial, Rule.yields_sign _ trivial⟩
  · rintro (_ | ⟨number, _ | _⟩) hgroups _ ⟨⟩
    exact hgroups number List.mem_cons_self
  · rintro (_ | ⟨number, _ | _⟩) hgroups _ ⟨⟩
    exact hgroups number List.mem_cons_self
  · rintro (_ | ⟨name, _ | ⟨files, _ | _⟩⟩) hgroups _ ⟨⟩
    exact ⟨hgroups name (by simp), hgroups files (by simp)⟩
  · rintro (_ | ⟨description, _ | ⟨file, _ | ⟨status, _ | _⟩⟩⟩) hgroups _ ⟨⟩
    exact ⟨hgroups description (by simp), hgroups file (by simp), hgroups status (by simp)⟩
  · rintro (_ | ⟨description, _ | ⟨path, _ | _⟩⟩) hgroups _ ⟨⟩
    exact ⟨hgroups description (by simp), hgroups path (by simp)⟩
  · rintro (_ | ⟨path, _ | _⟩) hgroups _ ⟨⟩
    exact hgroups path List.mem_cons_self
  · rintro (_ | ⟨language, _ | ⟨extension, _ | _⟩⟩) hgroups _ ⟨⟩
    exact ⟨hgroups language (by simp), hgroups extension (by simp)⟩

/-- No type that was announced has a line feed in its name. -/
def Registry.Unbroken (r : Registry) : Prop := ∀ entry ∈ r, '\n' ∉ entry.2

/-- A registry stays without line feeds when a type without any is announced. -/
theorem Registry.Unbroken.announce {r : Registry} (h : r.Unbroken) {name : Text}
    (hname : '\n' ∉ name) (files : Text) : (r.announce name files).Unbroken := by
  refine List.forall_mem_append.2 ⟨fun entry hentry => ?_, h⟩
  obtain ⟨extension, -, rfl⟩ := List.mem_map.1 (List.mem_reverse.1 hentry)
  exact hname

/-- The type of an extension is one that was announced, or the extension. -/
theorem Registry.Unbroken.typeOf {r : Registry} (h : r.Unbroken) {extension : Text}
    (hextension : '\n' ∉ extension) : '\n' ∉ r.typeOf extension := by
  unfold Registry.typeOf Registry.typeOf?
  cases hfind : r.find? fun entry => entry.1 == extension with
  | none => exact hextension
  | some entry => exact h entry (List.mem_of_find?_eq_some hfind)

/-- **The glossary maker leaves no line feeds behind**, and the types that were announced, which are
kept in mind, have none. -/
theorem unbroken : grammar.Unbroken fun memory => memory.registry.Unbroken where
  start := List.forall_mem_nil _
  react {statement found memory} hfeed hc hmemory := by
    have hfound : found.Unbroken := Grammar.of_classify yields_rules hfeed hc
    cases found with
    | makeindex number =>
      exact ⟨unbroken_one hfound, (Index.unbroken indexExtensions).nested id,
        fun _ => hmemory⟩
    | version number =>
      exact ⟨unbroken_one (lineFeed_notMem_of_subset (Text.trim_subset number) hfound),
        hmemory⟩
    | glossaryType name files =>
      exact ⟨unbroken_two hfound.1 hfound.2, hmemory.announce hfound.1 files⟩
    | progress description file status =>
      exact ⟨unbroken_three hfound.1 hfound.2.1 hfound.2.2, hmemory⟩
    | artifact description path => exact ⟨unbroken_two hfound.1 hfound.2, hmemory⟩
    | finished path =>
      have hextension := lineFeed_notMem_of_subset (Text.afterLast_subset '.' path) hfound
      exact ⟨unbroken_two (hmemory.typeOf hextension) hfound, hmemory⟩
    | xindy language extension =>
      exact ⟨unbroken_two (hmemory.typeOf hfound.2) hfound.1, hmemory⟩
    | warning => exact (Reaction.unbroken_warning hfeed hmemory).bind
    | error => exact (Reaction.unbroken_error hfeed hmemory).bind
    | remark => exact (Reaction.unbroken_info hfeed hmemory).bind
  atEnd h := h

end Glossary

namespace Lint

/-- No text of the finding that comes into a message holds a line feed. -/
def Finding.Unbroken : Finding → Prop
  | .problem _ file _ description => '\n' ∉ file ∧ '\n' ∉ description
  | _ => True

/-- The rules for problems yield nothing with line feeds. -/
theorem yields_readProblem (severity : Severity) (pattern : Pattern) :
    (Rule.mk pattern (readProblem severity)).Yields Finding.Unbroken := by
  rintro (_ | ⟨file, _ | ⟨line, _ | ⟨description, _ | _⟩⟩⟩) hgroups _ ⟨⟩
  exact ⟨hgroups file (by simp), hgroups description (by simp)⟩

/-- No rule for ChkTeX yields anything with line feeds. -/
theorem yields_rules : ∀ rule ∈ rules, rule.Yields Finding.Unbroken := by
  unfold rules
  simp only [List.forall_mem_cons, List.not_mem_nil, false_implies, implies_true, and_true]
  exact ⟨Rule.yields_sign _ trivial, yields_readProblem _ _, yields_readProblem _ _,
    Rule.yields_sign _ trivial⟩

/-- To quote the source leaves no line feeds behind, since lines have none. -/
theorem unbroken_quoteSource : (quoteSource : Reaction ν Unit).Unbroken fun _ => True := by
  rintro (_ | source) hsource
  · exact trivial
  · show (if _ then _ else _ : Reaction ν Unit).Unbroken _
    split
    · intro caret hcaret
      have hcaret : '\n' ∉ caret.getD [] := by
        cases caret with
        | none => exact List.not_mem_nil
        | some text => exact hcaret text rfl
      exact ⟨unbroken_two (hsource source rfl) hcaret, trivial⟩
    · exact trivial

/-- **ChkTeX leaves no line feeds behind**, also in what it quotes. -/
theorem unbroken : (grammar : Grammar Unit Finding ν).Unbroken fun _ => True where
  start := trivial
  react {statement found _} hfeed hc _ := by
    have hfound : found.Unbroken := Grammar.of_classify yields_rules hfeed hc
    cases found with
    | remark => exact Reaction.unbroken_info hfeed trivial
    | problem severity file line description =>
      have htext : '\n' ∉ Text.trim description :=
        lineFeed_notMem_of_subset (Text.trim_subset description) hfound.2
      have hfile : '\n' ∉ (locationOf file line).file.toList :=
        lineFeed_notMem_ofList (lineFeed_notMem_of_subset (sourceName_subset file) hfound.1)
      cases severity with
      | error => exact (Reaction.unbroken_locatedError htext hfile unbroken_quoteSource).bind
      | warning => exact (Reaction.unbroken_locatedWarning htext hfile unbroken_quoteSource).bind
    | finished => exact ⟨trivial, trivial⟩
  atEnd _ := trivial

end Lint

namespace Build

variable {master : Text}

/-- A section in which no line feeds come up has none around it. -/
theorem unbroken_openSection {Q : Delegated Unit × Memory → Prop} {nested : Nested Unit}
    {banner : Text} (hbanner : '\n' ∉ banner) (hn : nested.Unbroken) (hQ : ∀ result, Q result)
    (phase : Phase) (tool : Tool) (memory : Memory) :
    (openSection phase tool banner nested memory).Unbroken Q :=
  ⟨unbroken_one (lineFeed_notMem_of_subset (Text.trim_subset banner) hbanner), hn,
    fun _ => ⟨List.forall_mem_nil _, hQ _⟩⟩

/-- **Latexmk leaves no line feeds behind**, watching or not, together with the sections of the
other tools. -/
theorem unbroken (hmaster : '\n' ∉ master) (watching : Bool) :
    (grammar master watching).Unbroken fun _ => True where
  start := trivial
  react {statement found memory} hfeed _ _ := by
    have hsection {σ ι : Type} {g : Grammar σ ι Unit} {I : σ → Prop} (hg : g.Unbroken I)
        {f : Delegated Unit × Memory → Reaction Unit Memory}
        (hf : ∀ result, (f result).Unbroken fun _ => True) (phase : Phase) (tool : Tool) :
        ((openSection phase tool statement (sectionParser g) memory).bind f).Unbroken
          fun _ => True :=
      (unbroken_openSection hfeed (hg.nested _) hf phase tool memory).bind
    cases found with
    | typesetting =>
      refine hsection (Typesetting.unbroken hmaster) (fun result => ?_) _ _
      exact ⟨trivial, trivial⟩
    | bibtex =>
      refine hsection Bibliography.bibtex_unbroken (fun result => ?_) _ _
      exact trivial
    | biber =>
      refine hsection Bibliography.biber_unbroken (fun result => ?_) _ _
      exact trivial
    | index =>
      refine hsection (Index.unbroken Index.defaultExtensions) (fun result => ?_) _ _
      exact trivial
    | roundEnd =>
      refine ⟨unbroken_one hfeed, ?_⟩
      show (if _ then _ else _ : Reaction Unit Memory).Unbroken _
      split
      · exact fun _ _ => trivial
      · exact ⟨trivial, trivial⟩
    | chatter => exact ⟨unbroken_one hfeed, trivial⟩
    | newRun =>
      show (beginRun memory).Unbroken _
      unfold beginRun
      split
      · exact fun _ _ => ⟨List.forall_mem_nil _, trivial, trivial⟩
      · exact ⟨trivial, trivial⟩
  atEnd _ := trivial

end Build

/-! ## Dialects -/

namespace Dialect

/-- The name of the master document, if it matters to the dialect. -/
def master? : Dialect → Option Text
  | latex master => some master
  | latexmk master _ => some master
  | _ => none

/-- **The parse of a tool leaves nothing behind that has line feeds**, if there is none in the name
of the master document and none in the lines that are read. -/
theorem unbroken_parse {d : Dialect} (hd : d.isTool = true)
    (hmaster : ∀ master ∈ d.master?, '\n' ∉ master) (verbose : Bool) {source : R}
    (hlines : ∀ l ∈ LineSource.lines source, lineFeed ∉ l.bytes) :
    (d.parse verbose source).scope.Unbroken := by
  cases d with
  | latex master => exact (Typesetting.unbroken (hmaster master rfl)).parse verbose hlines
  | bibtex => exact Bibliography.bibtex_unbroken.parse verbose hlines
  | biber => exact Bibliography.biber_unbroken.parse verbose hlines
  | makeindex extensions => exact (Index.unbroken extensions).parse verbose hlines
  | makeglossaries query => exact Glossary.unbroken.parse verbose hlines
  | chktex => exact Lint.unbroken.parse verbose hlines
  | latexmk master watching =>
    exact (Build.unbroken (hmaster master rfl) watching).parse verbose hlines
  | custom rules atEnd => exact Bool.noConfusion hd

end Dialect

end TexTranscript
