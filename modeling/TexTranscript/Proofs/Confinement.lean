import TexTranscript.Proofs.Passing

/-!
# What parsers are confined to

What a reaction adds to a log is bounded by what it is *confined* to: the messages that
it emits, by itself or through the parsers that it hands the transcript to, and whether
it may finish. Both can be read off its requests. A grammar is confined finding by
finding, since what a rule reads off a statement decides how the parser reacts to it.

A parse is done only by a statement, and where lines are left unread it was done. So it
was done at a *final* statement, of which the tool's own rules say that it is the end.

## Main definitions

* `Log.Continues` – what one log adds to another.
* `Reaction.Confined`, `Grammar.Confined` – what may be emitted, and what may finish.
* `Grammar.StopsAt` – a parse is done at a statement.
* `Tool.SaysDone` – the parser of a tool is done at the statement that ends its transcript.

## Main statements

* `Grammar.Confined.dispatch` – what a statement adds to a log.
* `Grammar.Confined.stopsAt` – where lines are left, a parser was done.
* `Typesetting.confined`, `Build.confined` and so on – what the tools are confined to.
-/

namespace TexTranscript

/-- The message tells how the transcript of an engine ends. -/
def Message.tellsEnd : Message → Bool
  | transcript _ => true
  | abnormalTermination _ => true
  | _ => false

/-- The message says that a transcript ended too early. -/
def Message.isAbnormal : Message → Bool
  | abnormalTermination _ => true
  | _ => false

variable {R σ ι ν ρ α β : Type} {M : Message → Prop} {F : Prop}

/-! ## What reactions are confined to -/

/-- **One log continues another**: what was added to the messages is among such, and it was
finished meanwhile only if that was allowed. -/
structure Log.Continues (M : Message → Prop) (F : Prop) (log log' : Log) : Prop where
  messages : ∃ ms, log'.messages = log.messages ++ ms ∧ ∀ m ∈ ms, M m
  done : log'.state.done = true → log.state.done = true ∨ F

namespace Log.Continues

variable {log log' log'' : Log}

theorem refl (log : Log) : log.Continues M F log :=
  ⟨⟨[], (List.append_nil _).symm, List.forall_mem_nil _⟩, .inl⟩

/-- Continuations add up: what was added first stays in front. -/
theorem trans (h : log.Continues M F log') (h' : log'.Continues M F log'') :
    log.Continues M F log'' := by
  obtain ⟨ms, hms, hM⟩ := h.messages
  obtain ⟨ms', hms', hM'⟩ := h'.messages
  refine ⟨⟨ms ++ ms', ?_, List.forall_mem_append.2 ⟨hM, hM'⟩⟩, fun hd => ?_⟩
  · rw [hms', hms, List.append_assoc]
  · rcases h'.done hd with hd | hF
    · exact h.done hd
    · exact .inr hF

theorem of_emit {m : Message} (h : M m) : log.Continues M F (log.emit m) :=
  ⟨⟨[m], rfl, List.forall_mem_singleton.2 h⟩, .inl⟩

theorem of_record {e : ParseState.Entry} (h : e = .finish → F) :
    log.Continues M F (log.record e) := by
  refine ⟨⟨[], (List.append_nil _).symm, List.forall_mem_nil _⟩, fun hd => ?_⟩
  cases e with
  | finish => exact .inr (h rfl)
  | _ => exact .inl hd

theorem of_takeOver {nested : ParseState} {messages : List Message} (h : ∀ m ∈ messages, M m) :
    log.Continues M F (log.takeOver nested messages) :=
  ⟨⟨messages, rfl, h⟩, .inl⟩

end Log.Continues

namespace Reaction

/-- **A reaction is confined** to such messages, be it that it emits them by itself or through
a parser that it hands the transcript to, and it finishes only if that is allowed. -/
def Confined (M : Message → Prop) (F : Prop) : Reaction ν α → Prop
  | done _ => True
  | emit message next => M message ∧ next.Confined M F
  | record entry next => (entry = .finish → F) ∧ next.Confined M F
  | inspect next => ∀ state, (next state).Confined M F
  | lookAhead next => ∀ line, (next line).Confined M F
  | delegate nested next =>
    (∀ d messages, nested.Returns d messages → ∀ m ∈ messages, M m) ∧
      ∀ d, (next d).Confined M F

/-- **Confinement is kept in sequence.** The induction is on the reaction that comes first, and what
comes after is confined whatever that one answers. -/
theorem Confined.bind {r : Reaction ν α} {f : α → Reaction ν β} (hr : r.Confined M F)
    (hf : ∀ a, (f a).Confined M F) : (r.bind f).Confined M F := by
  induction r with
  | done result => exact hf result
  | emit message next ih => exact ⟨hr.1, ih hr.2⟩
  | record entry next ih => exact ⟨hr.1, ih hr.2⟩
  | inspect next ih => exact fun state => ih state (hr state)
  | lookAhead next ih => exact fun line => ih line (hr line)
  | delegate nested next ih => exact ⟨hr.1, fun d => ih d (hr.2 d)⟩

/-- **What a reaction adds to a log** is what it is confined to. -/
theorem Confined.ensures {r : Reaction ν α} (h : r.Confined M F) (log : Log) :
    r.Ensures (fun _ log' => log.Continues M F log') log := by
  -- what is added on the way stays in front of what is added afterwards
  induction r generalizing log with
  | done result => exact .refl log
  | emit message next ih =>
    exact (ih h.2 _).mono fun _ _ => (Log.Continues.of_emit h.1).trans
  | record entry next ih =>
    exact (ih h.2 _).mono fun _ _ => (Log.Continues.of_record h.1).trans
  | inspect next ih => exact ih log.state (h log.state) log
  | lookAhead next ih => exact fun line => ih line (h line) log
  | delegate nested next ih =>
    exact fun d messages hd =>
      (ih d (h.2 d) _).mono fun _ _ => (Log.Continues.of_takeOver (h.1 d messages hd)).trans

end Reaction

/-! ## Where a parse is done -/

namespace Grammar

/-- **A grammar is confined**: of what a rule reads off a statement it depends which messages
the reaction emits, and whether it may finish. -/
def Confined (g : Grammar σ ι ν) (M : ι → Message → Prop) (final : ι → Prop) : Prop :=
  ∀ found statement memory,
    (g.react found statement memory).Confined (M found) (final found)

/-- **A parse is done at a statement** that is final: it rests at a position, this statement is
the next, and what it does is the last thing that happens. -/
def StopsAt [LineSource R] (g : Grammar σ ι ν) (final : ι → Prop) (verbose : Bool)
    (source : R) : Prop :=
  ∃ (p : Position R σ) (statement : Text) (behind : R) (found : ι),
    g.Passes verbose (g.begin source) p ∧
    LineSource.takeStatement p.scope.unread = (some statement, behind) ∧
    g.classify statement = some found ∧ final found ∧
    g.parse verbose (g.begin source) = g.dispatch verbose statement (p.withUnread behind) ∧
    (g.parse verbose (g.begin source)).scope.state.done = true

variable [LineSource R] {g : Grammar σ ι ν} {K : ι → Message → Prop} {final : ι → Prop}
  {verbose : Bool}

/-- What a statement adds to the log of a grammar that is confined. -/
theorem Confined.dispatch (h : g.Confined K final) (verbose : Bool) {found : ι}
    {statement : Text} (hc : g.classify statement = some found) (p : Position R σ) :
    p.scope.log.Continues (K found) (final found) (g.dispatch verbose statement p).scope.log := by
  unfold Grammar.dispatch
  rw [hc]
  exact Reaction.run_ensures verbose ((h found statement p.memory).ensures p.scope.log)

/-- A statement that no rule matches is echoed at most. -/
theorem continues_dispatch_of_none (verbose : Bool) (hM : ∀ text, M (.verbatim text))
    {statement : Text} (hc : g.classify statement = none) (p : Position R σ) :
    p.scope.log.Continues M False (g.dispatch verbose statement p).scope.log := by
  unfold Grammar.dispatch
  rw [hc]
  cases verbose with
  | false => exact .refl _
  | true =>
    show p.scope.log.Continues M False (p.scope.emit _).log
    rw [Scope.log_emit]
    exact .of_emit (hM _)

/-- A parse that comes to be done is done by a statement, and this is the last one. The induction
follows the parser: a statement either finishes it, and then this is the one, or it goes on from
there. -/
theorem exists_last_dispatch (g : Grammar σ ι ν) (verbose : Bool) {p : Position R σ}
    (hp : p.scope.state.done = false) (hd : (g.consume verbose p).scope.state.done = true) :
    ∃ (q : Position R σ) (statement : Text) (behind : R), g.Passes verbose p q ∧
      q.scope.state.done = false ∧
      LineSource.takeStatement q.scope.unread = (some statement, behind) ∧
      g.consume verbose p = g.dispatch verbose statement (q.withUnread behind) := by
  fun_induction consume g verbose p with
  | case1 p hdone => simp [hp] at hdone
  | case2 p _ source _ => exact absurd (hp.symm.trans hd) Bool.false_ne_true
  | case3 p _ statement source hn ih =>
    rcases hq : (g.dispatch verbose statement (p.withUnread source)).scope.state.done with _ | _
    · obtain ⟨q, statement', behind, hpasses, hq', hn', heq⟩ := ih hq hd
      exact ⟨q, statement', behind, (Passes.here.statement hp hn).trans hpasses, hq', hn', heq⟩
    · exact ⟨p, statement, source, .here, hp, hn, consume_of_done g verbose hq⟩

/-- A parse that is not done has read all lines, and what it does at the end finds none. The only
way for a parser to stop before it is done is that no statement is left to be taken. -/
theorem lines_parse_of_not_done {p : Position R σ}
    (hd : (g.consume verbose p).scope.state.done = false) :
    LineSource.lines (g.parse verbose p).scope.unread = [] := by
  obtain ⟨q, -, -, hlog, hlines⟩ := g.exists_passes_consume verbose p
  have hq : q.scope.state.done = false := by
    rw [← hd]
    exact congrArg (·.state.done) hlog.symm
  have hsuffix : LineSource.lines (g.parse verbose p).scope.unread
      <:+ LineSource.lines (g.consume verbose p).scope.unread := by
    unfold parse
    dsimp only
    rw [if_neg (by simp [hd])]
    exact (Reaction.run_reads ..).lines_suffix
  rw [hlines hq] at hsuffix
  exact List.suffix_nil.1 hsuffix

/-- **Where lines are left, a parser was done**, and that at a final statement. A parser that is not
done reads on to the end, so it must have finished; it did so at a last statement, and the rule that
matched there is one that may finish. -/
theorem Confined.stopsAt (h : g.Confined K final) {source : R}
    (hunread : LineSource.lines (g.parse verbose (g.begin source)).scope.unread ≠ []) :
    g.StopsAt final verbose source := by
  have hd : (g.consume verbose (g.begin source)).scope.state.done = true := by
    rw [← Bool.not_eq_false]
    exact fun hd => hunread (lines_parse_of_not_done hd)
  have hparse : g.parse verbose (g.begin source) = g.consume verbose (g.begin source) := if_pos hd
  obtain ⟨p, statement, behind, hpasses, hp, hn, heq⟩ := g.exists_last_dispatch verbose rfl hd
  rw [heq] at hd
  rcases hc : g.classify statement with _ | found
  · -- a statement that no rule matches does not finish
    have hcontinues := continues_dispatch_of_none verbose (M := fun _ => True)
      (fun _ => trivial) hc (p.withUnread behind)
    rcases hcontinues.done hd with hdone | hF
    · exact absurd (hp.symm.trans hdone) Bool.false_ne_true
    · exact hF.elim
  · rcases (h.dispatch verbose hc (p.withUnread behind)).done hd with hdone | hfinal
    · exact absurd (hp.symm.trans hdone) Bool.false_ne_true
    · exact ⟨p, statement, behind, found, hpasses, hn, hc, hfinal, hparse.trans heq,
        by rw [hparse, heq, hd]⟩

end Grammar

/-! ## The single tools -/

/-- The message is none about an end that came too early. -/
def Message.IsNormal (m : Message) : Prop := m.isAbnormal = false

theorem countP_isAbnormal {ms : List Message} (h : ∀ m ∈ ms, m.IsNormal) :
    ms.countP Message.isAbnormal = 0 :=
  List.countP_eq_zero.2 fun m hm => Bool.eq_false_iff.1 (h m hm)

namespace Bibliography

/-- Of BibTeX nothing is said that tells of an early end, and only its closing line finishes. -/
theorem bibtex_confined :
    (bibtex : Grammar Unit BibtexFinding ν).Confined (fun _ => Message.IsNormal)
      (· = .finished) := by
  intro found statement memory
  cases found with
  | remark => exact ⟨rfl, trivial⟩
  | warning => exact ⟨rfl, nofun, trivial⟩
  | error => exact ⟨rfl, nofun, trivial⟩
  | finished => exact ⟨fun _ => rfl, trivial⟩

/-- Of Biber nothing is said that tells of an early end, and only the name of the output
finishes. -/
theorem biber_confined :
    (biber : Grammar (Option Text) BiberFinding ν).Confined (fun _ => Message.IsNormal)
      (∃ path, · = .output path) := by
  intro found statement announced
  cases found with
  | remark => exact ⟨rfl, trivial⟩
  | logfile name => exact ⟨rfl, trivial⟩
  | warning => exact ⟨rfl, nofun, trivial⟩
  | error => exact ⟨rfl, nofun, trivial⟩
  | fatal => exact ⟨rfl, nofun, nofun, trivial⟩
  | output path => exact ⟨rfl, fun _ => ⟨path, rfl⟩, trivial⟩

end Bibliography

theorem Index.confined (extensions : List Text) :
    (grammar extensions : Grammar Unit Finding ν).Confined (fun _ => Message.IsNormal)
      (∃ description path, · = .transcript description path) := by
  intro found statement memory
  cases found with
  | transcript description path => exact ⟨rfl, fun _ => ⟨description, path, rfl⟩, trivial⟩
  | _ => exact ⟨rfl, trivial⟩

namespace Lint

/-- To quote a source line is to emit an excerpt at most, and finishes nothing. -/
theorem quoteSource_confined (hexcerpt : ∀ lines, M (.excerpt lines)) :
    (quoteSource : Reaction ν Unit).Confined M F := by
  refine Reaction.Confined.bind (fun _ => trivial) fun source => ?_
  cases source with
  | none => exact trivial
  | some source =>
    show (if hasCaret source then _ else _ : Reaction ν Unit).Confined _ _
    split
    · exact fun caret => ⟨hexcerpt _, trivial⟩
    · exact trivial

theorem confined :
    (grammar : Grammar Unit Finding ν).Confined (fun _ => Message.IsNormal) (· = .finished) := by
  intro found statement memory
  cases found with
  | remark => exact ⟨rfl, trivial⟩
  | problem severity file line description =>
    cases severity with
    | error => exact ⟨nofun, rfl, nofun, quoteSource_confined fun _ => rfl⟩
    | warning => exact ⟨nofun, rfl, nofun, quoteSource_confined fun _ => rfl⟩
  | finished => exact ⟨fun _ => rfl, trivial⟩

end Lint

namespace Grammar

variable {g : Grammar σ ι ν} {final : ι → Prop}

/-- A grammar that is confined to some messages, at every finding and at the end of the
transcript, emits no others. -/
theorem Confined.keeps (h : g.Confined (fun _ => M) final) (hM : ∀ text, M (.verbatim text))
    (hend : ∀ memory, (g.atEnd memory).Confined M True) :
    g.Keeps fun _ log => ∀ m ∈ log.messages, M m := by
  have among {log log' : Log} {F : Prop} (hlog : ∀ m ∈ log.messages, M m)
      (hc : log.Continues M F log') : ∀ m ∈ log'.messages, M m := by
    obtain ⟨ms, hms, hM⟩ := hc.messages
    rw [hms]
    exact List.forall_mem_append.2 ⟨hlog, hM⟩
  exact
    { start := List.forall_mem_nil _
      react := fun _ _ hlog => ((h _ _ _).ensures _).mono fun _ _ => among hlog
      echo := fun _ _ hlog => among hlog (.of_emit (F := False) (hM _))
      atEnd := fun _ hlog => ((hend _).ensures _).mono fun _ _ => among hlog }

end Grammar

namespace Glossary

theorem confined : grammar.Confined (fun _ => Message.IsNormal) fun _ => False := by
  intro found statement memory
  cases found with
  | makeindex number =>
    refine ⟨rfl, fun d messages hd => ?_, fun _ => trivial⟩
    -- makeindex finishes itself, and not the parser that called it
    obtain ⟨_, -, hnormal⟩ := ((Index.confined indexExtensions).keeps (fun _ => rfl)
      fun _ => trivial).of_returns hd
    exact hnormal
  | warning => exact ⟨rfl, nofun, trivial⟩
  | error => exact ⟨rfl, nofun, trivial⟩
  | _ => exact ⟨rfl, trivial⟩

end Glossary

/-- **Five tools say nothing** of an end that came too early. -/
theorem isNormal_of_parseTranscript [LineSource R] {tool : Tool} (hlatex : tool ≠ .latex)
    (hlatexmk : tool ≠ .latexmk) (master : Text) (verbose : Bool) (source : R) :
    ∀ m ∈ (parseTranscript tool master verbose source).messages, m.IsNormal := by
  cases tool with
  | latex => exact absurd rfl hlatex
  | latexmk => exact absurd rfl hlatexmk
  | bibtex =>
    exact (Bibliography.bibtex_confined.keeps (fun _ => rfl) fun _ => trivial).parse verbose source
  | biber =>
    exact (Bibliography.biber_confined.keeps (fun _ => rfl) fun _ => trivial).parse verbose source
  | makeindex =>
    exact ((Index.confined _).keeps (fun _ => rfl) fun _ => trivial).parse verbose source
  | makeglossaries =>
    exact (Glossary.confined.keeps (fun _ => rfl) fun _ => trivial).parse verbose source
  | chktex => exact (Lint.confined.keeps (fun _ => rfl) fun _ => trivial).parse verbose source

/-! ## The typesetting engines -/

namespace Typesetting

/-- The grammar of an engine as the one of its whole transcript. -/
abbrev engine (master : Text) : Grammar Unit Finding Unit := grammar master

/-- The statement names the transcript of an engine, which ends it. -/
def Finding.IsLast (found : Finding) : Prop := ∃ name, found = .transcript name

/-- Only what ends the transcript may tell how it ends. -/
def Finding.Allows (found : Finding) (m : Message) : Prop := m.tellsEnd = true → found.IsLast

/-- A warning that goes on in the next line is one warning, with a location or without. -/
theorem reactToWrapped_confined {master statement : Text}
    (hwarning : ∀ text location, M (.warning text location)) :
    (reactToWrapped master statement : Reaction ν Unit).Confined M F := by
  refine Reaction.Confined.bind (fun _ => trivial) fun next => ?_
  cases next with
  | none => exact ⟨hwarning _ _, nofun, trivial⟩
  | some next =>
    dsimp only
    split
    · exact fun state => ⟨nofun, hwarning _ _, nofun, trivial⟩
    · exact ⟨hwarning _ _, nofun, trivial⟩

/-- A runaway argument is an error, and with its next line an excerpt or all is lost. -/
theorem reactToRunaway_confined {statement : Text} (herror : ∀ text, M (.error text none))
    (hfatal : ∀ text, M (.fatal text)) (hexcerpt : ∀ lines, M (.excerpt lines)) :
    (reactToRunaway statement : Reaction ν Unit).Confined M F := by
  refine Reaction.Confined.bind ⟨herror _, nofun, trivial⟩ fun _ => ?_
  refine Reaction.Confined.bind (fun _ => trivial) fun next => ?_
  cases next with
  | none => exact trivial
  | some next =>
    dsimp only
    split
    · exact ⟨hfatal _, nofun, trivial⟩
    · exact ⟨hexcerpt _, trivial⟩

theorem confined (master : Text) :
    (grammar master : Grammar Unit Finding ν).Confined Finding.Allows Finding.IsLast := by
  intro found statement memory
  have hsilent : ∀ m : Message, m.tellsEnd = false → found.Allows m :=
    fun m hm ht => absurd (hm.symm.trans ht) Bool.false_ne_true
  cases found with
  | remark => exact ⟨hsilent _ rfl, trivial⟩
  | fileEntered name => exact ⟨nofun, hsilent _ rfl, trivial⟩
  | inclusion path => exact ⟨hsilent _ rfl, trivial⟩
  | warning line => exact fun state => ⟨nofun, hsilent _ rfl, nofun, trivial⟩
  | wrappedWarning => exact reactToWrapped_confined fun _ _ => hsilent _ rfl
  | formatWarning => exact ⟨hsilent _ rfl, trivial⟩
  | error file line description =>
    refine ⟨nofun, hsilent _ rfl, nofun, ?_⟩
    split
    · exact ⟨nofun, trivial⟩
    · exact trivial
  | runaway =>
    exact reactToRunaway_confined (fun _ => hsilent _ rfl) (fun _ => hsilent _ rfl)
      fun _ => hsilent _ rfl
  | transcript name => exact ⟨fun _ => ⟨name, rfl⟩, fun _ => ⟨name, rfl⟩, trivial⟩
  | alert =>
    dsimp only [grammar, react]
    split
    · exact ⟨hsilent _ rfl, nofun, trivial⟩
    · exact ⟨hsilent _ rfl, nofun, trivial⟩
  | fatal => exact ⟨hsilent _ rfl, nofun, nofun, trivial⟩

end Typesetting

/-! ## Latexmk -/

namespace Build

/-- Of a section's messages and entries nothing makes latexmk finish. -/
theorem openSection_confined (phase : Phase) (tool : Tool) (banner : Text) (nested : Nested Unit)
    (memory : Memory) {f : Delegated Unit × Memory → Reaction Unit α}
    (hf : ∀ closed, (f closed).Confined (fun _ => True) F) :
    ((openSection phase tool banner nested memory).bind f).Confined (fun _ => True) F :=
  ⟨trivial, fun _ _ _ _ _ => trivial, fun _ => ⟨trivial, hf _⟩⟩

theorem confined (master : Text) (watching : Bool) :
    (grammar master watching).Confined (fun _ _ => True)
      (fun found => watching = false ∧ found = .roundEnd) := by
  intro found statement memory
  cases found with
  | typesetting => exact openSection_confined _ _ _ _ _ fun _ => ⟨nofun, trivial⟩
  | bibtex => exact openSection_confined _ _ _ _ _ fun _ => trivial
  | biber => exact openSection_confined _ _ _ _ _ fun _ => trivial
  | index => exact openSection_confined _ _ _ _ _ fun _ => trivial
  | roundEnd =>
    cases watching with
    | true => exact ⟨trivial, fun state => trivial⟩
    | false => exact ⟨trivial, fun _ => ⟨rfl, rfl⟩, trivial⟩
  | chatter => exact ⟨trivial, trivial⟩
  | newRun =>
    show (beginRun memory).Confined _ _
    unfold beginRun
    split
    · exact fun state => ⟨trivial, nofun, trivial⟩
    · exact ⟨nofun, trivial⟩

end Build

variable [LineSource R]

/-- **The parser of a tool is done at the statement that ends the transcript of the tool.** There
is none for makeglossaries. -/
def Tool.SaysDone (tool : Tool) (master : Text) (verbose : Bool) (source : R) : Prop :=
  match tool with
  | .latex => (Typesetting.engine master).StopsAt (∃ name, · = .transcript name) verbose source
  | .bibtex => (Bibliography.bibtex : Grammar _ _ Unit).StopsAt (· = .finished) verbose source
  | .biber =>
    (Bibliography.biber : Grammar _ _ Unit).StopsAt (∃ path, · = .output path) verbose source
  | .makeindex =>
    (Index.grammar Index.defaultExtensions : Grammar _ _ Unit).StopsAt
      (∃ description path, · = .transcript description path) verbose source
  | .makeglossaries => False
  | .chktex => (Lint.grammar : Grammar _ _ Unit).StopsAt (· = .finished) verbose source
  | .latexmk => (Build.grammar master false).StopsAt (· = .roundEnd) verbose source

/-- **Where lines are left unread, a tool has said that it is done.** -/
theorem saysDone_of_unread {tool : Tool} {master : Text} {verbose : Bool} {source : R}
    (h : (parseTranscript tool master verbose source).unread ≠ []) :
    tool.SaysDone master verbose source := by
  cases tool with
  | latex => exact (Typesetting.confined master).stopsAt h
  | bibtex => exact Bibliography.bibtex_confined.stopsAt h
  | biber => exact Bibliography.biber_confined.stopsAt h
  | makeindex => exact (Index.confined _).stopsAt h
  | makeglossaries =>
    obtain ⟨_, _, _, _, -, -, -, hfinal, -⟩ := Glossary.confined.stopsAt h
    exact hfinal
  | chktex => exact Lint.confined.stopsAt h
  | latexmk =>
    obtain ⟨p, statement, behind, found, hpasses, hn, hc, hfinal, hend⟩ :=
      (Build.confined master false).stopsAt h
    exact ⟨p, statement, behind, found, hpasses, hn, hc, hfinal.2, hend⟩

end TexTranscript
