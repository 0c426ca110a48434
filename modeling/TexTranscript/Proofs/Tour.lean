import TexTranscript.Proofs.Passing

/-!
# How latexmk goes through a transcript

Latexmk goes through a transcript statement by statement. What it says by itself it
says on the spot, and goes on with the next statement. At the banner of a tool it
stands aside: what is said between the two messages of the section is what the
parser of the tool says of the lines behind the banner when it is on its own, and
latexmk goes on where that parser stops.

`Build.Tour` tells this of a whole transcript, as a list of *items*: the messages of
latexmk itself, and the sections. Everything in it is about lines and about parses
that stand alone, so that a section is known when the lines behind its banner are.

## Main definitions

* `Build.finding?`, `Build.bannerOf?` – what a statement says, and the tool whose banner it is.
* `Build.Item`, `Build.Tour` – what there is on the way, and the way.

## Main statements

* `Build.dispatch_section`, `Build.dispatch_own` – what one statement comes to.
* `Build.exists_tour` – every parse of latexmk is a tour.
-/

namespace TexTranscript

/-- The message opens or closes a section. -/
def Message.isEdge : Message → Bool
  | toolStarted .. => true
  | toolFinished .. => true
  | _ => false

/-- The message is one that latexmk emits by itself. -/
def Message.isOwnOfBuild : Message → Bool
  | latexmk .. => true
  | runSummary .. => true
  | verbatim .. => true
  | _ => false

namespace Build

open Grammar (Position)

/-- The tool of which a finding is the banner. -/
def Finding.tool? : Finding → Option Tool
  | typesetting => some .latex
  | bibtex => some .bibtex
  | biber => some .biber
  | index => some .makeindex
  | _ => none

/-- **What a statement says**, as the first rule has it that applies. -/
def finding? (statement : Text) : Option Finding := rules.findSome? (·.reading? statement)

/-- The tool whose banner a statement is. -/
def bannerOf? (statement : Text) : Option Tool := (finding? statement).bind Finding.tool?

/-- The tools that have sections. -/
def sectionTools : List Tool := [.latex, .bibtex, .biber, .makeindex]

/-- The tool of a banner is one that latexmk opens sections for. -/
theorem mem_sectionTools {statement : Text} {tool : Tool} (h : bannerOf? statement = some tool) :
    tool ∈ sectionTools := by
  obtain ⟨found, -, ht⟩ := Option.bind_eq_some_iff.1 h
  cases found with
  | typesetting => obtain rfl := Option.some.inj ht; exact .head _
  | bibtex => obtain rfl := Option.some.inj ht; exact .tail _ (.head _)
  | biber => obtain rfl := Option.some.inj ht; exact .tail _ (.tail _ (.head _))
  | index => obtain rfl := Option.some.inj ht; exact .tail _ (.tail _ (.tail _ (.head _)))
  | _ => exact absurd ht (Option.some_ne_none _).symm

/-- **What there is on the way** of latexmk: a message of its own, or a section, of which it is
enough to know the lines behind the banner. -/
inductive Item where
  | own (message : Message)
  | inSection (tool : Tool) (banner : String) (behind : List Line)

namespace Item

variable (master : Text) (verbose : Bool)

/-- The messages of an item. Those of a section are what the tool says of its lines, on its
own, between the message that opens the section and the one that closes it. -/
def messages : Item → List Message
  | own message => [message]
  | inSection tool banner behind =>
    .toolStarted tool banner :: (parseTranscript tool master verbose behind).messages ++
      [.toolFinished tool]

/-- The outcome of an item. Nothing comes of what latexmk says by itself. -/
def outcome : Item → Outcome
  | own _ => .clean
  | inSection tool _ behind => (parseTranscript tool master verbose behind).outcome

/-- The outcomes of items, added up. -/
def total : List Item → Outcome
  | [] => .clean
  | item :: items => item.outcome master verbose + total items

/-- What items come to is added up. -/
theorem total_append (items items' : List Item) :
    total master verbose (items ++ items')
      = total master verbose items + total master verbose items' := by
  induction items with
  | nil => exact (Outcome.clean_add _).symm
  | cons item items ih =>
    show item.outcome master verbose + total master verbose (items ++ items') = _
    rw [ih, ← Outcome.add_assoc]
    rfl

/-- Messages of latexmk itself come to nothing. -/
theorem total_own (ms : List Message) : total master verbose (ms.map own) = .clean := by
  induction ms with
  | nil => rfl
  | cons m ms ih => exact (Outcome.clean_add _).trans ih

/-- The messages of items that are messages of latexmk are these. -/
theorem messages_own (ms : List Message) :
    (ms.map own).flatMap (messages master verbose) = ms := by
  induction ms with
  | nil => rfl
  | cons m ms ih => exact congrArg (m :: ·) ih

end Item

/-- **How latexmk goes** from some lines to others. A section begins with the banner of its
tool, and goes as far as the tool does that is on its own with the lines behind it. -/
inductive Tour (master : Text) (verbose : Bool) : List Line → List Item → List Line → Prop
  | stopped (ls : List Line) : Tour master verbose ls [] ls
  | own {ls behind unread : List Line} {statement : Text} {ms : List Message} {items : List Item}
      (hn : Statement.next? ls = some (statement, behind)) (hb : bannerOf? statement = none)
      (hown : ∀ m ∈ ms, m.isOwnOfBuild = true) (rest : Tour master verbose behind items unread) :
      Tour master verbose ls (ms.map .own ++ items) unread
  | inSection {ls behind unread : List Line} {statement : Text} {tool : Tool} {items : List Item}
      (hn : Statement.next? ls = some (statement, behind)) (hb : bannerOf? statement = some tool)
      (rest : Tour master verbose (parseTranscript tool master verbose behind).unread items
        unread) :
      Tour master verbose ls
        (.inSection tool (String.ofList (Text.trim statement)) behind :: items) unread

variable {R σ ι : Type} [LineSource R] {master : Text} {watching verbose : Bool}

/-! ## One statement -/

/-- The scope after a section, in which a grammar has parsed. -/
def closed (g : Grammar σ ι Unit) (verbose : Bool) (tool : Tool) (banner : String) (s : Scope R) :
    Scope R :=
  ((s.emit (.toolStarted tool banner)).takeOver
    ((g.parse verbose (g.begin s.unread)).handback fun _ => ())).emit (.toolFinished tool)

/-- Where a section is closed, the log is the one before with that of the grammar enclosed, for
every tool but an engine. -/
theorem log_closed_of_ne {tool : Tool} (h : tool ≠ .latex) (g : Grammar σ ι Unit) (verbose : Bool)
    (banner : String) (s : Scope R) :
    (closed g verbose tool banner s).log
      = s.log.enclose tool banner (g.parse verbose (g.begin s.unread)).scope.log := by
  unfold closed
  rw [Scope.log_emit, Scope.log_takeOver, Scope.log_emit, ← enclose_of_ne h]
  rfl

/-- Where the section of an engine is closed, its marks are put in the place of those before. -/
theorem log_closed_latex (g : Grammar σ ι Unit) (verbose : Bool) (banner : String) (s : Scope R) :
    (closed g verbose .latex banner s).log.record
      (.replaceMarks (g.parse verbose (g.begin s.unread)).scope.state.marks)
      = s.log.enclose .latex banner (g.parse verbose (g.begin s.unread)).scope.log := by
  unfold closed
  rw [Scope.log_emit, Scope.log_takeOver, Scope.log_emit, ← enclose_latex]
  rfl

/-- **A statement that is a banner comes to a section.** Its messages, its counts and the lines
that it leaves unread are those of the tool on its own. -/
theorem dispatch_section (master : Text) (watching verbose : Bool) {statement : Text} {tool : Tool}
    (h : bannerOf? statement = some tool) (p : Position R Memory) :
    ∃ nested : Log,
      (parseTranscript tool master verbose p.scope.unread).Of nested ∧
      ((grammar master watching).dispatch verbose statement p).scope.log
        = p.scope.log.enclose tool (String.ofList (Text.trim statement)) nested ∧
      LineSource.lines ((grammar master watching).dispatch verbose statement p).scope.unread
        = (parseTranscript tool master verbose p.scope.unread).unread := by
  obtain ⟨found, hc, ht⟩ := Option.bind_eq_some_iff.1 h
  have hdispatch : (grammar master watching).dispatch verbose statement p
      = p.follow verbose (react master watching found statement p.memory) := by
    unfold Grammar.dispatch
    have hc' : (grammar master watching).classify statement = some found := hc
    rw [hc']
    rfl
  rw [hdispatch]
  -- the marks of an engine replace those before it, while other tools leave them
  cases found with
  | typesetting =>
    obtain rfl := Option.some.inj ht
    exact ⟨_, Report.of_ofScope _ 1, log_closed_latex (Typesetting.grammar master) _ _ _, rfl⟩
  | bibtex =>
    obtain rfl := Option.some.inj ht
    exact ⟨_, Report.of_ofScope _ 1, log_closed_of_ne (by decide) Bibliography.bibtex _ _ _, rfl⟩
  | biber =>
    obtain rfl := Option.some.inj ht
    exact ⟨_, Report.of_ofScope _ 1, log_closed_of_ne (by decide) Bibliography.biber _ _ _, rfl⟩
  | index =>
    obtain rfl := Option.some.inj ht
    exact ⟨_, Report.of_ofScope _ 1,
      log_closed_of_ne (by decide) (Index.grammar Index.defaultExtensions) _ _ _, rfl⟩
  | _ => exact absurd ht (Option.some_ne_none _).symm

/-- **Any other statement comes to messages of latexmk itself**, which count nothing and read
nothing. -/
theorem dispatch_own (master : Text) (watching verbose : Bool) {statement : Text}
    (h : bannerOf? statement = none) (p : Position R Memory) :
    ∃ ms : List Message, (∀ m ∈ ms, m.isOwnOfBuild = true) ∧
      ((grammar master watching).dispatch verbose statement p).scope.log.messages
        = p.scope.log.messages ++ ms ∧
      ((grammar master watching).dispatch verbose statement p).scope.state.outcome
        = p.scope.state.outcome ∧
      ((grammar master watching).dispatch verbose statement p).scope.unread = p.scope.unread := by
  unfold Grammar.dispatch
  rcases hc : (grammar master watching).classify statement with _ | found
  · cases verbose with
    | false => exact ⟨[], by simp, (List.append_nil _).symm, rfl, rfl⟩
    | true =>
      refine ⟨[.verbatim (String.ofList statement)], by simp [Message.isOwnOfBuild], ?_, rfl, rfl⟩
      exact congrArg Log.messages (Scope.log_emit p.scope _)
  -- every other finding opens a section
  have hb : found.tool? = none := by
    have hb : bannerOf? statement = found.tool? := congrArg (·.bind Finding.tool?) hc
    rwa [h, eq_comm] at hb
  have hsaid : (p.scope.emit (.latexmk (String.ofList statement))).log.messages
      = p.scope.log.messages ++ [.latexmk (String.ofList statement)] :=
    congrArg Log.messages (Scope.log_emit p.scope _)
  cases found with
  | roundEnd =>
    refine ⟨[.latexmk (String.ofList statement)], by simp [Message.isOwnOfBuild], ?_⟩
    cases watching with
    | true => exact ⟨hsaid, rfl, rfl⟩
    | false => exact ⟨hsaid, rfl, rfl⟩
  | chatter =>
    exact ⟨[.latexmk (String.ofList statement)], by simp [Message.isOwnOfBuild], hsaid, rfl, rfl⟩
  | newRun =>
    show ∃ ms : List Message, _ ∧ ((beginRun p.memory).run verbose p.scope).2.log.messages = _ ∧
      ((beginRun p.memory).run verbose p.scope).2.state.outcome = _ ∧
      ((beginRun p.memory).run verbose p.scope).2.unread = _
    unfold beginRun
    by_cases hr : p.memory.runs > 0
    · rw [if_pos hr]
      refine ⟨[.runSummary p.memory.runs p.scope.state.tally.run.errors
        p.scope.state.tally.run.warnings], by simp [Message.isOwnOfBuild], ?_, rfl, rfl⟩
      exact congrArg Log.messages (Scope.log_emit p.scope _)
    · rw [if_neg hr]
      exact ⟨[], by simp, (List.append_nil _).symm, rfl, rfl⟩
  | _ => exact absurd hb (Option.some_ne_none _)

/-! ## A whole transcript -/

/-- A parse of latexmk from any position on is a tour. Each statement adds a section, or messages of
latexmk itself. -/
theorem exists_tour_consume (master : Text) (watching verbose : Bool) (p : Position R Memory) :
    ∃ items, Tour master verbose (LineSource.lines p.scope.unread) items
        (LineSource.lines ((grammar master watching).consume verbose p).scope.unread) ∧
      ((grammar master watching).consume verbose p).scope.log.messages
        = p.scope.log.messages ++ items.flatMap (Item.messages master verbose) ∧
      ((grammar master watching).consume verbose p).scope.state.outcome
        = p.scope.state.outcome + Item.total master verbose items := by
  fun_induction Grammar.consume (grammar master watching) verbose p with
  | case1 p hd =>
    exact ⟨[], .stopped _, (List.append_nil _).symm, (Outcome.add_clean _).symm⟩
  | case2 p hd source hn =>
    obtain ⟨hlines, hlines'⟩ := LineSource.lines_of_takeStatement_none hn
    refine ⟨[], ?_, (List.append_nil _).symm, (Outcome.add_clean _).symm⟩
    show Tour master verbose _ [] (LineSource.lines source)
    rw [hlines, hlines']
    exact .stopped []
  | case3 p hd statement source hn ih =>
    obtain ⟨items, hrest, hmessages, houtcome⟩ := ih
    have hnext := LineSource.next?_of_takeStatement_some hn
    rcases hb : bannerOf? statement with _ | tool
    · obtain ⟨ms, hown, hms, hout, hunread⟩ := dispatch_own master watching verbose hb
        (p.withUnread source)
      rw [hunread] at hrest
      refine ⟨ms.map .own ++ items, .own hnext hb hown hrest, ?_, ?_⟩
      · rw [hmessages, hms, List.flatMap_append, Item.messages_own, List.append_assoc]
        rfl
      · rw [houtcome, hout, Item.total_append, Item.total_own, Outcome.clean_add]
        rfl
    -- a tour is about lines, of which the parser of the section reads the same as of the source
    · obtain ⟨nested, hof, hlog, hunread⟩ := dispatch_section master watching verbose hb
        (p.withUnread source)
      have hlines := parseTranscript_eq_lines tool master verbose source
      rw [show (p.withUnread source).scope.unread = source from rfl, hlines] at hof hunread
      rw [hunread] at hrest
      refine ⟨_, .inSection hnext hb hrest, ?_, ?_⟩
      · rw [hmessages, hlog, List.flatMap_cons, ← List.append_assoc]
        show p.scope.log.messages ++ (.toolStarted tool _ :: nested.messages ++ _) ++ _ = _
        rw [← hof.messages]
        rfl
      · have hout : ((grammar master watching).dispatch verbose statement
            (p.withUnread source)).scope.state.outcome
            = p.scope.state.outcome + nested.state.outcome := congrArg (·.state.outcome) hlog
        rw [houtcome, hout, ← hof.outcome, Outcome.add_assoc]
        rfl

/-- **Every parse of latexmk is a tour** of the lines of its transcript. -/
theorem exists_tour (master : Text) (watching verbose : Bool) (source : R) :
    ∃ items, Tour master verbose (LineSource.lines source) items
        (parseBuild master watching verbose source).unread ∧
      (parseBuild master watching verbose source).messages
        = items.flatMap (Item.messages master verbose) ∧
      (parseBuild master watching verbose source).outcome
        = Item.total master verbose items := by
  obtain ⟨items, htour, hmessages, houtcome⟩ := exists_tour_consume master watching verbose
    ((grammar master watching).begin source)
  rw [← parse_eq_consume] at htour hmessages houtcome
  exact ⟨items, htour, hmessages.trans (List.nil_append _), houtcome.trans (Outcome.clean_add _)⟩

end Build

end TexTranscript
