import TexTranscript.Grammar.Reaction
import TexTranscript.Pattern.Prospects
import TexTranscript.Pattern.Source

/-!
# Grammars and their parsers

A *grammar* is what there is to know about the output of one tool: an ordered
table of rules, how to react to what a rule reads off a statement, and what to
do when the transcript ends before the tool has said that it is done.

A *rule* is a pattern together with a reading of the texts it captures. The
reading may refuse them, though no table here ever has to: a rule then does not
apply. The first rule that applies decides; the reaction to a statement depends
on nothing but what that rule read, the statement itself, and what the grammar
remembers.

A *parser* takes statement after statement off the transcript until it is done
or nothing is left. Verbose parsers echo the statements that no rule applies
to. It reads from any line source, and the same lines lead to the same parse
(`Grammar.parse_overLines`).

## Main definitions

* `Rule`, `Grammar` – rules and grammars.
* `Grammar.Position` – a parse under way: what the grammar remembers, and the
  scope.
* `Grammar.dispatch` – what one statement does.
* `Grammar.consume`, `Grammar.parse` – a whole parse.
* `Grammar.nested` – a grammar as a parser the transcript can be handed to.
-/

namespace TexTranscript

/-- **A rule**: a pattern, and what to read off its groups. -/
structure Rule (ι : Type) where
  pattern : Pattern
  read : List Text → Option ι

/-- What the rule reads off a statement, if it applies. -/
def Rule.reading? {ι : Type} (r : Rule ι) (statement : Text) : Option ι :=
  (r.pattern.captures? statement).bind r.read

/-- A rule that reads the same off every statement it matches. -/
def Rule.sign {ι : Type} (pattern : Pattern) (found : ι) : Rule ι := ⟨pattern, fun _ => some found⟩

/-- **What there is to know about the output of a tool.** What the grammar
remembers is of type `σ`, what its rules read off a statement of type `ι`, and
what the parsers it hands the transcript to remember of type `ν`. -/
structure Grammar (σ ι ν : Type) where
  tool : Tool
  /-- In this order; the first one that applies decides. -/
  rules : List (Rule ι)
  /-- What is remembered at first. -/
  start : σ
  react : ι → Text → σ → Reaction ν σ
  /-- What to do when the transcript ends too early. -/
  atEnd : σ → Reaction ν σ := fun memory => .done memory

namespace Grammar

variable {σ ι ν ρ : Type}

/-- What the first rule that applies reads off a statement. -/
def classify (g : Grammar σ ι ν) (statement : Text) : Option ι :=
  g.rules.findSome? (·.reading? statement)

/-- The rule table as regular expressions. -/
def sources (g : Grammar σ ι ν) : List String := g.rules.map (·.pattern.anchored)

/-- **A parse under way.** -/
structure Position (R σ : Type) where
  /-- What the grammar remembers. -/
  memory : σ
  scope : Scope R

/-- A parse that has not read anything. -/
def begin {R : Type} (g : Grammar σ ι ν) (source : R) : Position R σ :=
  ⟨g.start, { unread := source }⟩

/-- The parse with something else still to be read. -/
def Position.withUnread {R S : Type} (p : Position R σ) (source : S) : Position S σ :=
  ⟨p.memory, p.scope.withUnread source⟩

variable {R : Type} [LineSource R]

/-- The parse, with the lines that are left as its source. -/
def Position.overLines (p : Position R σ) : Position (List Line) σ :=
  ⟨p.memory, p.scope.overLines⟩

/-- Carries out a reaction that leaves something to remember. -/
def Position.follow (p : Position R σ) (verbose : Bool) (r : Reaction ν σ) : Position R σ where
  memory := (r.run verbose p.scope).1
  scope := (r.run verbose p.scope).2

/-- What one statement does to a parse that has just read it. -/
def dispatch (g : Grammar σ ι ν) (verbose : Bool) (statement : Text) (p : Position R σ) :
    Position R σ :=
  match g.classify statement with
  | some found => p.follow verbose (g.react found statement p.memory)
  | none =>
    if verbose then { p with scope := p.scope.emit (.verbatim (String.ofList statement)) } else p

/-- **A statement does nothing to the source but ask.** -/
theorem dispatch_reads (g : Grammar σ ι ν) (verbose : Bool) (statement : Text)
    (p : Position R σ) :
    LineSource.Reads p.scope.unread (g.dispatch verbose statement p).scope.unread := by
  unfold dispatch
  split
  · exact Reaction.run_reads ..
  · split
    · exact .nothing
    · exact .nothing

/-- Reading a statement and dispatching it uses a line up. -/
theorem dispatch_length_lt (g : Grammar σ ι ν) (verbose : Bool) {statement : Text}
    {p : Position R σ} {source : R}
    (h : LineSource.takeStatement p.scope.unread = (some statement, source)) :
    (LineSource.lines (g.dispatch verbose statement (p.withUnread source)).scope.unread).length
      < (LineSource.lines p.scope.unread).length :=
  Nat.lt_of_le_of_lt
    (dispatch_reads g verbose statement (p.withUnread source)).lines_suffix.length_le
    (LineSource.lines_length_lt h)

/-- Takes statements off the transcript until the parser is done or nothing is
left. -/
def consume (g : Grammar σ ι ν) (verbose : Bool) (p : Position R σ) : Position R σ :=
  if p.scope.state.done then p
  else
    match _h : LineSource.takeStatement p.scope.unread with
    | (none, source) => p.withUnread source
    | (some statement, source) =>
      consume g verbose (g.dispatch verbose statement (p.withUnread source))
termination_by (LineSource.lines p.scope.unread).length
decreasing_by exact dispatch_length_lt g verbose _h

/-- Takes statements off the transcript until the parser is done, nothing is left, or a
statement has led to where one stops. -/
def consumeUntil (g : Grammar σ ι ν) (verbose : Bool) (stop : Position R σ → Bool)
    (p : Position R σ) : Position R σ :=
  if p.scope.state.done then p
  else
    match _h : LineSource.takeStatement p.scope.unread with
    | (none, source) => p.withUnread source
    | (some statement, source) =>
      let q := g.dispatch verbose statement (p.withUnread source)
      if stop q then q else consumeUntil g verbose stop q
termination_by (LineSource.lines p.scope.unread).length
decreasing_by exact dispatch_length_lt g verbose _h

/-- A parser that is done takes nothing. -/
theorem consume_of_done (g : Grammar σ ι ν) (verbose : Bool) {p : Position R σ}
    (h : p.scope.state.done = true) : g.consume verbose p = p := by
  rw [consume, if_pos h]

/-- Where no statement is left, only the question for one is asked. -/
theorem consume_of_none (g : Grammar σ ι ν) (verbose : Bool) {p : Position R σ} {source : R}
    (hd : ¬p.scope.state.done = true)
    (h : LineSource.takeStatement p.scope.unread = (none, source)) :
    g.consume verbose p = p.withUnread source := by
  rw [consume, if_neg hd]
  split
  · next h' => rw [h, Prod.mk.injEq] at h'; rw [h'.2]
  · next h' => simp [h] at h'

/-- A statement is dispatched, and then come the others. -/
theorem consume_of_some (g : Grammar σ ι ν) (verbose : Bool) {p : Position R σ} {source : R}
    {statement : Text} (hd : ¬p.scope.state.done = true)
    (h : LineSource.takeStatement p.scope.unread = (some statement, source)) :
    g.consume verbose p
      = g.consume verbose (g.dispatch verbose statement (p.withUnread source)) := by
  rw [consume, if_neg hd]
  split
  · next h' => simp [h] at h'
  · next h' =>
    rw [h, Prod.mk.injEq, Option.some.injEq] at h'
    rw [h'.1, h'.2]

/-- **A stop can be passed over.** Going on after it leads to the same end. The
source may have to answer once more that nothing is left, so this is about
lists of lines, which do not notice. -/
theorem consume_consumeUntil (g : Grammar σ ι ν) (verbose : Bool)
    (stop : Position (List Line) σ → Bool) (p : Position (List Line) σ) :
    g.consume verbose (g.consumeUntil verbose stop p) = g.consume verbose p := by
  fun_induction consumeUntil g verbose stop p with
  | case1 p h => rfl
  | case2 p h source hn =>
    rw [consume_of_none g verbose h hn]
    have hs : source = [] := (LineSource.lines_of_takeStatement_none hn).2
    rw [hs]
    exact consume_of_none g verbose h rfl
  | case3 p h statement source hn q hs => rw [consume_of_some g verbose h hn]
  | case4 p h statement source hn q hs ih => rw [ih, consume_of_some g verbose h hn]

/-- **A whole parse.** A transcript that ends too early is followed by what the
grammar does then. Parsing again from where a parse ended does nothing if it was
done, and only the latter if it was not. -/
def parse (g : Grammar σ ι ν) (verbose : Bool) (p : Position R σ) : Position R σ :=
  let q := g.consume verbose p
  if q.scope.state.done then q else q.follow verbose (g.atEnd q.memory)

theorem consume_reads (g : Grammar σ ι ν) (verbose : Bool) (p : Position R σ) :
    LineSource.Reads p.scope.unread (g.consume verbose p).scope.unread := by
  fun_induction consume g verbose p with
  | case1 p h => exact .nothing
  | case2 p h source hn => exact .of_takeStatement hn
  | case3 p h statement source hn ih =>
    have hd := dispatch_reads g verbose statement (p.withUnread source)
    exact ((LineSource.Reads.of_takeStatement hn).trans hd).trans ih

/-- **A parse does nothing to its source but ask.** -/
theorem parse_reads (g : Grammar σ ι ν) (verbose : Bool) (p : Position R σ) :
    LineSource.Reads p.scope.unread (g.parse verbose p).scope.unread := by
  unfold parse
  dsimp only
  split
  · exact consume_reads ..
  · exact (consume_reads ..).trans (Reaction.run_reads ..)

/-! ## Only the lines matter -/

theorem follow_overLines (verbose : Bool) (r : Reaction ν σ) (p : Position R σ) :
    (p.follow verbose r).overLines = p.overLines.follow verbose r := by
  have h := Reaction.run_overLines verbose r p.scope
  unfold Position.follow Position.overLines
  rw [h]
  rfl

theorem dispatch_overLines (g : Grammar σ ι ν) (verbose : Bool) (statement : Text)
    (p : Position R σ) :
    (g.dispatch verbose statement p).overLines = g.dispatch verbose statement p.overLines := by
  unfold dispatch
  split
  · exact follow_overLines ..
  · split
    · rfl
    · rfl

theorem consume_overLines (g : Grammar σ ι ν) (verbose : Bool) (p : Position R σ) :
    (g.consume verbose p).overLines = g.consume verbose p.overLines := by
  fun_induction consume g verbose p with
  | case1 p h => exact (consume_of_done g verbose (p := p.overLines) h).symm
  | case2 p h source hn =>
    have hl := LineSource.lines_of_takeStatement_none hn
    have hp : LineSource.takeStatement p.overLines.scope.unread
        = (none, LineSource.lines source) := by
      show Statement.take (LineSource.lines p.scope.unread) = _
      rw [hl.1, hl.2]
      rfl
    rw [consume_of_none g verbose (p := p.overLines) h hp]
    rfl
  | case3 p h statement source hn ih =>
    have hp : LineSource.takeStatement p.overLines.scope.unread
        = (some statement, LineSource.lines source) := by
      show Statement.take (LineSource.lines p.scope.unread) = _
      rw [← LineSource.lines_takeStatement, hn]
      rfl
    rw [ih, dispatch_overLines, consume_of_some g verbose (p := p.overLines) h hp]
    rfl

/-- **The same lines lead to the same parse**, whatever the source is that they
come from. -/
theorem parse_overLines (g : Grammar σ ι ν) (verbose : Bool) (p : Position R σ) :
    (g.parse verbose p).overLines = g.parse verbose p.overLines := by
  have hc := consume_overLines g verbose p
  unfold parse
  dsimp only
  rw [← hc]
  show _ = if (g.consume verbose p).scope.state.done = true then _ else _
  split
  · rfl
  · exact follow_overLines ..

/-- What a parse leaves behind; `close` is what is of interest of its memory. -/
def Position.handback {R : Type} (p : Position R σ) (close : σ → ρ) : Handback R ρ :=
  ⟨⟨p.scope.state, close p.memory⟩, p.scope.messages, p.scope.unread⟩

/-- The grammar as a parser that the transcript can be handed to; `close` is
what is of interest of its memory in the end. -/
def nested (g : Grammar σ ι ν) (close : σ → ρ) : Nested ρ where
  parse verbose source := (g.parse verbose (g.begin source)).handback close
  reads verbose source := parse_reads g verbose (g.begin source)
  parse_overLines verbose source :=
    congrArg (·.handback close) (parse_overLines g verbose (g.begin source))

end Grammar

end TexTranscript
