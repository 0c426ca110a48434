import TexTranscript.Proofs.Attribution
import TexTranscript.Proofs.Turns

/-!
# The types of glossaries

The glossary maker announces a type of glossary together with the extensions of its files, and
names a file when it is done. The parser keeps a registry in order to name the type instead; a type
may be announced again and again, for any extensions.

The messages alone tell what is in the registry: an extension stands for the type of the latest
message that announces one for it (`Glossary.announcedLast?`). So whatever is looked up can be told
from the messages in front of it. What a parser of makeindex says that is called meanwhile does not
count, for it announces nothing.

## Main definitions

* `Glossary.announcedLast?`, `Glossary.typeAfter` – the type that an extension stands for after some
  messages.
* `Glossary.Says` – what a statement leads to.

## Main statements

* `Glossary.exists_says` – all that a statement can lead to.
* `Glossary.registry_follows_messages` – the registry against the messages, and the look-ups
  against what stands in front of them.
-/

namespace TexTranscript

/-- The message is about a type of glossary. -/
def Message.isOfGlossary : Message → Bool
  | glossaryType .. | glossaryFinished .. | xindyRun .. => true
  | _ => false

namespace Glossary

/-! ## What the messages tell -/

/-- The extensions that a text lists between commas. -/
def listed (files : Text) : List Text := (Text.pieces ',' files).map Text.trim

/-- The type that a message announces for an extension. -/
def announced? (extension : Text) : Message → Option Text
  | .glossaryType name files => if extension ∈ listed files.toList then some name.toList else none
  | _ => none

/-- **The type that was announced last** for an extension. -/
def announcedLast? (extension : Text) (messages : List Message) : Option Text :=
  (messages.filterMap (announced? extension)).getLast?

/-- **The type that an extension stands for** after some messages: the one that was announced for
it last, and the extension itself if there was none. -/
def typeAfter (messages : List Message) (extension : Text) : Text :=
  (announcedLast? extension messages).getD extension

/-- **The registry knows** what the messages tell. -/
def Registry.Knows (registry : Registry) (messages : List Message) : Prop :=
  ∀ extension, registry.typeOf? extension = announcedLast? extension messages

variable {registry registry' : Registry} {messages : List Message} {extension name files : Text}

/-- What is announced last is what the later messages announce, if they do, and otherwise what the
earlier ones did. -/
theorem announcedLast?_append (extension : Text) (messages more : List Message) :
    announcedLast? extension (messages ++ more)
      = (announcedLast? extension more).or (announcedLast? extension messages) := by
  unfold announcedLast?
  rw [List.filterMap_append, List.getLast?_append]

/-- One message announces a type for the extensions that it lists. -/
theorem announcedLast?_singleton (extension : Text) (name files : String) :
    announcedLast? extension [.glossaryType name files]
      = if extension ∈ listed files.toList then some name.toList else none := by
  unfold announcedLast? announced?
  rw [List.filterMap_cons]
  dsimp only
  split
  · next hnone => rw [hnone]; rfl
  · next found hsome => rw [hsome]; rfl

/-- What is not about glossaries announces nothing. -/
theorem announcedLast?_eq_none (h : ∀ m ∈ messages, m.isOfGlossary = false) :
    announcedLast? extension messages = none := by
  unfold announcedLast?
  rw [List.getLast?_eq_none_iff, List.filterMap_eq_nil_iff]
  intro m hm
  have hm := h m hm
  cases m with
  | glossaryType name files => exact Bool.noConfusion hm
  | _ => rfl

/-- **To announce a type** is to let the extensions that are listed stand for it. The new entries
come before the old ones, and they have the listed extensions. -/
theorem typeOf?_announce : (registry.announce name files).typeOf? extension
    = if extension ∈ listed files then some name else registry.typeOf? extension := by
  have hfind : (registry.announce name files).find? (·.1 == extension)
      = (((listed files).map fun other => (other, name)).reverse.find? (·.1 == extension)).or
        (registry.find? (·.1 == extension)) := by
    rw [listed, List.map_map, ← List.find?_append]
    rfl
  unfold Registry.typeOf?
  rw [hfind]
  split
  · next hmem =>
    -- there is an entry, and all entries have this name
    have hsome : (((listed files).map fun other => (other, name)).reverse.find?
        (·.1 == extension)).isSome = true := by
      rw [List.find?_isSome]
      exact ⟨(extension, name), by simpa using hmem, beq_self_eq_true extension⟩
    obtain ⟨entry, hentry⟩ := Option.isSome_iff_exists.1 hsome
    have hname : entry.2 = name := by
      have hin := List.mem_of_find?_eq_some hentry
      rw [List.mem_reverse, List.mem_map] at hin
      obtain ⟨other, -, rfl⟩ := hin
      rfl
    rw [hentry]
    exact congrArg some hname
  · next hmem =>
    have hnone : ((listed files).map fun other => (other, name)).reverse.find?
        (·.1 == extension) = none := by
      rw [List.find?_eq_none]
      intro entry hin
      rw [List.mem_reverse, List.mem_map] at hin
      obtain ⟨other, hother, rfl⟩ := hin
      rw [beq_iff_eq]
      exact fun hsame => hmem (hsame ▸ hother)
    rw [hnone, Option.none_or]

/-- A registry that knows what the messages tell has the type that they tell. -/
theorem Registry.Knows.typeOf_eq (h : registry.Knows messages) (extension : Text) :
    registry.typeOf extension = typeAfter messages extension :=
  congrArg (·.getD extension) (h extension)

/-! ## What a statement leads to -/

/-- **What a statement leads to**, given what was read off it: what is said of it, and the
registry afterwards. -/
inductive Says (found? : Option Finding) (registry : Registry) : List Message → Registry → Prop
  | announcement {name files : Text} (h : found? = some (.glossaryType name files)) :
      Says found? registry [.glossaryType (String.ofList name) (String.ofList files)]
        (registry.announce name files)
  | finished {path : Text} (h : found? = some (.finished path)) :
      Says found? registry
        [.glossaryFinished (String.ofList (registry.typeOf (Text.afterLast '.' path)))
          (String.ofList path)] registry
  | xindy {language extension : Text} (h : found? = some (.xindy language extension)) :
      Says found? registry
        [.xindyRun (String.ofList (registry.typeOf extension)) (String.ofList language)] registry
  /-- Nothing is announced, and nothing is looked up. -/
  | other {said : List Message} (h : ∀ m ∈ said, m.isOfGlossary = false) :
      Says found? registry said registry

/-- **What a statement leads to keeps the registry true to the messages.** Only an announcement
changes either of them. -/
theorem Says.knows {found? : Option Finding} {said : List Message}
    (h : Says found? registry said registry') (hknows : registry.Knows messages) :
    registry'.Knows (messages ++ said) := by
  intro extension
  rw [announcedLast?_append, ← hknows extension]
  cases h with
  | announcement =>
    rw [typeOf?_announce, announcedLast?_singleton, String.toList_ofList, String.toList_ofList]
    split
    · rfl
    · rfl
  | finished => rfl
  | xindy => rfl
  | other h => rw [announcedLast?_eq_none h, Option.none_or]

/-- Makeindex says nothing of glossaries. -/
theorem isOfGlossary_of_returns {d : Delegated Unit} {said : List Message}
    (h : ((Index.grammar indexExtensions : Grammar Unit Index.Finding Unit).nested id).Returns d
      said) : ∀ m ∈ said, m.isOfGlossary = false := by
  have hconfined : (Index.grammar indexExtensions : Grammar Unit Index.Finding Unit).Confined
      (fun _ m => m.isOfGlossary = false) fun _ => True := by
    intro found statement memory
    cases found with
    | transcript description path => exact ⟨rfl, fun _ => trivial, trivial⟩
    | _ => exact ⟨rfl, trivial⟩
  obtain ⟨_, -, hsaid⟩ := (hconfined.keeps (fun _ => rfl) fun _ => trivial).of_returns h
  exact hsaid

variable {R : Type} [LineSource R]

/-- **All that a statement can lead to.** The cases are those of the findings; a run of makeindex is
the only one in other hands. -/
theorem exists_says (verbose : Bool) (statement : Text) (p : Grammar.Position R Memory) :
    ∃ said, (grammar.dispatch verbose statement p).scope.log.messages
        = p.scope.log.messages ++ said ∧
      Says (grammar.classify statement) p.memory.registry said
        (grammar.dispatch verbose statement p).memory.registry ∧
      (grammar.dispatch verbose statement p).scope.state.done = p.scope.state.done := by
  have hsingle {m : Message} (h : m.isOfGlossary = false) : ∀ m' ∈ [m], m'.isOfGlossary = false :=
    List.forall_mem_singleton.2 h
  unfold Grammar.dispatch
  rcases grammar.classify statement with _ | found
  · cases verbose with
    | false => exact ⟨[], (List.append_nil _).symm, .other (List.forall_mem_nil _), rfl⟩
    | true =>
      refine ⟨[.verbatim (String.ofList statement)], ?_, .other (hsingle rfl), rfl⟩
      exact congrArg Log.messages (Scope.log_emit p.scope _)
  · refine Reaction.run_ensures verbose (s := p.scope) (r := react found statement p.memory)
      (Q := fun memory log => ∃ said, log.messages = p.scope.log.messages ++ said ∧
        Says (some found) p.memory.registry said memory.registry ∧
        log.state.done = p.scope.state.done) ?_
    cases found with
    | makeindex number =>
      intro d said hreturns
      refine ⟨_, List.append_assoc .., .other (List.forall_mem_append.2 ⟨hsingle rfl, ?_⟩), rfl⟩
      exact isOfGlossary_of_returns hreturns
    | version number => exact ⟨_, rfl, .other (hsingle rfl), rfl⟩
    | glossaryType name files => exact ⟨_, rfl, .announcement rfl, rfl⟩
    | progress description file status => exact ⟨_, rfl, .other (hsingle rfl), rfl⟩
    | artifact description path => exact ⟨_, rfl, .other (hsingle rfl), rfl⟩
    | finished path => exact ⟨_, rfl, .finished rfl, rfl⟩
    | xindy language extension => exact ⟨_, rfl, .xindy rfl, rfl⟩
    | warning => exact ⟨_, rfl, .other (hsingle rfl), rfl⟩
    | error => exact ⟨_, rfl, .other (hsingle rfl), rfl⟩
    | remark => exact ⟨_, rfl, .other (hsingle rfl), rfl⟩

/-! ## What all statements lead to -/

/-- A message about a glossary is all that is said of its statement. -/
theorem Says.eq_singleton {found? : Option Finding} {said more after : List Message} {m : Message}
    (h : Says found? registry said registry') (hsplit : said = more ++ m :: after)
    (hm : m.isOfGlossary = true) : more = [] ∧ said = [m] := by
  have hone {m' : Message} (hsplit : [m'] = more ++ m :: after) : more = [] ∧ [m'] = [m] := by
    cases more with
    | nil => exact ⟨rfl, congrArg ([·]) (List.cons.inj hsplit).1⟩
    | cons _ more =>
      exact absurd (List.append_eq_nil_iff.1 (List.cons.inj hsplit).2.symm).2 (List.cons_ne_nil m _)
  cases h with
  | announcement => exact hone hsplit
  | finished => exact hone hsplit
  | xindy => exact hone hsplit
  | other h =>
    have hmem : m ∈ said := hsplit ▸ List.mem_append_right more List.mem_cons_self
    exact absurd ((h m hmem).symm.trans hm) Bool.false_ne_true

/-- **The type that is named for a file** is the one that the registry has for its extension. -/
theorem Says.name_eq {found? : Option Finding} {name path : String}
    (h : Says found? registry [.glossaryFinished name path] registry') :
    name = String.ofList (registry.typeOf (Text.afterLast '.' path.toList)) := by
  cases h with
  | finished => rw [String.toList_ofList]
  | other h => exact Bool.noConfusion (h _ (List.mem_singleton_self _))

/-- **The type that is named for a run of xindy** is the one that the registry has for the extension
that was captured. -/
theorem Says.exists_xindy {found? : Option Finding} {glossary language : String}
    (h : Says found? registry [.xindyRun glossary language] registry') :
    ∃ captured extension, found? = some (.xindy captured extension) ∧
      language = String.ofList captured ∧
      glossary = String.ofList (registry.typeOf extension) := by
  cases h with
  | xindy h => exact ⟨_, _, h, rfl, rfl⟩
  | other h => exact Bool.noConfusion (h _ (List.mem_singleton_self _))

/-- What stands in a list with others at its end is one of those, or stood in it before. -/
theorem split_append {α : Type} {l more before after : List α} {a : α}
    (h : l ++ more = before ++ a :: after) :
    (∃ after', l = before ++ a :: after') ∨
      ∃ between, before = l ++ between ∧ more = between ++ a :: after := by
  rcases List.append_eq_append_iff.1 h with ⟨between, rfl, rfl⟩ | ⟨between, rfl, hbetween⟩
  · exact .inr ⟨between, rfl, rfl⟩
  · cases between with
    | nil => exact .inr ⟨[], by rw [List.append_nil, List.append_nil], hbetween.symm⟩
    | cons b between =>
      obtain ⟨rfl, -⟩ := List.cons.inj hbetween
      exact .inl ⟨between, rfl⟩

/-- **After some turns** the registry knows what the messages tell, and whatever was looked up is
what the messages told in front of it. The parser is not done. -/
structure Follows (turns : List Turn) (memory : Memory) (log : Log) : Prop where
  going : log.state.done = false
  messages : log.messages = turns.flatMap (·.said)
  knows : memory.registry.Knows log.messages
  finished : ∀ before name path after,
    log.messages = before ++ .glossaryFinished name path :: after →
      name = String.ofList (typeAfter before (Text.afterLast '.' path.toList))
  /-- The extension that is looked up for a run of xindy stands in its statement only. -/
  xindy : ∀ before glossary language after,
    log.messages = before ++ .xindyRun glossary language :: after →
      ∃ earlier turn later captured extension, turns = earlier ++ turn :: later ∧
        before = earlier.flatMap (·.said) ∧
        grammar.classify turn.statement = some (.xindy captured extension) ∧
        language = String.ofList captured ∧ glossary = String.ofList (typeAfter before extension)

theorem follows_start : Follows [] {} {} where
  going := rfl
  messages := rfl
  knows := fun _ => rfl
  finished := fun _ _ _ _ h => absurd (List.append_eq_nil_iff.1 h.symm).2 (List.cons_ne_nil _ _)
  xindy := fun _ _ _ _ h => absurd (List.append_eq_nil_iff.1 h.symm).2 (List.cons_ne_nil _ _)

/-- **Each turn leaves what was looked up in accordance with the messages.** A message about a
glossary is the only one of its turn, so that what stands in front of it is what the earlier turns
said. -/
theorem Follows.turn {turns : List Turn} {verbose : Bool} {p : Grammar.Position R Memory}
    (statement : Text) (h : Follows turns p.memory p.scope.log) :
    Follows (turns ++ [grammar.turn verbose statement p])
      (grammar.dispatch verbose statement p).memory
      (grammar.dispatch verbose statement p).scope.log := by
  obtain ⟨said, hmessages, hsays, hdone⟩ := exists_says verbose statement p
  have hturn : grammar.turn verbose statement p = ⟨statement, said⟩ :=
    congrArg (Turn.mk statement) (Grammar.said_eq hmessages)
  rw [hturn]
  constructor
  case going => exact hdone.trans h.going
  case messages => rw [hmessages, h.messages, List.flatMap_append, List.flatMap_singleton]
  case knows =>
    rw [hmessages]
    exact hsays.knows h.knows
  case finished =>
    intro before name path after hsplit
    rcases split_append (hmessages.symm.trans hsplit) with ⟨after', hin⟩ | ⟨between, rfl, hnew⟩
    · exact h.finished before name path after' hin
    · obtain ⟨rfl, rfl⟩ := hsays.eq_singleton hnew rfl
      rw [List.append_nil, ← h.knows.typeOf_eq]
      exact hsays.name_eq
  case xindy =>
    intro before glossary language after hsplit
    rcases split_append (hmessages.symm.trans hsplit) with ⟨after', hin⟩ | ⟨between, rfl, hnew⟩
    · obtain ⟨earlier, turn, later, captured, extension, rfl, hrest⟩ :=
        h.xindy before glossary language after' hin
      refine ⟨earlier, turn, later ++ [⟨statement, said⟩], captured, extension, ?_, hrest⟩
      rw [List.append_assoc, List.cons_append]
    · obtain ⟨rfl, rfl⟩ := hsays.eq_singleton hnew rfl
      obtain ⟨captured, extension, hfound, hlanguage, hglossary⟩ := hsays.exists_xindy
      rw [List.append_nil]
      rw [h.knows.typeOf_eq] at hglossary
      exact ⟨turns, _, [], captured, extension, rfl, h.messages, hfound, hlanguage, hglossary⟩

/-- **A run of makeindex** that is called changes neither the registry nor the state. -/
theorem dispatch_makeindex {statement number : Text}
    (hc : grammar.classify statement = some (.makeindex number)) (verbose : Bool)
    (p : Grammar.Position R Memory) :
    (grammar.dispatch verbose statement p).memory.registry = p.memory.registry ∧
      (grammar.dispatch verbose statement p).scope.state = p.scope.state := by
  unfold Grammar.dispatch
  rw [hc]
  refine Reaction.run_ensures verbose (s := p.scope)
    (r := react (.makeindex number) statement p.memory)
    (Q := fun memory log => memory.registry = p.memory.registry ∧ log.state = p.scope.state) ?_
  intro d said hreturns
  obtain ⟨_, -, hcourse⟩ := (Index.performs [] indexExtensions).keeps.of_returns hreturns
  exact ⟨rfl, Log.state_takeOver (Index.mentions_of_course hcourse).1 _ _⟩

/-- **The registry follows the messages.** In any transcript that is parsed as what the glossary
maker printed, a glossary that is finished is named by the type that the extension of its file
stands for, as the messages in front of it tell, and so is the one of a run of xindy by the
extension in its statement. In the end each extension is registered for the type that was announced
for it last, and no other extension is. Runs of makeindex that are called meanwhile change neither
the registry nor any count. The parser is never done, and leaves nothing unread. The turns are gone
through one after the other, as a parse of glossaries is never done early. -/
theorem registry_follows_messages (verbose : Bool) (source : R) :
    let turns := grammar.turns verbose (grammar.begin source)
    let result := grammar.parse verbose (grammar.begin source)
    let messages := result.scope.log.messages
    messages = turns.flatMap (·.said) ∧
      (∀ before name path after, messages = before ++ .glossaryFinished name path :: after →
        name = String.ofList (typeAfter before (Text.afterLast '.' path.toList))) ∧
      (∀ before glossary language after,
        messages = before ++ .xindyRun glossary language :: after →
          ∃ earlier turn later captured extension, turns = earlier ++ turn :: later ∧
            before = earlier.flatMap (·.said) ∧
            grammar.classify turn.statement = some (.xindy captured extension) ∧
            language = String.ofList captured ∧
            glossary = String.ofList (typeAfter before extension)) ∧
      (∀ extension, result.memory.registry.typeOf? extension
        = announcedLast? extension messages) ∧
      (∀ (p : Grammar.Position R Memory) statement number,
        grammar.classify statement = some (.makeindex number) →
          (grammar.dispatch verbose statement p).memory.registry = p.memory.registry ∧
          (grammar.dispatch verbose statement p).scope.state = p.scope.state) ∧
      result.scope.state.done = false ∧ LineSource.lines result.scope.unread = [] := by
  intro turns result messages
  have hconsume : Follows ([] ++ turns) (grammar.consume verbose (grammar.begin source)).memory
      (grammar.consume verbose (grammar.begin source)).scope.log :=
    Grammar.keeps_turns (fun statement h => h.turn statement) follows_start
  have hresult : result = grammar.consume verbose (grammar.begin source) :=
    Grammar.parse_eq_consume (fun _ => rfl) _
  have hfollows : Follows turns result.memory result.scope.log := by
    rw [hresult]
    exact hconsume
  exact ⟨hfollows.messages, hfollows.finished, hfollows.xindy, hfollows.knows,
    fun p statement number hc => dispatch_makeindex hc verbose p, hfollows.going,
    Grammar.lines_parse_of_not_done hconsume.going⟩

end Glossary

end TexTranscript
