import Mathlib.Data.List.Basic
import TexTranscript.Proofs.Unfolding
import TexTranscript.Report

/-!
# Every dialect unfolds

The tables of the seven tools read whatever they match, and their parsers hand the transcript
to no parser but those of other tools. So each of their parses unfolds, and so does that of a
custom grammar, whatever it does and however deep the dialects are that it delegates to.

No tool says by itself what a verbose parser echoes. A custom grammar may.

## Main statements

* `Dialect.unfoldable_of_isTool` – every parse of a tool unfolds, and nothing is emitted in its
  course that looks like an echo.
* `Dialect.unfoldable` – every parse of any dialect unfolds.
* `exists_unfoldable` – what every tool but latexmk reports is a parse that unfolds.
-/

namespace TexTranscript

/-- The message is what a verbose parser echoes. -/
def Message.isVerbatim : Message → Bool
  | verbatim _ => true
  | _ => false

/-- The message is no echo. -/
def Message.IsOwn (m : Message) : Prop := m.isVerbatim = false

variable {R σ ι ν α β : Type} {M : Message → Prop} {N : Nested ν → Prop}

namespace Reaction

/-- A sequence asks for nothing but what is allowed if both of its parts do. -/
theorem AsksFor.bind {r : Reaction ν α} {f : α → Reaction ν β} (hr : r.AsksFor M N)
    (hf : ∀ a, (f a).AsksFor M N) : (r.bind f).AsksFor M N := by
  induction r with
  | done result => exact hf result
  | emit message next ih => exact ⟨hr.1, ih hr.2⟩
  | record entry next ih => exact ih hr
  | inspect next ih => exact fun state => ih state (hr state)
  | lookAhead next ih => exact fun line => ih line (hr line)
  | delegate nested next ih => exact ⟨hr.1, fun d => ih d (hr.2 d)⟩

end Reaction

/-! ## The bibliography tools -/

namespace Bibliography

theorem bibtexRules_legible : ∀ rule ∈ bibtexRules, rule.Legible :=
  List.forall_iff_forall_mem.1
    ⟨Rule.legible_sign _ _, Rule.legible_sign _ _, Rule.legible_sign _ _, Rule.legible_sign _ _,
      Rule.legible_sign _ _, Rule.legible_sign _ _, Rule.legible_sign _ _, Rule.legible_sign _ _,
      Rule.legible_sign _ _, Rule.legible_sign _ _⟩

/-- A parse of BibTeX unfolds. -/
theorem bibtex_unfoldable : (bibtex : Grammar Unit BibtexFinding ν).Unfoldable Message.IsOwn := by
  refine Grammar.unfoldable (g := bibtex) bibtexRules_legible (fun found statement memory => ?_)
    fun memory => trivial
  cases found with
  | remark => exact ⟨rfl, trivial⟩
  | warning => exact ⟨rfl, trivial⟩
  | error => exact ⟨rfl, trivial⟩
  | finished => exact trivial

theorem biberRules_legible : ∀ rule ∈ biberRules, rule.Legible :=
  List.forall_iff_forall_mem.1
    ⟨Rule.legible_sign _ _, Rule.legible_of_one rfl fun _ => rfl, Rule.legible_sign _ _,
      Rule.legible_sign _ _, Rule.legible_sign _ _, Rule.legible_of_one rfl fun _ => rfl⟩

/-- A parse of Biber unfolds. -/
theorem biber_unfoldable :
    (biber : Grammar (Option Text) BiberFinding ν).Unfoldable Message.IsOwn := by
  refine Grammar.unfoldable (g := biber) biberRules_legible (fun found statement announced => ?_)
    fun announced => trivial
  cases found with
  | remark => exact ⟨rfl, trivial⟩
  | logfile name => exact ⟨rfl, trivial⟩
  | warning => exact ⟨rfl, trivial⟩
  | error => exact ⟨rfl, trivial⟩
  | fatal => exact ⟨rfl, trivial⟩
  | output path => exact ⟨rfl, trivial⟩

end Bibliography

/-! ## The index processor -/

namespace Index

/-- The pattern for progress always closes its three groups, whatever the extensions are. -/
theorem progressPattern_groups {extensions : List Pattern}
    (h : ∀ p ∈ extensions, p.groups? = some 0) :
    (progressPattern extensions).groups? = some 3 := by
  have hfile : (Pattern.many .any ++ .lit "." ++ .bracket (.firstOf extensions)).groups?
      = some 0 := by
    rw [Pattern.groups?_append]
    show (some 0).bind (fun m => (Pattern.firstOf extensions).groups?.map (m + ·)) = some 0
    rw [Pattern.groups?_firstOf h]
    rfl
  unfold progressPattern
  simp only [Pattern.groups?_append, Pattern.groups?, hfile]
  rfl

/-- The rules of makeindex can read whatever they match. -/
theorem rules_legible (extensions : List Text) : ∀ rule ∈ rules extensions, rule.Legible := by
  have hext : ∀ p ∈ extensions.map Pattern.quoted, p.groups? = some 0 := by
    intro p hp
    obtain ⟨extension, -, rfl⟩ := List.mem_map.1 hp
    rfl
  exact List.forall_iff_forall_mem.1
    ⟨Rule.legible_of_one rfl fun _ => rfl,
      Rule.legible_of_three (progressPattern_groups hext) fun _ _ _ => rfl,
      Rule.legible_of_one rfl fun _ => rfl, Rule.legible_of_two rfl fun _ _ => rfl,
      Rule.legible_of_two rfl fun _ _ => rfl⟩

/-- A parse of makeindex unfolds, whatever the extensions are. -/
theorem unfoldable (extensions : List Text) :
    (grammar extensions : Grammar Unit Finding ν).Unfoldable Message.IsOwn := by
  refine Grammar.unfoldable (g := grammar extensions) (rules_legible extensions)
    (fun found statement memory => ?_) fun memory => trivial
  cases found with
  | version number => exact ⟨rfl, trivial⟩
  | progress description file status => exact ⟨rfl, trivial⟩
  | sorting status => exact ⟨rfl, trivial⟩
  | artifact description path => exact ⟨rfl, trivial⟩
  | transcript description path => exact ⟨rfl, trivial⟩

end Index

/-! ## The linter -/

namespace Lint

theorem rules_legible : ∀ rule ∈ rules, rule.Legible :=
  List.forall_iff_forall_mem.1
    ⟨Rule.legible_sign _ _, Rule.legible_of_three rfl fun _ _ _ => rfl,
      Rule.legible_of_three rfl fun _ _ _ => rfl, Rule.legible_sign _ _⟩

/-- To quote a source line is to ask for lines only. -/
theorem quoteSource_asksFor : (quoteSource : Reaction ν Unit).AsksFor Message.IsOwn N := by
  refine Reaction.AsksFor.bind (fun _ => trivial) fun source => ?_
  cases source with
  | none => exact trivial
  | some source =>
    show (if hasCaret source then _ else _ : Reaction ν Unit).AsksFor _ _
    split
    · exact fun caret => ⟨rfl, trivial⟩
    · exact trivial

/-- A parse of the linter unfolds. -/
theorem unfoldable : (grammar : Grammar Unit Finding ν).Unfoldable Message.IsOwn := by
  refine Grammar.unfoldable (g := grammar) rules_legible (fun found statement memory => ?_)
    fun memory => trivial
  cases found with
  | remark => exact ⟨rfl, trivial⟩
  | problem severity file line description =>
    cases severity with
    | error => exact ⟨rfl, quoteSource_asksFor⟩
    | warning => exact ⟨rfl, quoteSource_asksFor⟩
  | finished => exact trivial

end Lint

/-! ## The typesetting engines -/

namespace Typesetting

theorem rules_legible (ext : Text) : ∀ rule ∈ rules ext, rule.Legible :=
  List.forall_iff_forall_mem.1
    ⟨Rule.legible_sign _ _, Rule.legible_of_one rfl fun _ => rfl,
      Rule.legible_of_one rfl fun _ => rfl, Rule.legible_sign _ _,
      Rule.legible_of_one rfl fun _ => rfl, Rule.legible_sign _ _, Rule.legible_sign _ _,
      Rule.legible_sign _ _, Rule.legible_sign _ _, Rule.legible_sign _ _,
      Rule.legible_of_three rfl fun _ _ _ => rfl, Rule.legible_of_three rfl fun _ _ _ => rfl,
      Rule.legible_of_three rfl fun _ _ _ => rfl, Rule.legible_sign _ _,
      Rule.legible_of_two rfl fun _ _ => rfl, Rule.legible_sign _ _, Rule.legible_sign _ _⟩

variable {master : Text}

/-- A wrapped warning asks for a line and for nothing else. -/
theorem reactToWrapped_asksFor (statement : Text) :
    (reactToWrapped master statement : Reaction ν Unit).AsksFor Message.IsOwn N := by
  refine Reaction.AsksFor.bind (fun _ => trivial) fun next => ?_
  cases next with
  | none => exact ⟨rfl, trivial⟩
  | some next =>
    dsimp only
    split
    · exact fun state => ⟨rfl, trivial⟩
    · exact ⟨rfl, trivial⟩

/-- A runaway argument asks for a line and for nothing else. -/
theorem reactToRunaway_asksFor (statement : Text) :
    (reactToRunaway statement : Reaction ν Unit).AsksFor Message.IsOwn N := by
  refine Reaction.AsksFor.bind ⟨rfl, trivial⟩ fun _ => ?_
  refine Reaction.AsksFor.bind (fun _ => trivial) fun next => ?_
  cases next with
  | none => exact trivial
  | some next =>
    dsimp only
    split
    · exact ⟨rfl, trivial⟩
    · exact ⟨rfl, trivial⟩

/-- A parse of an engine unfolds. -/
theorem unfoldable (master : Text) :
    (grammar master : Grammar Unit Finding ν).Unfoldable Message.IsOwn := by
  refine Grammar.unfoldable (g := grammar master) (M := Message.IsOwn) (rules_legible _)
    (fun found statement memory => ?_) fun memory => ⟨rfl, trivial⟩
  cases found with
  | remark => exact ⟨rfl, trivial⟩
  | fileEntered name => exact ⟨rfl, trivial⟩
  | inclusion path => exact ⟨rfl, trivial⟩
  | warning line => exact fun state => ⟨rfl, trivial⟩
  | wrappedWarning => exact reactToWrapped_asksFor statement
  | formatWarning => exact ⟨rfl, trivial⟩
  | error file line description =>
    refine ⟨rfl, ?_⟩
    split
    · exact trivial
    · exact trivial
  | runaway => exact reactToRunaway_asksFor statement
  | transcript name => exact ⟨rfl, trivial⟩
  | alert =>
    dsimp only [grammar, react]
    split
    · exact ⟨rfl, trivial⟩
    · exact ⟨rfl, trivial⟩
  | fatal => exact ⟨rfl, trivial⟩

end Typesetting

/-! ## The glossary maker -/

namespace Glossary

theorem rules_legible : ∀ rule ∈ rules, rule.Legible := by
  have hext : ∀ p ∈ ownExtensions, p.groups? = some 0 := by
    intro p hp
    obtain ⟨extension, -, rfl⟩ := List.mem_map.1 hp
    rfl
  exact List.forall_iff_forall_mem.1
    ⟨Rule.legible_of_one rfl fun _ => rfl, Rule.legible_of_one rfl fun _ => rfl,
      Rule.legible_of_two rfl fun _ _ => rfl,
      Rule.legible_of_three (Index.progressPattern_groups hext) fun _ _ _ => rfl,
      Rule.legible_of_two rfl fun _ _ => rfl, Rule.legible_of_one rfl fun _ => rfl,
      Rule.legible_of_two rfl fun _ _ => rfl, Rule.legible_sign _ _, Rule.legible_sign _ _,
      Rule.legible_sign _ _, Rule.legible_sign _ _⟩

/-- A parse of makeglossaries unfolds, since one of makeindex does, to which it hands the transcript
over. -/
theorem unfoldable : grammar.Unfoldable Message.IsOwn := by
  refine Grammar.unfoldable (g := grammar) rules_legible (fun found statement memory => ?_)
    fun memory => trivial
  cases found with
  | makeindex number =>
    have hindex : (Index.grammar indexExtensions : Grammar Unit Index.Finding Unit).Unfoldable
        Message.IsOwn := Index.unfoldable indexExtensions
    exact ⟨rfl, ⟨_, _, _, _, id, rfl, hindex⟩, fun _ => trivial⟩
  | version number => exact ⟨rfl, trivial⟩
  | glossaryType name files => exact ⟨rfl, trivial⟩
  | progress description file status => exact ⟨rfl, trivial⟩
  | artifact description path => exact ⟨rfl, trivial⟩
  | finished path => exact ⟨rfl, trivial⟩
  | xindy language extension => exact ⟨rfl, trivial⟩
  | warning => exact ⟨rfl, trivial⟩
  | error => exact ⟨rfl, trivial⟩
  | remark => exact ⟨rfl, trivial⟩

end Glossary

/-! ## The build driver -/

namespace Build

theorem rules_legible : ∀ rule ∈ rules, rule.Legible :=
  List.forall_iff_forall_mem.1
    ⟨Rule.legible_sign _ _, Rule.legible_sign _ _, Rule.legible_sign _ _, Rule.legible_sign _ _,
      Rule.legible_sign _ _, Rule.legible_sign _ _, Rule.legible_sign _ _⟩

/-- A section asks for what its parser does. -/
theorem openSection_asksFor {g : Grammar σ ι Unit} (hg : g.Unfoldable Message.IsOwn)
    (phase : Phase) (tool : Tool) (banner : Text) (memory : Memory)
    {f : Delegated Unit × Memory → Reaction Unit α}
    (hf : ∀ closed, (f closed).AsksFor Message.IsOwn (Nested.Unfoldable Message.IsOwn)) :
    ((openSection phase tool banner (sectionParser g) memory).bind f).AsksFor Message.IsOwn
      (Nested.Unfoldable Message.IsOwn) :=
  ⟨rfl, ⟨_, _, _, g, _, rfl, hg⟩, fun _ => ⟨rfl, hf _⟩⟩

/-- A parse of latexmk unfolds, since those of the four tools do that it hands the transcript over
to. -/
theorem unfoldable (master : Text) (watching : Bool) :
    (grammar master watching).Unfoldable Message.IsOwn := by
  refine Grammar.unfoldable (g := grammar master watching) rules_legible
    (fun found statement memory => ?_) fun memory => trivial
  cases found with
  | typesetting =>
    exact openSection_asksFor (Typesetting.unfoldable master) _ _ _ _ fun _ => trivial
  | bibtex => exact openSection_asksFor Bibliography.bibtex_unfoldable _ _ _ _ fun _ => trivial
  | biber => exact openSection_asksFor Bibliography.biber_unfoldable _ _ _ _ fun _ => trivial
  | index => exact openSection_asksFor (Index.unfoldable _) _ _ _ _ fun _ => trivial
  | roundEnd =>
    cases watching with
    | true => exact ⟨rfl, fun state => trivial⟩
    | false => exact ⟨rfl, trivial⟩
  | chatter => exact ⟨rfl, trivial⟩
  | newRun =>
    show (beginRun memory).AsksFor _ _
    unfold beginRun
    split
    · exact fun state => ⟨rfl, trivial⟩
    · exact trivial

end Build

/-! ## Dialects -/

/-- A parse of a transcript of the dialect, from the start. -/
def Dialect.parse {R : Type} [LineSource R] (d : Dialect) (verbose : Bool) (source : R) :
    Grammar.Position R d.grammar.σ :=
  d.grammar.rules.parse verbose (d.grammar.rules.begin source)

/-- The dialect is that of one of the seven tools. -/
def Dialect.isTool : Dialect → Bool
  | .custom .. => false
  | _ => true

/-- **Every parse of a tool unfolds**, and in its course nothing is emitted that looks like an
echo. -/
theorem Dialect.unfoldable_of_isTool {d : Dialect} (h : d.isTool = true) :
    d.grammar.rules.Unfoldable Message.IsOwn := by
  cases d with
  | latex master => exact Typesetting.unfoldable master
  | bibtex => exact Bibliography.bibtex_unfoldable
  | biber => exact Bibliography.biber_unfoldable
  | makeindex extensions => exact Index.unfoldable extensions
  | makeglossaries query => exact Glossary.unfoldable
  | chktex => exact Lint.unfoldable
  | latexmk master watching => exact Build.unfoldable master watching
  | custom rules atEnd => exact Bool.noConfusion h

theorem Grammar.Unfoldable.any {g : Grammar σ ι ν} (h : g.Unfoldable M) :
    g.Unfoldable fun _ => True := by
  intro R _ source
  obtain ⟨hs, memory, unread, hu, -⟩ := h source
  exact ⟨hs, memory, unread, hu, fun _ _ => trivial⟩

/-- A custom grammar unfolds, if what its rules do and what it does at the end asks for parsers
that unfold. -/
theorem customGrammar_unfoldable {table : List (Text × CustomReaction)} {atEnd : CustomReaction}
    (htable : ∀ entry ∈ table, ∀ statement trace,
      (entry.2 statement trace).AsksFor M (Nested.Unfoldable M))
    (hend : ∀ statement trace, (atEnd statement trace).AsksFor M (Nested.Unfoldable M)) :
    (customGrammar table atEnd).Unfoldable M := by
  refine Grammar.unfoldable (g := customGrammar table atEnd) (fun rule hrule => ?_)
    (fun number statement trace => ?_) fun trace => hend _ _
  · obtain ⟨entry, -, rfl⟩ := List.mem_map.1 hrule
    exact Rule.legible_sign _ _
  · dsimp only [customGrammar]
    split
    · next reaction h => exact htable _ (List.mem_of_getElem? h) _ _
    · exact trivial

mutual

/-- **Every parse of any dialect unfolds**, however deep the dialects are that it delegates to. The
recursion goes down a list of custom rules, their actions and the dialects in these, all of which
are parts of the one at the top; tools are leaves. -/
theorem Dialect.unfoldable : ∀ d : Dialect, d.grammar.rules.Unfoldable fun _ => True
  | .custom rules atEnd =>
    customGrammar_unfoldable (CustomRule.table_asksFor rules) (Action.reactAll_asksFor atEnd)
  | .latex master => Grammar.Unfoldable.any (Typesetting.unfoldable master)
  | .bibtex => Grammar.Unfoldable.any Bibliography.bibtex_unfoldable
  | .biber => Grammar.Unfoldable.any Bibliography.biber_unfoldable
  | .makeindex extensions => Grammar.Unfoldable.any (Index.unfoldable extensions)
  | .makeglossaries _ => Grammar.Unfoldable.any Glossary.unfoldable
  | .chktex => Grammar.Unfoldable.any Lint.unfoldable
  | .latexmk master watching => Grammar.Unfoldable.any (Build.unfoldable master watching)

theorem CustomRule.table_asksFor : ∀ (rules : List CustomRule),
    ∀ entry ∈ CustomRule.table rules, ∀ statement trace,
      (entry.2 statement trace).AsksFor (fun _ => True) (Nested.Unfoldable fun _ => True)
  | [], _, h => by simp [CustomRule.table] at h
  | .mk start actions :: rules, entry, h => by
    rcases List.mem_cons.1 h with rfl | h
    · exact Action.reactAll_asksFor actions
    · exact CustomRule.table_asksFor rules entry h

theorem Action.reactAll_asksFor : ∀ (actions : List Action) (statement : Text)
    (trace : List Event), (Action.reactAll actions statement trace).AsksFor (fun _ => True)
      (Nested.Unfoldable fun _ => True)
  | [], _, _ => trivial
  | action :: actions, statement, trace =>
    (Action.react_asksFor action statement trace).bind fun _ =>
      Action.reactAll_asksFor actions statement _

theorem Action.react_asksFor : ∀ (action : Action) (statement : Text) (trace : List Event),
    (Action.react action statement trace).AsksFor (fun _ => True)
      (Nested.Unfoldable fun _ => True)
  | .info, _, _ => ⟨trivial, trivial⟩
  | .warning, _, _ => ⟨trivial, trivial⟩
  | .error, _, _ => ⟨trivial, trivial⟩
  | .fatal, _, _ => ⟨trivial, trivial⟩
  | .finish, _, _ => trivial
  | .count _, _, _ => trivial
  | .lookAhead, _, _ => fun _ => trivial
  | .showState, _, _ => fun _ => trivial
  | .locatedWarning _, _, _ => ⟨trivial, trivial⟩
  | .locatedError _, _, _ => ⟨trivial, trivial⟩
  | .emit _, _, _ => ⟨trivial, trivial⟩
  | .delegate dialect, _, _ =>
    ⟨⟨_, _, _, dialect.grammar.rules, dialect.grammar.close, dialect.nested_eq,
      Dialect.unfoldable dialect⟩, fun _ => trivial⟩

end

/-- **What every tool but latexmk reports** is a parse that unfolds. -/
theorem exists_unfoldable {tool : Tool} (h : tool ≠ .latexmk) (master : Text) :
    ∃ (σ ι : Type) (g : Grammar σ ι Unit), g.Unfoldable Message.IsOwn ∧
      ∀ {R : Type} [LineSource R] (verbose : Bool) (source : R),
        parseTranscript tool master verbose source = g.report verbose source := by
  cases tool with
  | latex => exact ⟨_, _, _, Typesetting.unfoldable master, fun _ _ => rfl⟩
  | bibtex => exact ⟨_, _, _, Bibliography.bibtex_unfoldable, fun _ _ => rfl⟩
  | biber => exact ⟨_, _, _, Bibliography.biber_unfoldable, fun _ _ => rfl⟩
  | makeindex => exact ⟨_, _, _, Index.unfoldable _, fun _ _ => rfl⟩
  | makeglossaries => exact ⟨_, _, _, Glossary.unfoldable, fun _ _ => rfl⟩
  | chktex => exact ⟨_, _, _, Lint.unfoldable, fun _ _ => rfl⟩
  | latexmk => exact absurd rfl h

end TexTranscript
