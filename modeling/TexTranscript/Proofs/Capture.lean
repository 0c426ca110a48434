import TexTranscript.Proofs.Dialects

/-!
# Every group takes part

A pattern can match without all of its groups: those in the alternative that was not
taken, and those in what is optional, capture nothing then. Whoever asks for the text
of such a group gets none. The tables are written so that this cannot happen. A rule
either does not look at its groups at all, or all of its groups take part in every
match, and it reads whatever they capture.

This can be seen from the patterns. A match captures as many texts as it closes groups
(`Pattern.groups?`), and it does not matter which match it is; so it is enough that
these are as many as there are groups in the pattern (`Pattern.groupCount`).

## Main definitions

* `Pattern.groupCount` – the groups of a pattern.
* `Rule.Complete` – every group that the rule looks at takes part in every match.

## Main statements

* `Dialect.rules_complete` – the rules of every tool are complete.
* `Typesetting.inputLine?_of_matchesStart` – so is the pattern for the number of a line.
-/

namespace TexTranscript

namespace Pattern

/-- **The groups of a pattern**, as they are numbered. -/
def groupCount : Pattern → Nat
  | seq p q => p.groupCount + q.groupCount
  | alt p q => p.groupCount + q.groupCount
  | optional p => p.groupCount
  | bracket p => p.groupCount
  | group p => p.groupCount + 1
  | _ => 0

theorem groupCount_append (p q : Pattern) : (p ++ q).groupCount = p.groupCount + q.groupCount :=
  rfl

/-- Of patterns without groups, the choice has none either. -/
theorem groupCount_firstOf {ps : List Pattern} (h : ∀ p ∈ ps, p.groupCount = 0) :
    (firstOf ps).groupCount = 0 := by
  induction ps with
  | nil => rfl
  | cons p ps ih =>
    have hp : p.groupCount = 0 := h p List.mem_cons_self
    have hps := ih fun q hq => h q (List.mem_cons_of_mem p hq)
    cases ps with
    | nil => exact hp
    | cons q ps =>
      show p.groupCount + (firstOf (q :: ps)).groupCount = 0
      rw [hp, hps]

end Pattern

namespace Rule

variable {ι : Type} {r : Rule ι}

/-- **Every group that the rule looks at takes part in every match.** Either it looks at none, and
reads the same whatever they are; or every match captures a text for each group, and the rule
reads them. -/
def Complete (r : Rule ι) : Prop :=
  (∃ found, ∀ groups, r.read groups = some found) ∨
    ∀ statement groups, r.pattern.captures? statement = some groups →
      groups.length = r.pattern.groupCount ∧ (r.read groups).isSome = true

/-- A sign looks at no group. -/
theorem complete_sign (p : Pattern) (found : ι) : (sign p found).Complete :=
  .inl ⟨found, fun _ => rfl⟩

/-- A rule that reads whatever it matches is complete if a match closes all groups. A match closes
as many groups as the pattern has, so that none of them can be missing. -/
theorem Legible.complete (h : r.Legible) (hn : r.pattern.groups? = some r.pattern.groupCount) :
    r.Complete := by
  refine .inr fun statement groups hg => ⟨Pattern.length_of_captures hn hg, ?_⟩
  have hmatch : r.pattern.matchesStart statement = true := by
    unfold Pattern.matchesStart
    rw [hg]
    rfl
  have hread := h statement hmatch
  unfold reading? at hread
  rwa [hg] at hread

/-- A table is complete whose rules read whatever they match, and are signs or close all of
their groups. -/
theorem forall_complete {rules : List (Rule ι)} (hread : ∀ r ∈ rules, r.Legible)
    (h : ∀ r ∈ rules, r.Complete ∨ r.pattern.groups? = some r.pattern.groupCount) :
    ∀ r ∈ rules, r.Complete :=
  fun r hr => (h r hr).elim id (hread r hr).complete

end Rule

open Rule (complete_sign)

/-- The rules of BibTeX are complete. -/
theorem Bibliography.bibtexRules_complete : ∀ rule ∈ bibtexRules, rule.Complete :=
  List.forall_iff_forall_mem.1
    ⟨complete_sign _ _, complete_sign _ _, complete_sign _ _, complete_sign _ _,
      complete_sign _ _, complete_sign _ _, complete_sign _ _, complete_sign _ _,
      complete_sign _ _, complete_sign _ _⟩

/-- The rules of Biber are complete. -/
theorem Bibliography.biberRules_complete : ∀ rule ∈ biberRules, rule.Complete :=
  Rule.forall_complete biberRules_legible <| List.forall_iff_forall_mem.1
    ⟨.inl (complete_sign _ _), .inr rfl, .inl (complete_sign _ _), .inl (complete_sign _ _),
      .inl (complete_sign _ _), .inr rfl⟩

/-- In the pattern for progress, the extensions have no groups. -/
theorem Index.groupCount_progressPattern {extensions : List Pattern}
    (h : ∀ p ∈ extensions, p.groupCount = 0) : (progressPattern extensions).groupCount = 3 := by
  have hext : (Pattern.firstOf extensions).groupCount = 0 := Pattern.groupCount_firstOf h
  unfold progressPattern
  simp only [Pattern.groupCount_append, Pattern.groupCount, hext]
  rfl

/-- The rules of makeindex are complete, whatever the extensions are: an extension is quoted in the
pattern and has no groups of its own. -/
theorem Index.rules_complete (extensions : List Text) :
    ∀ rule ∈ rules extensions, rule.Complete := by
  have hgroups : ∀ p ∈ extensions.map Pattern.quoted, p.groups? = some 0 ∧ p.groupCount = 0 := by
    intro p hp
    obtain ⟨extension, -, rfl⟩ := List.mem_map.1 hp
    exact ⟨rfl, rfl⟩
  have hprogress : (progressPattern (extensions.map .quoted)).groups?
      = some (progressPattern (extensions.map .quoted)).groupCount := by
    rw [progressPattern_groups fun p hp => (hgroups p hp).1,
      groupCount_progressPattern fun p hp => (hgroups p hp).2]
  exact Rule.forall_complete (rules_legible extensions) <| List.forall_iff_forall_mem.1
    ⟨.inr rfl, .inr hprogress, .inr rfl, .inr rfl, .inr rfl⟩

/-- The rules of makeglossaries are complete. -/
theorem Glossary.rules_complete : ∀ rule ∈ rules, rule.Complete :=
  Rule.forall_complete rules_legible <| List.forall_iff_forall_mem.1
    ⟨.inr rfl, .inr rfl, .inr rfl, .inr rfl, .inr rfl, .inr rfl, .inr rfl,
      .inl (complete_sign _ _), .inl (complete_sign _ _), .inl (complete_sign _ _),
      .inl (complete_sign _ _)⟩

/-- The rules of the linter are complete. -/
theorem Lint.rules_complete : ∀ rule ∈ rules, rule.Complete :=
  Rule.forall_complete rules_legible <| List.forall_iff_forall_mem.1
    ⟨.inl (complete_sign _ _), .inr rfl, .inr rfl, .inl (complete_sign _ _)⟩

/-- The rules of an engine are complete, with any extension of the master document. -/
theorem Typesetting.rules_complete (ext : Text) : ∀ rule ∈ rules ext, rule.Complete :=
  Rule.forall_complete (rules_legible ext) <| List.forall_iff_forall_mem.1
    ⟨.inl (complete_sign _ _), .inr rfl, .inr rfl, .inl (complete_sign _ _), .inr rfl,
      .inl (complete_sign _ _), .inl (complete_sign _ _), .inl (complete_sign _ _),
      .inl (complete_sign _ _), .inl (complete_sign _ _), .inr rfl, .inr rfl, .inr rfl,
      .inl (complete_sign _ _), .inr rfl, .inl (complete_sign _ _), .inl (complete_sign _ _)⟩

/-- Where a text gives a line number for the input, it is read. -/
theorem Typesetting.inputLine?_of_matchesStart {text : Text}
    (h : inputLine.matchesStart text = true) : (inputLine? text).isSome = true := by
  obtain ⟨groups, hgroups⟩ := Option.isSome_iff_exists.1 h
  obtain ⟨line, rfl⟩ := List.length_eq_one_iff.1
    (Pattern.length_of_captures (rfl : inputLine.groups? = some 1) hgroups)
  unfold inputLine?
  rw [hgroups]
  rfl

/-- The rules of latexmk are complete, for all of them are signs. -/
theorem Build.rules_complete : ∀ rule ∈ rules, rule.Complete :=
  List.forall_iff_forall_mem.1
    ⟨complete_sign _ _, complete_sign _ _, complete_sign _ _, complete_sign _ _,
      complete_sign _ _, complete_sign _ _, complete_sign _ _⟩

/-- **The rules of every tool are complete.** What rules look at is counted on one side and what
matches close on the other, and for all of these tables the two numbers are found by evaluation. -/
theorem Dialect.rules_complete {d : Dialect} (hd : d.isTool = true) :
    ∀ rule ∈ d.grammar.rules.rules, rule.Complete := by
  cases d with
  | latex master => exact Typesetting.rules_complete (Typesetting.extension master)
  | bibtex => exact Bibliography.bibtexRules_complete
  | biber => exact Bibliography.biberRules_complete
  | makeindex extensions => exact Index.rules_complete extensions
  | makeglossaries query => exact Glossary.rules_complete
  | chktex => exact Lint.rules_complete
  | latexmk master watching => exact Build.rules_complete
  | custom rules atEnd => exact Bool.noConfusion hd

end TexTranscript
