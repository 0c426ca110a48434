import TexTranscript.Proofs.Dialects

/-!
# Verbosity is transparent

A verbose parser echoes the statements that it overlooks. It does so wherever it
is, and so do the parsers that it hands the transcript to, since they inherit the
verbosity. Beyond that a verbose parse is the quiet one: it reads the same lines,
remembers the same, counts the same and marks the same.

Both are read off one tree of happenings, which was made without knowing whether
anybody would be told. The verbose messages are the quiet ones with an echo for
each statement that was overlooked, at its place and at its depth, and only there;
and where no message of the tool itself looks like an echo, the quiet messages are
got back by dropping the echoes.

## Main definitions

* `Happening.allOverlooked` – the statements that were overlooked.

## Main statements

* `Happening.filter_allMessages` – without the echoes, the verbose messages are the
  quiet ones.
* `verbosity_transparent` – what a verbose parse and a quiet one have in common, and
  how their messages differ.
-/

namespace TexTranscript

/-- The echo of a statement. -/
def Message.echo (statement : Text) : Message := .verbatim (String.ofList statement)

namespace Happening

mutual

/-- What was overlooked in its course. -/
def overlookings : Happening → List Text
  | overlooked statement => [statement]
  | emitted _ => []
  | entered _ => []
  | delegated within => allOverlooked within

/-- **The statements that were overlooked**, in their order and at whatever depth. -/
def allOverlooked : List Happening → List Text
  | [] => []
  | h :: hs => overlookings h ++ allOverlooked hs

end

mutual

/-- What happens once says the same, verbose or quiet, but for the echo of a statement that is
overlooked. -/
theorem filter_messages : ∀ h : Happening, (∀ m ∈ messages false h, m.IsOwn) →
    (messages true h).filter (!·.isVerbatim) = messages false h
  | overlooked _, _ => rfl
  | emitted m, hown => List.filter_eq_self.2 fun m' hm => by
      rw [hown m' hm]
      rfl
  | entered _, _ => rfl
  | delegated within, hown => filter_allMessages within hown

/-- **Without the echoes, the verbose messages are the quiet ones.** The recursion is on what
happened, also in other hands. -/
theorem filter_allMessages : ∀ hs : List Happening, (∀ m ∈ allMessages false hs, m.IsOwn) →
    (allMessages true hs).filter (!·.isVerbatim) = allMessages false hs
  | [], _ => rfl
  | h :: hs, hown => by
      have hfirst := filter_messages h fun m hm => hown m (List.mem_append_left _ hm)
      have hrest := filter_allMessages hs fun m hm => hown m (List.mem_append_right _ hm)
      show (messages true h ++ allMessages true hs).filter _ = _
      rw [List.filter_append, hfirst, hrest]
      rfl

end

mutual

/-- What happens once is echoed if it is a statement that is overlooked, or as what happened in
other hands is. -/
theorem echoes_messages : ∀ h : Happening, (∀ m ∈ messages false h, m.IsOwn) →
    (messages true h).filter Message.isVerbatim = (overlookings h).map Message.echo
  | overlooked _, _ => rfl
  | emitted m, hown => List.filter_eq_nil_iff.2 fun m' hm => by
      rw [hown m' hm]
      exact Bool.false_ne_true
  | entered _, _ => rfl
  | delegated within, hown => echoes_allMessages within hown

/-- **The echoes are those of the statements that were overlooked**, each of them once. The
recursion is on what happened, also in other hands. -/
theorem echoes_allMessages : ∀ hs : List Happening, (∀ m ∈ allMessages false hs, m.IsOwn) →
    (allMessages true hs).filter Message.isVerbatim = (allOverlooked hs).map Message.echo
  | [], _ => rfl
  | h :: hs, hown => by
      have hfirst := echoes_messages h fun m hm => hown m (List.mem_append_left _ hm)
      have hrest := echoes_allMessages hs fun m hm => hown m (List.mem_append_right _ hm)
      show (messages true h ++ allMessages true hs).filter _ = _
      rw [List.filter_append, hfirst, hrest, ← List.map_append]
      rfl

end

end Happening

variable {R : Type} [LineSource R]

/-- **Verbosity is transparent.** A verbose parse remembers the same as a quiet one, ends in
the same state and leaves the same unread. Both unfold alike: the messages of the one are
the quiet messages of what happens, those of the other the verbose ones. Of a tool, the
quiet messages contain no echo; they are what the verbose ones are without the echoes, and
the echoes are those of the statements that were overlooked. -/
theorem verbosity_transparent (d : Dialect) (source : R) :
    (d.parse true source).memory = (d.parse false source).memory ∧
    (d.parse true source).scope.state = (d.parse false source).scope.state ∧
    (d.parse true source).scope.unread = (d.parse false source).scope.unread ∧
    ∃ happenings,
      d.grammar.rules.Unfolds (.resting d.grammar.rules.start) {} source happenings
        (d.parse false source).memory (d.parse false source).scope.unread ∧
      (d.parse false source).scope.messages.toList = Happening.allMessages false happenings ∧
      (d.parse true source).scope.messages.toList = Happening.allMessages true happenings ∧
      (d.isTool = true →
        (∀ m ∈ (d.parse false source).scope.messages.toList, m.isVerbatim = false) ∧
        (d.parse true source).scope.messages.toList.filter (!·.isVerbatim)
          = (d.parse false source).scope.messages.toList ∧
        (d.parse true source).scope.messages.toList.filter Message.isVerbatim
          = (Happening.allOverlooked happenings).map Message.echo) := by
  -- what happens, and that a tool echoes nothing by itself
  obtain ⟨hs, memory, unread, hu, hown⟩ : ∃ hs memory unread,
      d.grammar.rules.Unfolds (.resting d.grammar.rules.start) {} source hs memory unread ∧
        (d.isTool = true → ∀ m ∈ Happening.allMessages false hs, m.IsOwn) := by
    by_cases ht : d.isTool = true
    · obtain ⟨hs, memory, unread, hu, hown⟩ := Dialect.unfoldable_of_isTool ht source
      exact ⟨hs, memory, unread, hu, fun _ => hown⟩
    · obtain ⟨hs, memory, unread, hu, -⟩ := Dialect.unfoldable d source
      exact ⟨hs, memory, unread, hu, fun h => absurd h ht⟩
  unfold Dialect.parse
  rw [hu.parse_eq true, hu.parse_eq false]
  refine ⟨rfl, rfl, rfl, hs, hu, rfl, rfl, fun ht => ?_⟩
  exact ⟨hown ht, Happening.filter_allMessages hs (hown ht),
    Happening.echoes_allMessages hs (hown ht)⟩

end TexTranscript
