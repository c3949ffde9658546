import FormCard.Proofs.Dialogue
import FormCard.Proofs.Held
import FormCard.Proofs.Place

/-!
# What a pass owes to the past

A renderer may have gone through anything before it is shown a card: passes over other cards, values
in forms that are gone or that this card lacks, bindings to components of long ago.  None of this
should come through.  A pass uses nothing of it but what the forms of the card hold, where a form
without a store holds nothing yet.

So values that were entered into a form cannot turn up in a card that does not have the form, not
even by way of what events do later.  It is a statement about two renderers, and it says more than
that certain parts of the state are not read: the outputs are equal, and so is everything that can
be found out by further passes and events.

* `pass_owes_to_its_forms_alone`: two renderers in which the forms of a card hold the same show it
  alike, have the same stores and bindings afterwards, and cannot be told apart from then on.

The witness is a pair of renderers with different pasts, one of which holds a value that must not
show.
-/

namespace FormCard

/-- **A pass owes to the past what its own forms hold, and nothing else.**  Take two renderers with
the same default color, with any past, in which each form that a pass over the card opens holds the
same; without a store it holds nothing yet.  Both show the card alike, and they have the same stores
and the same bindings afterwards.  Whatever a host asks of them later, and whatever sink it uses, it
gets the same answers from both. -/
theorem pass_owes_to_its_forms_alone (renderer other : Renderer) (card : Card)
    (primary : renderer.defaultPrimary = other.defaultPrimary)
    (held : ∀ key ∈ (renderer.renderCard card).2.arena.opened,
      renderer.arena.held key = other.arena.held key) :
    let first := renderer.renderCard card
    let second := other.renderCard card
    first.1 = second.1 ∧ first.2.arena = second.2.arena ∧ first.2.bindings = second.2.bindings
    ∧ ∀ {σ : Type} (sink : Sink σ) (state : σ) (actions : List Action),
      ((Dialogue.start first.2 state).play sink actions).answers
          = ((Dialogue.start second.2 state).play sink actions).answers
      ∧ ((Dialogue.start first.2 state).play sink actions).state
          = ((Dialogue.start second.2 state).play sink actions).state := by
  intro first second
  have forms : ∀ key ∈ card.formKeys, renderer.arena.held key = other.arena.held key := by
    intro key mem
    apply held
    rw [Renderer.opened_renderCard]
    exact List.mem_reverse.2 mem
  have arena : first.2.arena = second.2.arena := Renderer.arena_renderCard_congr forms
  have bindings : first.2.bindings = second.2.bindings :=
    Renderer.bindings_renderCard_congr renderer other card
  have same : first.2.uncounted = second.2.uncounted := by
    have colors : first.2.defaultPrimary = second.2.defaultPrimary := primary
    simp only [Renderer.uncounted, arena, bindings, colors]
  refine ⟨Renderer.renderCard_congr primary forms, arena, bindings, fun sink state actions => ?_⟩
  have alike := Dialogue.play_congr same sink state actions
  exact ⟨alike.answers, alike.state⟩

/-- A card looks the same to a renderer that showed it before and to one that showed a larger card
twice and holds a value in a form that this card lacks. -/
theorem pass_ignores_form_of_larger_card :
    let small : Card := .ofBody [.formOf "f" [.inputOf "i" "x"]]
    let large : Card := .ofBody [.formOf "g" [.inputOf "j" "x"], .formOf "f" [.inputOf "i" "x"]]
    let renderer := (Renderer.new "").afterEvents small Sink.ignoring ()
      [.change "i" (.string "kept")]
    let before := (Renderer.new "").afterEvents large Sink.ignoring ()
      [.change "i" (.string "kept"), .change "j" (.string "secret")]
    let other := (before.renderCard large).2
    renderer.passes ≠ other.passes ∧ renderer.bindings.keys ≠ other.bindings.keys
    ∧ renderer.arena.opened ≠ other.arena.opened
    ∧ (other.arena.held "g").text "x" = "secret"
    ∧ renderer.defaultPrimary = other.defaultPrimary
    ∧ (∀ key ∈ (renderer.renderCard small).2.arena.opened,
      renderer.arena.held key = other.arena.held key)
    ∧ (renderer.renderCard small).1 = (other.renderCard small).1
    ∧ (renderer.renderCard small).2.arena = (other.renderCard small).2.arena
    ∧ (renderer.renderCard small).2.bindings = (other.renderCard small).2.bindings := by
  intro small large renderer before other
  have held : ∀ key ∈ (renderer.renderCard small).2.arena.opened,
      renderer.arena.held key = other.arena.held key := by
    have opened : (renderer.renderCard small).2.arena.opened = ["f"] := by decide
    have one : renderer.arena.held "f" = Store.empty.update "x" (.string "kept") := by
      simp only [renderer, small]
      rfl
    have two : before.arena.held "f" = Store.empty.update "x" (.string "kept") := by
      simp only [before, large]
      rfl
    have again : other.arena.held "f" = before.arena.held "f" :=
      Renderer.held_renderCard (by decide)
    intro key mem
    obtain rfl : key = "f" := by simpa [opened] using mem
    rw [again, one, two]
  have primary : renderer.defaultPrimary = other.defaultPrimary := by decide
  obtain ⟨output, arena, bindings, -⟩ :=
    pass_owes_to_its_forms_alone renderer other small primary held
  exact ⟨by decide, by decide, by decide, by decide, primary, held, output, arena, bindings⟩

end FormCard
