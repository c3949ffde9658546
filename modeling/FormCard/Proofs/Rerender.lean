import FormCard.Proofs.Dialogue
import FormCard.Proofs.Held

/-!
# Rendering again changes nothing

A host may show a source again whenever it likes: after each event, as the command line does, or
once in a while.  It should make no difference.  A pass opens the same forms as the pass before,
finds a store for each of them and no other, and notes the same bindings.  So between two events a
pass over the same source only counts itself, and leaves everything else as it finds it.

What carries the argument is an invariant of the renderer, `Settled`: from a pass over a source on,
until another source is shown, its stores are those of the source, and its bindings are those that a
pass over the source would note.  Events keep it, whatever they do to values.

* `Settled.uncounted_render`: a pass over a source changes nothing but the count if the renderer is
  settled for it.
* `Dialogue.Agree.play`: in a run, passes in between can be left out.  The two runs have different
  lengths, so they are not compared step by step; the shorter one waits while the longer one shows
  the source again.
* `rerendering_is_transparent`: what comes of events, what reaches the sink, what forms hold and
  what is shown in the end do not depend on how often the source is shown.

The source may be broken.  Then there are no forms, and all events are ignored.
-/

namespace FormCard

/-! ## 1. The same source twice -/

namespace Renderer

/-- **The bindings of a pass depend on the source alone.** -/
theorem bindings_render_congr (renderer other : Renderer) (source : Source) :
    (renderer.render source).2.bindings = (other.render source).2.bindings := by
  cases source with
  | ready card => exact bindings_renderCard_congr renderer other card
  | broken reason => rfl

/-- **The second of two passes shows the same as the first.** -/
theorem output_render_render (renderer : Renderer) (source : Source) :
    ((renderer.render source).2.render source).1 = (renderer.render source).1 := by
  cases source with
  | ready card =>
    refine renderCard_congr rfl ?_
    intro key mem
    exact held_renderCard mem
  | broken reason => rfl

end Renderer

/-! ## 2. Between passes over one source -/

/-- What holds of a renderer from a pass over a source until it renders another one. -/
structure Settled (source : Source) (renderer : Renderer) : Prop where
  opened : renderer.arena.opened = source.formKeys.reverse
  stores : ∀ key, (renderer.arena.stores.get? key).isSome = true ↔ key ∈ source.formKeys
  bindings : renderer.bindings = (renderer.render source).2.bindings

namespace Settled

variable {source : Source} {renderer : Renderer}

theorem render (renderer : Renderer) (source : Source) :
    Settled source (renderer.render source).2 := by
  refine ⟨renderer.opened_render source, ?_, Renderer.bindings_render_congr _ _ source⟩
  intro key
  rw [Renderer.get?_render]
  by_cases mem : key ∈ source.formKeys
  · simp [mem]
  · simp [mem]

theorem handle {σ : Type} (h : Settled source renderer) (sink : Sink σ) (state : σ)
    (event : Event) : Settled source (renderer.handle sink state event).2.1 := by
  refine ⟨?_, ?_, ?_⟩
  · rw [Renderer.opened_handle]
    exact h.opened
  · intro key
    rw [Renderer.isSome_get?_handle]
    exact h.stores key
  · rw [Renderer.bindings_handle, h.bindings]
    exact Renderer.bindings_render_congr _ _ source

/-- The stores are those that a pass would leave. -/
theorem arena_render (h : Settled source renderer) :
    (renderer.render source).2.arena = renderer.arena := by
  apply Arena.ext_get?
  · rw [Renderer.opened_render, h.opened]
  · intro key
    rw [Renderer.get?_render]
    by_cases mem : key ∈ source.formKeys
    · obtain ⟨store, found⟩ := Option.isSome_iff_exists.1 ((h.stores key).2 mem)
      rw [if_pos mem, found]
      rfl
    · have free : renderer.arena.stores.get? key = none := by
        rw [← Option.not_isSome_iff_eq_none, h.stores key]
        exact mem
      rw [if_neg mem, free]

/-- **Rendering the same source again changes nothing,** apart from the number of passes. -/
theorem uncounted_render (h : Settled source renderer) :
    (renderer.render source).2.uncounted = renderer.uncounted := by
  have fields : (renderer.render source).2.uncounted
      = { renderer.uncounted with
          arena := (renderer.render source).2.arena
          bindings := (renderer.render source).2.bindings } := by
    cases source with
    | ready card => rfl
    | broken reason => rfl
  rw [fields, h.arena_render, ← h.bindings]
  rfl

end Settled

/-! ## 3. Runs over one source -/

/-- What a host does that shows one source. -/
inductive Move where
  | event (event : Event)
  /-- Shows the source again. -/
  | again

namespace Move

/-- What a move asks of the renderer. -/
def action (source : Source) : Move → Action
  | event moved => .event moved
  | again => .render source

def event? : Move → Option Event
  | event moved => some moved
  | again => none

end Move

namespace Dialogue

variable {σ : Type} {source : Source} {dialogue other : Dialogue σ}

/-- Dialogues in which the events came out alike, whatever was shown in between. -/
structure Agree (dialogue other : Dialogue σ) : Prop where
  renderer : dialogue.renderer.uncounted = other.renderer.uncounted
  state : dialogue.state = other.state
  results : dialogue.results = other.results

namespace Agree

/-- The next event comes out alike as well. -/
theorem event (h : Agree dialogue other) (sink : Sink σ) (event : Event) :
    Agree (dialogue.step sink (.event event)) (other.step sink (.event event)) := by
  obtain ⟨renderer, state, answers⟩ := dialogue
  obtain ⟨renderer', state', answers'⟩ := other
  obtain ⟨same, rfl, results⟩ := h
  obtain ⟨result, left, next⟩ := Renderer.handle_congr same sink state event
  refine ⟨left, next, ?_⟩
  simp only [Dialogue.results, Dialogue.step, List.filterMap_append, result]
  exact congrArg (· ++ _) results

/-- Showing the source again is counted, and makes no other difference. -/
theorem again (h : Agree dialogue other) (settled : Settled source dialogue.renderer)
    (sink : Sink σ) : Agree (dialogue.step sink (.render source)) other := by
  refine ⟨settled.uncounted_render.trans h.renderer, h.state, ?_⟩
  rw [← h.results]
  simp [Dialogue.results, Dialogue.step, Answer.result?]

/-- **Moves that show the source again can be left out of a run.** -/
theorem play (h : Agree dialogue other) (settled : Settled source dialogue.renderer)
    (sink : Sink σ) (moves : List Move) :
    Agree (dialogue.play sink (moves.map (Move.action source)))
      (other.play sink ((moves.filterMap Move.event?).map .event)) := by
  induction moves generalizing dialogue other with
  | nil => exact h
  | cons move moves ih =>
    cases move with
    | event event => exact ih (h.event sink event) (settled.handle sink dialogue.state event)
    | again => exact ih (h.again settled sink) (.render dialogue.renderer source)

end Agree

end Dialogue

/-- **Rendering again is transparent.**  A second pass over a source shows what the first one
showed, and leaves the same forms and bindings.  After a pass let events happen, and show the source
again in between as often as you like: each event comes out as it does without, the sink gets the
same submissions and ends up in the same state, the forms hold the same, and showing the source in
the end shows the same. -/
theorem rerendering_is_transparent {σ : Type} (renderer : Renderer) (source : Source)
    (sink : Sink σ) (state : σ) (moves : List Move) :
    let first := renderer.render source
    let second := first.2.render source
    let start := Dialogue.start first.2 state
    let often := start.play sink (moves.map (Move.action source))
    let once := start.play sink ((moves.filterMap Move.event?).map .event)
    (second.1 = first.1 ∧ second.2.arena = first.2.arena ∧ second.2.bindings = first.2.bindings)
    ∧ often.results = once.results
    ∧ often.state = once.state
    ∧ often.renderer.arena = once.renderer.arena
    ∧ often.renderer.bindings = once.renderer.bindings
    ∧ (often.renderer.render source).1 = (once.renderer.render source).1 := by
  intro first second start often once
  have settled : Settled source first.2 := .render renderer source
  have same : Dialogue.Agree start start := ⟨rfl, rfl, rfl⟩
  have agree : Dialogue.Agree often once := same.play settled sink moves
  obtain ⟨arena, bindings⟩ := Renderer.eq_of_uncounted agree.renderer
  refine ⟨⟨?_, settled.arena_render, settled.bindings.symm⟩, agree.results, agree.state, arena,
    bindings, ?_⟩
  · exact renderer.output_render_render source
  · exact (Renderer.render_congr agree.renderer source).1

end FormCard
