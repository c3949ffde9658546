import FormCard.Preview
import FormCard.Proofs.Edit

/-!
# A preview between its events

The command line runs a card through a preview, and what it prints depends on two things: the card
at the end, and what came of each event on the way.  A preview shows its source after each event, so
between events its renderer is settled and the output at hand is the one that the next pass would
show.  Therefore both can be told from the output that the preview starts with.

* `Renderer.result_change` and `Renderer.result_click_iff`: what comes of an event after a pass is
  told by the output of the pass.
* `Preview.output_play`: what events make of the card is told by the card that they start from, one
  event after the other, without any renderer.
* `Preview.result_play`: what comes of an event does not depend on the events before it, which
  change neither the bindings nor which stores there are.

The invariant is `Preview.Current`.  It holds at the start and is kept by each step, since each step
ends with a pass.  `FormCard.Proofs.Assignment` and `FormCard.Proofs.Report` build on this module,
for the card and for the lines in front of it.
-/

namespace FormCard

/-! ## 1. What comes of an event -/

/-- **What comes of an event depends on the bindings and on which stores there are,** not on what
the stores hold. -/
theorem Renderer.result_handle_congr {σ τ : Type} {renderer other : Renderer}
    (bindings : renderer.bindings = other.bindings)
    (stores : ∀ key, (renderer.arena.stores.get? key).isSome = (other.arena.stores.get? key).isSome)
    (sink : Sink σ) (state : σ) (later : Sink τ) (kept : τ) (event : Event) :
    (renderer.handle sink state event).1 = (other.handle later kept event).1 := by
  cases event with
  | change id value =>
    rcases bound : renderer.bindings.get? id with _ | ⟨_ | target⟩ | ⟨submit, intent⟩
    all_goals have bound' : other.bindings.get? id = _ := bindings ▸ bound
    · rw [handle_of_unbound sink state bound, handle_of_unbound later kept bound']
    · rw [handle_change_of_none sink state bound, handle_change_of_none later kept bound']
    · have same := stores target.form
      cases found : renderer.arena.stores.get? target.form with
      | none =>
        have found' : other.arena.stores.get? target.form = none := by
          rw [found] at same
          exact Option.not_isSome_iff_eq_none.1 (by simp [← same])
        rw [handle_change_of_lost sink state value bound found,
          handle_change_of_lost later kept value bound' found']
      | some store =>
        rw [found] at same
        obtain ⟨store', found'⟩ := Option.isSome_iff_exists.1 same.symm
        rw [handle_change_of_field sink state value bound found,
          handle_change_of_field later kept value bound' found']
    · rw [handle_change_of_button sink state bound, handle_change_of_button later kept bound']
  | click id =>
    rcases bound : renderer.bindings.get? id with _ | ⟨target⟩ | ⟨_ | scope, intent⟩
    all_goals have bound' : other.bindings.get? id = _ := bindings ▸ bound
    · rw [handle_of_unbound sink state bound, handle_of_unbound later kept bound']
    · rw [handle_click_of_field sink state bound, handle_click_of_field later kept bound']
    · rw [handle_click_of_intent sink state bound, handle_click_of_intent later kept bound']
    · -- the receipt names the destination, and says nothing of the values
      rw [handle_click_of_submit bound, handle_click_of_submit bound']
      rfl

/-- Between passes over a source the same comes of an event whatever happened before. -/
theorem Settled.result_handle_congr {σ τ : Type} {source : Source} {renderer other : Renderer}
    (h : Settled source renderer) (h' : Settled source other) (sink : Sink σ) (state : σ)
    (later : Sink τ) (kept : τ) (event : Event) :
    (renderer.handle sink state event).1 = (other.handle later kept event).1 := by
  apply Renderer.result_handle_congr
  · rw [h.bindings, h'.bindings]
    exact Renderer.bindings_render_congr renderer other source
  · intro key
    rw [Bool.eq_iff_iff, h.stores, h'.stores]

/-! ## 2. What the card tells of it -/

namespace Renderer

variable {σ : Type} (renderer : Renderer) (source : Source) (sink : Sink σ) (state : σ)
  (id : String)

/-- The bindings after a pass over any source are those that its output shows. -/
theorem noted_render :
    Noted (renderer.render source).1.scopes (View.preorderAll (renderer.render source).1.body)
      .empty (renderer.render source).2.bindings := by
  cases source with
  | ready card => exact renderer.noted_renderCard card
  | broken reason => exact .nil _

/-- An id is bound exactly if the card shows a control for it, and to what that shows. -/
theorem binding_cases :
    ((renderer.render source).1.control? id = none
      ∧ (renderer.render source).2.bindings.get? id = none)
    ∨ ∃ control binding, (renderer.render source).1.control? id = some control
      ∧ (renderer.render source).2.bindings.get? id = some binding
      ∧ control.Shows (renderer.render source).1.scopes binding := by
  have noted := renderer.noted_render source id
  cases shown : (renderer.render source).1.control? id with
  | none =>
    rw [show View.lastControl? id _ = none from shown] at noted
    exact .inl ⟨rfl, noted⟩
  | some control =>
    rw [show View.lastControl? id _ = some control from shown] at noted
    obtain ⟨binding, bound, same⟩ := noted
    exact .inr ⟨control, binding, rfl, bound, same⟩

/-- **A change updates the field that the card shows under its id,** and is ignored if there is
none. -/
theorem result_change (value : Json) :
    ((renderer.render source).2.handle sink state (.change id value)).1
      = match (renderer.render source).1.control? id with
        | some (.field (some target)) => .fieldUpdated target.form target.field
        | _ => .ignored := by
  rcases renderer.binding_cases source id
    with ⟨shown, free⟩ | ⟨control, binding, shown, bound, same⟩
  · rw [shown, handle_of_unbound sink state free]
  · rw [shown]
    cases same with
    | button inside intent => rw [handle_change_of_button sink state bound]
    | field target =>
      cases target with
      | none => rw [handle_change_of_none sink state bound]
      | some target =>
        have live := renderer.live_render source id _ target.form bound rfl
        obtain ⟨store, found⟩ := Option.isSome_iff_exists.1 live
        rw [handle_change_of_field sink state value bound found]

/-- **A click names an intent and submits a form exactly if the card shows a button under its id
that does both.** -/
theorem result_click_iff :
    (∃ intent receipt, ((renderer.render source).2.handle sink state (.click id)).1
      = .clicked (some intent) (some receipt))
    ↔ ∃ key intent,
      (renderer.render source).1.control? id = some (.button (some key) (some intent)) := by
  rcases renderer.binding_cases source id
    with ⟨shown, free⟩ | ⟨control, binding, shown, bound, same⟩
  · rw [shown, handle_of_unbound sink state free]
    simp
  · rw [shown]
    cases same with
    | field target =>
      rw [handle_click_of_field sink state bound]
      simp
    | @button submit inside intent =>
      cases submit with
      | none =>
        rw [handle_click_of_intent sink state bound]
        cases intent <;> simp
      | some scope =>
        rw [handle_click_of_submit bound]
        cases intent <;> simp

end Renderer

/-! ## 3. Runs of a preview -/

namespace Preview

/-- A preview that shows what the next pass over the source would show again. -/
structure Current (source : Source) (preview : Preview) : Prop where
  settled : Settled source preview.renderer
  output : preview.output = (preview.renderer.render source).1

namespace Current

variable {source : Source} {preview : Preview}

theorem start (primary : String) (source : Source) : Current source (start primary source) :=
  ⟨.render _ source, (Renderer.output_render_render _ source).symm⟩

/-- Each step ends with a pass. -/
theorem step (source : Source) (preview : Preview) (event : Event) :
    Current source (preview.step source event) :=
  ⟨.render _ source, (Renderer.output_render_render _ source).symm⟩

/-- **One event changes the card that is shown as the card itself tells.** -/
theorem output_step (h : Current source preview) (event : Event) :
    (preview.step source event).output = preview.output.after event := by
  rw [h.output]
  exact h.settled.output_handle Sink.ignoring () event

theorem foldl (h : Current source preview) (events : List Event) :
    Current source (events.foldl (Preview.step source) preview)
    ∧ (events.foldl (Preview.step source) preview).output
      = events.foldl Output.after preview.output := by
  induction events generalizing preview with
  | nil => exact ⟨h, rfl⟩
  | cons event events ih =>
    have later := ih (.step source preview event)
    rw [h.output_step event] at later
    exact later

end Current

variable (primary : String) (source : Source)

theorem current_play (events : List Event) : Current source (play primary source events) :=
  ((Current.start primary source).foldl events).1

/-- **The card at the end of a run is told by the card at its start.** -/
theorem output_play (events : List Event) :
    (play primary source events).output
      = events.foldl Output.after ((Renderer.new primary).render source).1 :=
  ((Current.start primary source).foldl events).2

/-- **What comes of an event in a run is what comes of it right after the first pass.** -/
theorem result_play (before : List Event) (event : Event) :
    ((play primary source before).renderer.handle Sink.ignoring () event).1
      = (((Renderer.new primary).render source).2.handle Sink.ignoring () event).1 :=
  (current_play primary source before).settled.result_handle_congr (.render _ source) _ _ _ _ event

end Preview

end FormCard
