import FormCard.Proofs.Event

/-!
# A host at work with a renderer

A host does two things with a renderer: it has a source rendered, and it passes on what the user
did.  It gets back an output for the one and a result for the other, and that is all it ever sees.
A `Dialogue` is a run of such requests, with any sources and events, together with the state of the
sink and the answers so far.  Whatever is to hold of whole runs of a renderer is stated about
dialogues: that no sink can influence them, that a renderer's past can be forgotten, that showing a
source once more goes unnoticed.

A renderer also counts its passes, for the log.  Nothing that it is asked brings the count to light,
so two renderers that differ in it alone behave alike (`Dialogue.play_congr`).  Plain equality of
renderers would be too much to ask wherever one run has more passes than the other.  Such runs are
compared after `Renderer.uncounted`, which sets the count back.

* `Renderer.handle_congr` and `Renderer.render_congr` say so of one event and of one pass.
* `Dialogue.Indistinct` is the relation that they preserve, one action after the other.
-/

namespace FormCard

variable {σ : Type}

/-! ## 1. Requests and answers -/

/-- What a host asks of a renderer. -/
inductive Action where
  | render (source : Source)
  | event (event : Event)

/-- What a host gets back. -/
inductive Answer where
  | output (output : Output)
  | result (result : EventResult)

/-- What came of an event, if the answer is about one. -/
def Answer.result? : Answer → Option EventResult
  | output _ => none
  | result came => some came

/-- A renderer at work, with the state of the sink and all answers so far. -/
structure Dialogue (σ : Type) where
  renderer : Renderer
  state : σ
  answers : List Answer

namespace Dialogue

def start (renderer : Renderer) (state : σ) : Dialogue σ := ⟨renderer, state, []⟩

/-- One action further. -/
def step (sink : Sink σ) (dialogue : Dialogue σ) : Action → Dialogue σ
  | .render source =>
    let rendered := dialogue.renderer.render source
    ⟨rendered.2, dialogue.state, dialogue.answers ++ [.output rendered.1]⟩
  | .event event =>
    let handled := dialogue.renderer.handle sink dialogue.state event
    ⟨handled.2.1, handled.2.2, dialogue.answers ++ [.result handled.1]⟩

def play (sink : Sink σ) (dialogue : Dialogue σ) (actions : List Action) : Dialogue σ :=
  actions.foldl (step sink) dialogue

/-- What came of the events so far. -/
def results (dialogue : Dialogue σ) : List EventResult := dialogue.answers.filterMap Answer.result?

end Dialogue

/-! ## 2. All but the number of passes -/

namespace Renderer

/-- A renderer that has not counted its passes. -/
def uncounted (renderer : Renderer) : Renderer := { renderer with passCount := 0 }

/-- An event does not look at the number of passes. -/
theorem handle_uncounted (sink : Sink σ) (renderer : Renderer) (state : σ) (event : Event) :
    renderer.uncounted.handle sink state event
      = ((renderer.handle sink state event).1, (renderer.handle sink state event).2.1.uncounted,
          (renderer.handle sink state event).2.2) := by
  simp only [handle, uncounted, submission]
  split
  · -- a change of a field, with or without a store for its form
    split
    · rfl
    · rfl
  · rfl
  · rfl
  · rfl

theorem eq_of_uncounted {renderer other : Renderer} (h : renderer.uncounted = other.uncounted) :
    renderer.arena = other.arena ∧ renderer.bindings = other.bindings := by
  simp only [uncounted, mk.injEq] at h
  obtain ⟨arena, bindings, -, -⟩ := h
  exact ⟨arena, bindings⟩

/-- An event comes out alike in renderers that differ in the number of passes only, and they differ
in nothing else afterwards. -/
theorem handle_congr {renderer other : Renderer} (h : renderer.uncounted = other.uncounted)
    (sink : Sink σ) (state : σ) (event : Event) :
    (renderer.handle sink state event).1 = (other.handle sink state event).1
    ∧ (renderer.handle sink state event).2.1.uncounted
        = (other.handle sink state event).2.1.uncounted
    ∧ (renderer.handle sink state event).2.2 = (other.handle sink state event).2.2 := by
  have both : renderer.uncounted.handle sink state event
      = other.uncounted.handle sink state event := by rw [h]
  simpa only [handle_uncounted, Prod.mk.injEq] using both

/-- Nor does a pass show it, or look at it. -/
theorem render_congr {renderer other : Renderer} (h : renderer.uncounted = other.uncounted)
    (source : Source) :
    (renderer.render source).1 = (other.render source).1
    ∧ (renderer.render source).2.uncounted = (other.render source).2.uncounted := by
  have shown (now : Renderer) : (now.render source).1 = (now.uncounted.render source).1 := by
    cases source with
    | ready card => rfl
    | broken reason => rfl
  have left (now : Renderer) :
      (now.render source).2.uncounted = (now.uncounted.render source).2.uncounted := by
    cases source with
    | ready card => rfl
    | broken reason => rfl
  refine ⟨?_, ?_⟩
  · rw [shown renderer, shown other, h]
  · rw [left renderer, left other, h]

end Renderer

/-! ## 3. Runs -/

namespace Dialogue

/-- Dialogues with the same answers whose renderers differ at most in the number of passes. -/
structure Indistinct (dialogue other : Dialogue σ) : Prop where
  renderer : dialogue.renderer.uncounted = other.renderer.uncounted
  state : dialogue.state = other.state
  answers : dialogue.answers = other.answers

namespace Indistinct

variable {dialogue other : Dialogue σ}

theorem step (h : Indistinct dialogue other) (sink : Sink σ) (action : Action) :
    Indistinct (dialogue.step sink action) (other.step sink action) := by
  obtain ⟨renderer, state, answers⟩ := dialogue
  obtain ⟨renderer', state', answers'⟩ := other
  obtain ⟨same, rfl, rfl⟩ := h
  cases action with
  | render source =>
    obtain ⟨shown, left⟩ := Renderer.render_congr same source
    exact ⟨left, rfl, by simp only [Dialogue.step, shown]⟩
  | event event =>
    obtain ⟨result, left, next⟩ := Renderer.handle_congr same sink state event
    exact ⟨left, next, by simp only [Dialogue.step, result]⟩

theorem play (h : Indistinct dialogue other) (sink : Sink σ) (actions : List Action) :
    Indistinct (dialogue.play sink actions) (other.play sink actions) := by
  induction actions generalizing dialogue other with
  | nil => exact h
  | cons action actions ih => exact ih (h.step sink action)

end Indistinct

/-- **No host can tell how often a renderer has been used.**  Renderers that differ in the number of
passes only give the same answers, and the sink comes to the same state. -/
theorem play_congr {renderer other : Renderer} (same : renderer.uncounted = other.uncounted)
    (sink : Sink σ) (state : σ) (actions : List Action) :
    Indistinct ((start renderer state).play sink actions)
      ((start other state).play sink actions) := by
  have start : Indistinct (start renderer state) (start other state) := ⟨same, rfl, rfl⟩
  exact start.play sink actions

end Dialogue

end FormCard
