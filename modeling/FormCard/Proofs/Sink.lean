import FormCard.Proofs.Dialogue

/-!
# What events leave alone, and what a sink can do

This module is about the effects of events.  A change has one on a store, and a click has one on the
sink.  There are no others, and the two kinds do not mix.

A sink is code of somebody else.  It is handed submissions and may fail, and a renderer never looks
at what it answered.  So an event falls into two parts: what it does to the renderer, which no sink
has a share in (`Renderer.react`), and at most one submission, which is handed over once
(`Renderer.offer?`).

* `Renderer.handle_eq` takes an event apart into the two.
* `Dialogue.Alike.play`: two hosts that ask the same of a renderer get the same answers, and their
  sinks are handed the same submissions in the same order, whatever the sinks do with them.  The
  states of the sinks may be of different types; a relation between them is carried along as far as
  submissions keep it.
* `events_touch_one_field_and_sinks_listen`: an event changes nothing but one field of one form and
  the state of that form; and sinks only listen.

That submissions are counted right is said with a sink that is watched.  `Sink.watched` does what
the sink does and keeps what it is handed, so the calls are known without any assumption about the
sink.
-/

namespace FormCard

variable {σ τ : Type}

/-! ## 1. Submissions and sinks -/

namespace Sink

/-- The state of a sink after it was handed a submission, if there was one. -/
def receive (sink : Sink σ) (state : σ) : Option Submission → σ
  | some submission => (sink state submission).1
  | none => state

/-- The sink that does the same and keeps what it is handed besides, the first submission first. -/
def watched (sink : Sink σ) : Sink (σ × List Submission) := fun state submission =>
  let answer := sink state.1 submission
  ((answer.1, state.2 ++ [submission]), answer.2)

/-- A watched sink gets as far as it does unwatched, and what it was handed is known. -/
theorem receive_watched (sink : Sink σ) (state : σ) (log : List Submission)
    (offered : Option Submission) :
    sink.watched.receive (state, log) offered
      = (sink.receive state offered, log ++ offered.toList) := by
  cases offered with
  | none => simp [receive]
  | some submission => rfl

end Sink

namespace Renderer

/-- The submission that an event hands over, if there is one. -/
def offer? (renderer : Renderer) (event : Event) : Option Submission :=
  match event, renderer.bindings.get? event.target with
  | .click _, some (.button (some form) _) => some (renderer.submission form)
  | _, _ => none

/-- Only a click on a button that submits a form hands over anything. -/
theorem offer?_eq_some_iff {renderer : Renderer} {event : Event} {submission : Submission} :
    renderer.offer? event = some submission
      ↔ ∃ id form intent, event = .click id
        ∧ renderer.bindings.get? id = some (.button (some form) intent)
        ∧ renderer.submission form = submission := by
  unfold offer?
  constructor
  · intro offered
    split at offered
    · next id form intent bound => exact ⟨id, form, intent, rfl, bound, Option.some.inj offered⟩
    · exact absurd offered (by simp)
  · rintro ⟨id, form, intent, rfl, bound, rfl⟩
    simp [Event.target, bound]

/-- What comes of an event, and the renderer after it, as far as no sink has a share in it. -/
def react (renderer : Renderer) (event : Event) : EventResult × Renderer :=
  let handled := renderer.handle Sink.ignoring () event
  (handled.1, handled.2.1)

/-- **An event is a reaction that knows of no sink, and at most one submission.** -/
theorem handle_eq (sink : Sink σ) (renderer : Renderer) (state : σ) (event : Event) :
    renderer.handle sink state event
      = ((renderer.react event).1, (renderer.react event).2,
          sink.receive state (renderer.offer? event)) := by
  unfold react offer? handle
  split
  · -- a change of a field, with or without a store for its form
    split
    · simp [Sink.receive, *]
    · simp [Sink.receive, *]
  · simp [Sink.receive, *]
  · simp [Sink.receive, *]
  · simp [Sink.receive, *]

/-- **There is a submission exactly if the result says so.** -/
theorem isSome_offer? (renderer : Renderer) (event : Event) :
    (renderer.offer? event).isSome = (renderer.react event).1.preventsDefault := by
  unfold react
  cases offered : renderer.offer? event with
  | some submission =>
    obtain ⟨id, form, intent, rfl, bound, -⟩ := offer?_eq_some_iff.1 offered
    rw [handle_click_of_submit bound]
    rfl
  | none =>
    rcases handle_cases Sink.ignoring renderer () event with
      ⟨id, value, target, store, -, -, -, eq⟩ | ⟨id, form, intent, click, bound, -⟩
      | ⟨result, quiet, eq⟩
    · rw [eq]
      rfl
    · have submits := offer?_eq_some_iff.2 ⟨id, form, intent, click, bound, rfl⟩
      exact absurd (offered.symm.trans submits) (by simp)
    · rw [eq]
      rcases quiet with rfl | ⟨intent, rfl⟩
      · rfl
      · rfl

end Renderer

/-! ## 2. Dialogues with different sinks -/

namespace Dialogue

/-- Dialogues that differ at most in the states of their sinks, and there as far as `R` allows. -/
structure Alike (R : σ → τ → Prop) (dialogue : Dialogue σ) (other : Dialogue τ) : Prop where
  renderer : dialogue.renderer = other.renderer
  answers : dialogue.answers = other.answers
  state : R dialogue.state other.state

namespace Alike

variable {R : σ → τ → Prop} {sink : Sink σ} {other : Sink τ}

/-- **An action keeps dialogues alike,** if the submission that it may hand over does. -/
theorem step {dialogue : Dialogue σ} {dialogue' : Dialogue τ} (h : Alike R dialogue dialogue')
    (keeps : ∀ state kept offered, R state kept →
      R (sink.receive state offered) (other.receive kept offered)) (action : Action) :
    Alike R (dialogue.step sink action) (dialogue'.step other action) := by
  obtain ⟨renderer, state, answers⟩ := dialogue
  obtain ⟨renderer', kept, answers'⟩ := dialogue'
  obtain ⟨rfl, rfl, related⟩ := h
  cases action with
  | render source => exact ⟨rfl, rfl, related⟩
  | event event =>
    simp only [Dialogue.step, Renderer.handle_eq]
    exact ⟨rfl, rfl, keeps state kept _ related⟩

/-- **Actions keep dialogues alike,** one after the other. -/
theorem play {dialogue : Dialogue σ} {dialogue' : Dialogue τ} (h : Alike R dialogue dialogue')
    (keeps : ∀ state kept offered, R state kept →
      R (sink.receive state offered) (other.receive kept offered)) (actions : List Action) :
    Alike R (dialogue.play sink actions) (dialogue'.play other actions) := by
  induction actions generalizing dialogue dialogue' with
  | nil => exact h
  | cons action actions ih => exact ih (h.step keeps action)

end Alike

variable (renderer : Renderer) (sink : Sink σ) (state : σ) (other : Sink τ) (kept : τ)
  (actions : List Action)

/-- **No sink has a share in the answers,** nor in what the renderer becomes. -/
theorem play_alike :
    Alike (fun _ _ => True) ((start renderer state).play sink actions)
      ((start renderer kept).play other actions) := by
  have start : Alike (fun _ _ => True) (start renderer state) (start renderer kept) :=
    ⟨rfl, rfl, trivial⟩
  exact start.play (fun _ _ _ _ => trivial) actions

/-- Watching a sink changes nothing for it. -/
theorem play_watched :
    Alike (fun now unwatched => now.1 = unwatched)
      ((start renderer (state, [])).play sink.watched actions)
      ((start renderer state).play sink actions) := by
  have start : Alike (fun (now : σ × List Submission) unwatched => now.1 = unwatched)
      (start renderer (state, [])) (start renderer state) := ⟨rfl, rfl, rfl⟩
  refine start.play ?_ actions
  rintro ⟨now, log⟩ unwatched offered rfl
  rw [Sink.receive_watched]

/-- **Any two sinks are offered the same submissions,** whatever they answer. -/
theorem play_offers :
    Alike (fun (now : σ × List Submission) (now' : τ × List Submission) => now.2 = now'.2)
      ((start renderer (state, [])).play sink.watched actions)
      ((start renderer (kept, [])).play other.watched actions) := by
  have start : Alike
      (fun (now : σ × List Submission) (now' : τ × List Submission) => now.2 = now'.2)
      (start renderer (state, [])) (start renderer (kept, [])) := ⟨rfl, rfl, rfl⟩
  refine start.play ?_ actions
  rintro ⟨now, log⟩ ⟨now', log'⟩ offered rfl
  rw [Sink.receive_watched, Sink.receive_watched]

end Dialogue

/-! ## 3. Main statement -/

/-- **Events touch one field of one form, and sinks listen.**  An event never changes the bindings
and the number of passes.  It leaves the renderer as it is unless a field was updated; then the form
has a store before and after, in which the other fields are as they were, and the stores of the
other forms are as they were too.  A sink is called once if the result prevents the default, and not
at all otherwise.  Hence in a run of any passes and events no sink has a share in the answers or in
the renderer, and any two sinks are offered the same submissions in the same order. -/
theorem events_touch_one_field_and_sinks_listen (renderer : Renderer) (sink : Sink σ) (state : σ)
    (other : Sink τ) (kept : τ) :
    (∀ event,
      let handled := renderer.handle sink state event
      let watched := renderer.handle sink.watched (state, []) event
      (handled.2.1.bindings = renderer.bindings ∧ handled.2.1.passes = renderer.passes)
      ∧ ((∀ form field, handled.1 ≠ .fieldUpdated form field) → handled.2.1 = renderer)
      ∧ (∀ form field, handled.1 = .fieldUpdated form field →
        ∃ id value store after, event = .change id value
          ∧ renderer.arena.stores.get? form = some store
          ∧ handled.2.1.arena.stores.get? form = some after
          ∧ after.get? field = some value ∧ after.state = .edited
          ∧ (∀ name, name ≠ field → after.get? name = store.get? name)
          ∧ ∀ key, key ≠ form →
            handled.2.1.arena.stores.get? key = renderer.arena.stores.get? key)
      ∧ ∃ calls, watched = (handled.1, handled.2.1, handled.2.2, calls)
        ∧ calls.length = if handled.1.preventsDefault then 1 else 0)
    ∧ ∀ actions,
      let one := (Dialogue.start renderer state).play sink actions
      let two := (Dialogue.start renderer kept).play other actions
      one.answers = two.answers ∧ one.renderer = two.renderer
      ∧ ∃ offered,
        ((Dialogue.start renderer (state, [])).play sink.watched actions).state
          = (one.state, offered)
        ∧ ((Dialogue.start renderer (kept, [])).play other.watched actions).state
          = (two.state, offered) := by
  refine ⟨fun event => ⟨⟨?_, ?_⟩, ?_, ?_, ?_⟩, fun actions => ?_⟩
  · exact Renderer.bindings_handle sink renderer state event
  · exact congrArg UInt64.toNat (Renderer.passCount_handle sink renderer state event)
  · exact Renderer.handle_eq_self
  · intro form field updated
    obtain ⟨id, value, store, change, -, found, eq⟩ := Renderer.exists_enter_of_updated updated
    refine ⟨id, value, store, store.update field value, change, found, ?_, ?_, rfl, ?_, ?_⟩
    · rw [eq, Renderer.get?_enter]
      exact if_pos rfl
    · rw [Store.get?_update]
      exact if_pos rfl
    · intro name ne
      rw [Store.get?_update]
      exact if_neg (Ne.symm ne)
    · intro key ne
      rw [eq, Renderer.get?_enter]
      exact if_neg (Ne.symm ne)
  · refine ⟨(renderer.offer? event).toList, ?_, ?_⟩
    · simp only [Renderer.handle_eq, Sink.receive_watched, List.nil_append]
    · rw [Renderer.handle_eq, ← Renderer.isSome_offer?]
      cases renderer.offer? event with
      | none => rfl
      | some submission => rfl
  · have both := Dialogue.play_alike renderer sink state other kept actions
    have one := Dialogue.play_watched renderer sink state actions
    have two := Dialogue.play_watched renderer other kept actions
    have offers := Dialogue.play_offers renderer sink state other kept actions
    exact ⟨both.answers, both.renderer, _, Prod.ext one.state rfl,
      Prod.ext two.state offers.state.symm⟩

end FormCard
