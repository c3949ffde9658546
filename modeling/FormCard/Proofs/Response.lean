import FormCard.Proofs.Shown

/-!
# Events do what is shown

A pass makes two things of an interactive component: a view, which the user sees, and a binding,
which an event on the component is looked up in.  They are made apart from each other, by different
parts of the program.  If they disagreed, a user would type into one form and fill in another.  And
they might disagree, for several components may share an id, of which the bindings remember one
only.

Still the output tells what an event will do.  Look for the last field or button with the id of the
event (`Output.control?`); what it shows is what happens.  Last means last in the order of the
document, as a reader of the output finds it.

* `noted_viewNode`: a binding that a pass notes does what the last view with its id shows, and where
  it submits a form, that form is shown.  The relation between views and bindings is `Noted`, and it
  composes: views that come later count before earlier ones (`Noted.append`).
* `Renderer.handle_of_field` and `Renderer.handle_of_button` say what events do to a field and to a
  button while bindings are live.
* `events_do_what_is_shown`: after a pass and any events, an event does what the output of the pass
  shows, and never falls back on a form without a store.

A binding knows more of a form than a button shows, namely where its values go.  The destination is
shown at the form itself, and since keys are distinct there is only one form to look at.
-/

namespace FormCard

/-! ## 1. What is shown of events -/

/-- What a view shows about events on an id. -/
def View.control? (id : String) : View → Option Control
  | .leaf own _ content => if own = id then content.control? else none
  | .frame _ _ _ _ => none

/-- What the last view in a list that takes events under an id shows about them. -/
def View.lastControl? (id : String) (views : List View) : Option Control :=
  (views.filterMap (control? id)).getLast?

/-- What the last view of an output that takes events under an id shows about them. -/
def Output.control? (output : Output) (id : String) : Option Control :=
  View.lastControl? id (View.preorderAll output.body)

/-- The bindings that do what a control shows, where the forms that are shown are given. -/
inductive Control.Shows (forms : List Scope) : Control → Binding → Prop
  | field (target : Option FieldRef) : Shows forms (.field target) (.field target)
  | button {submit : Option Scope} (inside : ∀ own, submit = some own → own ∈ forms)
      (intent : Option String) :
    Shows forms (.button (submit.map Scope.key) intent) (.button submit intent)

/-- Whether bindings were noted for views one after the other: of the views that take events under
an id the last one counts, and without one the id is bound as before. -/
def Noted (forms : List Scope) (views : List View) (before after : Bindings) : Prop :=
  ∀ id, match View.lastControl? id views with
    | some control => ∃ binding, after.get? id = some binding ∧ control.Shows forms binding
    | none => after.get? id = before.get? id

namespace Noted

variable {forms : List Scope}

theorem nil (bindings : Bindings) : Noted forms [] bindings bindings := fun _ => rfl

/-- A frame takes no events. -/
theorem frame {views : List View} {before after : Bindings} (h : Noted forms views before after)
    (id : String) (style : Option String) (kind : Frame) (children : List View) :
    Noted forms (.frame id style kind children :: views) before after := h

/-- A leaf that takes no events is not bound. -/
theorem silent {content : Leaf} (none : content.control? = none) (id : String)
    (style : Option String) (bindings : Bindings) :
    Noted forms [.leaf id style content] bindings bindings := by
  intro other
  have last : View.lastControl? other [.leaf id style content] = .none := by
    simp [View.lastControl?, View.control?, none]
  rw [last]

/-- A leaf that takes events is bound to what it shows. -/
theorem leaf {content : Leaf} {control : Control} (shown : content.control? = some control)
    {binding : Binding} (same : control.Shows forms binding) (id : String) (style : Option String)
    (bindings : Bindings) :
    Noted forms [.leaf id style content] bindings (bindings.insert id binding) := by
  intro other
  by_cases own : id = other
  · have last : View.lastControl? other [.leaf id style content] = some control := by
      simp [View.lastControl?, View.control?, own, shown]
    rw [last, Dict.get?_insert, if_pos own]
    exact ⟨binding, rfl, same⟩
  · have last : View.lastControl? other [.leaf id style content] = none := by
      simp [View.lastControl?, View.control?, own]
    rw [last, Dict.get?_insert, if_neg own]

/-- **Later views count before earlier ones.** -/
theorem append {views more : List View} {before middle after : Bindings}
    (first : Noted forms views before middle) (second : Noted forms more middle after) :
    Noted forms (views ++ more) before after := by
  intro id
  have last : View.lastControl? id (views ++ more)
      = (View.lastControl? id more).or (View.lastControl? id views) := by
    simp only [View.lastControl?, List.filterMap_append, List.getLast?_append]
  have first := first id
  have second := second id
  rw [last]
  cases later : View.lastControl? id more with
  | some control =>
    rw [later] at second
    exact second
  | none =>
    rw [later] at second
    rw [Option.none_or, second]
    exact first

end Noted

/-! ## 2. Each binding is shown -/

/-- An editor shows its binding. -/
theorem control?_ofEditor (editor : Editor) (props : Props) (theme : Theme) (slot : Slot) :
    (Leaf.ofEditor editor props theme slot).control? = some (.field slot.binding) := by
  cases editor <;> rfl

theorem control?_ofDisplay (display : Display) (props : Props) (theme : Theme) :
    (Leaf.ofDisplay display props theme).control? = none := by
  cases display <;> rfl

mutual

/-- **What a pass over a component notes is what it shows,** and a form that is submitted is among
the forms around it or inside it. -/
theorem noted_viewNode (theme : Theme) {forms : List Scope} :
    (node : Node) → (scope : Option Scope) → (path : String) → (desk : Desk) →
      (∀ own, scope = some own → own ∈ forms) →
      (viewNode theme scope path node desk).1.preorder.filterMap View.scope? ⊆ forms →
      Noted forms (viewNode theme scope path node desk).1.preorder desk.bindings
        (viewNode theme scope path node desk).2.bindings
  | ⟨id, kind, props, style, children, field⟩, scope, path, desk, around, shown => by
    cases role : kind.role with
    | region =>
      simp only [viewNode, role, View.preorder] at shown ⊢
      rw [List.filterMap_cons_none rfl] at shown
      exact (noted_viewAll theme children _ scope desk around shown).frame _ _ _ _
    | grid =>
      simp only [viewNode, role, View.preorder] at shown ⊢
      rw [List.filterMap_cons_none rfl] at shown
      exact (noted_viewAll theme children _ scope desk around shown).frame _ _ _ _
    | form =>
      simp only [viewNode, role, View.preorder] at shown ⊢
      rw [View.filterMap_scope?_form id style
        ⟨(desk.arena.openForm path).1, props.string? "onSubmitUrl"⟩] at shown
      obtain ⟨own, inside⟩ := List.cons_subset.1 shown
      refine (noted_viewAll theme children _ _ _ ?_ inside).frame _ _ _ _
      intro form eq
      exact Option.some.inj eq ▸ own
    | display display =>
      simp only [viewNode, role, View.preorder]
      exact .silent (control?_ofDisplay display props theme) id style desk.bindings
    | editor editor =>
      simp only [viewNode, role, View.preorder]
      exact .leaf (control?_ofEditor editor props theme _) (.field _) id style desk.bindings
    | button =>
      have inside : ∀ own, submitScope scope props = some own → own ∈ forms := by
        intro own submits
        simp only [submitScope, Option.filter_eq_some_iff] at submits
        exact around own submits.1
      simp only [viewNode, role, View.preorder]
      exact .leaf rfl (.button inside (clickIntent props)) id style desk.bindings
    | unsupported =>
      simp only [viewNode, role, View.preorder]
      exact .silent rfl id style desk.bindings

theorem noted_viewAll (theme : Theme) {forms : List Scope} :
    (nodes : List Node) → (paths : List String) → (scope : Option Scope) → (desk : Desk) →
      (∀ own, scope = some own → own ∈ forms) →
      (View.preorderAll (viewAll theme scope nodes paths desk).1).filterMap View.scope? ⊆ forms →
      Noted forms (View.preorderAll (viewAll theme scope nodes paths desk).1) desk.bindings
        (viewAll theme scope nodes paths desk).2.bindings
  | node :: nodes, path :: paths, scope, desk, around, shown => by
    simp only [viewAll, View.preorderAll, List.filterMap_append] at shown ⊢
    obtain ⟨first, others⟩ := List.append_subset.1 shown
    have earlier := noted_viewNode theme node scope path desk around first
    exact earlier.append (noted_viewAll theme nodes paths scope _ around others)
  | [], paths, scope, desk, around, shown => by
    simp only [viewAll, View.preorderAll]
    exact .nil desk.bindings
  | _ :: _, [], scope, desk, around, shown => by
    simp only [viewAll, View.preorderAll]
    exact .nil desk.bindings

end

namespace Renderer

/-- **The bindings after a pass are those that its output shows.** -/
theorem noted_renderCard (renderer : Renderer) (card : Card) :
    let output := (renderer.renderCard card).1
    Noted output.scopes (View.preorderAll output.body) .empty
      (renderer.renderCard card).2.bindings := by
  intro output
  have outside : ∀ own, (none : Option Scope) = some own → own ∈ output.scopes := by simp
  exact noted_viewAll _ card.body _ none renderer.desk outside (List.Subset.refl output.scopes)

theorem get?_bindings_of_control?_eq_none {renderer : Renderer} {card : Card} {id : String}
    (h : (renderer.renderCard card).1.control? id = none) :
    (renderer.renderCard card).2.bindings.get? id = none := by
  have noted := renderer.noted_renderCard card id
  rw [show View.lastControl? id _ = none from h] at noted
  exact noted

theorem exists_binding_of_control? {renderer : Renderer} {card : Card} {id : String}
    {control : Control} (h : (renderer.renderCard card).1.control? id = some control) :
    ∃ binding, (renderer.renderCard card).2.bindings.get? id = some binding
      ∧ control.Shows (renderer.renderCard card).1.scopes binding := by
  have noted := renderer.noted_renderCard card id
  rw [show View.lastControl? id _ = some control from h] at noted
  exact noted

/-! ## 3. After further events -/

variable {σ : Type} (sink : Sink σ) (state : σ)

theorem bindings_afterEvents (renderer : Renderer) (card : Card) (events : List Event) :
    (renderer.afterEvents card sink state events).bindings
      = (renderer.renderCard card).2.bindings :=
  bindings_handleAll sink _ state events

/-- **Bindings stay live until the next pass,** whatever events happen. -/
theorem live_afterEvents (renderer : Renderer) (card : Card) (events : List Event) :
    (renderer.afterEvents card sink state events).Live := by
  intro id binding key bound form
  rw [bindings_afterEvents] at bound
  have live := live_renderCard renderer card id binding key bound form
  rw [afterEvents, isSome_get?_handleAll]
  exact live

/-! ## 4. Fields and buttons -/

variable {τ : Type} {renderer : Renderer} {id : String} (later : Sink τ) (kept : τ)

/-- **A field ignores clicks and takes changes** into the field of a form that it is bound to, as
long as bindings are live. -/
theorem handle_of_field (live : renderer.Live) {target : Option FieldRef}
    (bound : renderer.bindings.get? id = some (.field target)) :
    renderer.handle later kept (.click id) = (.ignored, renderer, kept)
    ∧ ∀ value,
      (∀ form field, (renderer.handle later kept (.change id value)).1 = .fieldUpdated form field
        ↔ target = some ⟨form, field⟩)
      ∧ ((renderer.handle later kept (.change id value)).1 = .ignored ↔ target = none)
      ∧ (target = none → (renderer.handle later kept (.change id value)).2 = (renderer, kept))
      ∧ ∀ own, target = some own → ∃ store, renderer.arena.stores.get? own.form = some store
        ∧ (renderer.handle later kept (.change id value)).2
          = (renderer.enter own store value, kept) := by
  refine ⟨handle_click_of_field later kept bound, fun value => ?_⟩
  cases target with
  | none =>
    have handled := handle_change_of_none later kept bound value
    simp [handled]
  | some own =>
    obtain ⟨store, found⟩ := Option.isSome_iff_exists.1 (live id _ own.form bound rfl)
    have handled := handle_change_of_field later kept value bound found
    refine ⟨?_, by simp [handled], by simp, ?_⟩
    · intro form field
      rw [handled, EventResult.fieldUpdated.injEq, Option.some.injEq]
      constructor
      · rintro ⟨rfl, rfl⟩
        rfl
      · rintro rfl
        exact ⟨rfl, rfl⟩
    · rintro own' same
      obtain rfl := Option.some.inj same
      exact ⟨store, found, by rw [handled]⟩

/-- **A button ignores changes;** a click names its intent and submits the values that its form
holds, as far as the button has the one and the other. -/
theorem handle_of_button (live : renderer.Live) {submit : Option Scope} {intent : Option String}
    (bound : renderer.bindings.get? id = some (.button submit intent)) :
    (∀ value, renderer.handle later kept (.change id value) = (.ignored, renderer, kept))
    ∧ ((renderer.handle later kept (.click id)).1 = .ignored ↔ intent = none ∧ submit = none)
    ∧ (submit = none → ∀ name, intent = some name →
      renderer.handle later kept (.click id) = (.clicked (some name) none, renderer, kept))
    ∧ ∀ own, submit = some own → ∃ store, renderer.arena.stores.get? own.key = some store
      ∧ let submission : Submission := ⟨own.destination, store.values⟩
        renderer.handle later kept (.click id)
          = (.clicked intent (some submission.receipt), renderer, (later kept submission).1) := by
  refine ⟨handle_change_of_button later kept bound, ?_⟩
  cases submit with
  | none =>
    have handled := handle_click_of_intent later kept bound
    refine ⟨?_, fun _ name some => ?_, by simp⟩
    · cases intent with
      | none => simp [handled]
      | some name => simp [handled]
    · rw [handled, some]
      rfl
  | some own =>
    have handled : renderer.handle later kept (.click id) = _ := handle_click_of_submit bound
    refine ⟨by simp [handled], by simp, fun own' same => ?_⟩
    obtain rfl := Option.some.inj same
    obtain ⟨store, found⟩ := Option.isSome_iff_exists.1 (live id _ own.key bound rfl)
    refine ⟨store, found, ?_⟩
    rw [handled]
    simp only [submission, found]
    rfl

end Renderer

/-- A form that is shown under a key is the only one. -/
theorem Output.scope_eq_of_key {output : Output} (distinct : (output.scopes.map Scope.key).Nodup)
    {own other : Scope} (mem : own ∈ output.scopes) (mem' : other ∈ output.scopes)
    (key : own.key = other.key) : own = other :=
  List.inj_on_of_nodup_map distinct mem mem' key

/-! ## 5. Main statement -/

/-- **Events do what is shown.**  After a pass over a card and any events, look for the last field
or button with an id in the output of the pass, in the order of the document.  Without one, events
on the id are ignored.  A field ignores clicks; a change is entered exactly if the field is shown
bound, and into the store of the form that it is bound to, which exists.  A button ignores changes;
a click does something exactly if the button shows an intent or a form that it submits, names the
intent, and submits that form, if it shows one: the values of its store, which exists, to the
destination that is shown at the form with that key, of which there is only one. -/
theorem events_do_what_is_shown {σ τ : Type} (renderer : Renderer) (card : Card) (sink : Sink σ)
    (state : σ) (events : List Event) (later : Sink τ) (kept : τ) (id : String) :
    let output := (renderer.renderCard card).1
    let now := renderer.afterEvents card sink state events
    (output.control? id = none →
      ∀ event, event.target = id → now.handle later kept event = (.ignored, now, kept))
    ∧ (∀ target, output.control? id = some (.field target) →
      now.handle later kept (.click id) = (.ignored, now, kept)
      ∧ ∀ value,
        (∀ form field, (now.handle later kept (.change id value)).1 = .fieldUpdated form field
          ↔ target = some ⟨form, field⟩)
        ∧ ((now.handle later kept (.change id value)).1 = .ignored ↔ target = none)
        ∧ (target = none → (now.handle later kept (.change id value)).2 = (now, kept))
        ∧ ∀ own, target = some own → ∃ store, now.arena.stores.get? own.form = some store
          ∧ (now.handle later kept (.change id value)).2 = (now.enter own store value, kept))
    ∧ ∀ submits intent, output.control? id = some (.button submits intent) →
      (∀ value, now.handle later kept (.change id value) = (.ignored, now, kept))
      ∧ ((now.handle later kept (.click id)).1 = .ignored ↔ intent = none ∧ submits = none)
      ∧ (submits = none → ∀ name, intent = some name →
        now.handle later kept (.click id) = (.clicked (some name) none, now, kept))
      ∧ ∀ key, submits = some key → ∃ destination store,
        (∀ other, (⟨key, other⟩ : Scope) ∈ output.scopes ↔ other = destination)
        ∧ now.arena.stores.get? key = some store
        ∧ let submission : Submission := ⟨destination, store.values⟩
          now.handle later kept (.click id)
            = (.clicked intent (some submission.receipt), now, (later kept submission).1) := by
  intro output now
  have bindings : now.bindings = (renderer.renderCard card).2.bindings :=
    renderer.bindings_afterEvents sink state card events
  have live : now.Live := renderer.live_afterEvents sink state card events
  have distinct : (output.scopes.map Scope.key).Nodup := by
    rw [Renderer.keys_renderCard]
    exact card.nodup_formKeys
  refine ⟨?_, ?_, ?_⟩
  · intro shown event target
    apply Renderer.handle_of_unbound
    rw [bindings, target]
    exact Renderer.get?_bindings_of_control?_eq_none shown
  · intro target shown
    obtain ⟨binding, bound, same⟩ := Renderer.exists_binding_of_control? shown
    rw [← bindings] at bound
    cases same with
    | field => exact Renderer.handle_of_field later kept live bound
  · intro submits intent shown
    obtain ⟨binding, bound, same⟩ := Renderer.exists_binding_of_control? shown
    rw [← bindings] at bound
    cases same with
    | @button submit inside intent =>
      obtain ⟨change, ignored, named, submitted⟩ := Renderer.handle_of_button later kept live bound
      refine ⟨change, by rwa [Option.map_eq_none_iff],
        fun none => named (Option.map_eq_none_iff.1 none), ?_⟩
      intro key some
      obtain ⟨own, rfl, rfl⟩ := Option.map_eq_some_iff.1 some
      obtain ⟨store, found, handled⟩ := submitted own rfl
      refine ⟨own.destination, store, fun other => ⟨fun mem => ?_, ?_⟩, found, handled⟩
      · exact congrArg Scope.destination (Output.scope_eq_of_key distinct mem (inside own rfl) rfl)
      · rintro rfl
        exact inside own rfl

/-- Of two inputs with one id the later one takes the changes, in whatever form it is. -/
example :
    let card : Card := .ofBody [.formOf "f" [.inputOf "i" "x"], .formOf "g" [.inputOf "i" "y"]]
    let output := ((Renderer.new "").renderCard card).1
    output.control? "i" = some (.field (some ⟨"g", "y"⟩)) := by decide

end FormCard
