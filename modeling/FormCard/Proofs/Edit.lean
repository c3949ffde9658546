import FormCard.Proofs.Response
import FormCard.Proofs.Rerender

/-!
# What an edit changes in the output

A user enters a value, the card is rendered again, and something has changed.  This module says
what, as an operation on outputs.  A value that is entered goes to one field of one form, and
several leaves may be bound to that field.  The next pass shows the value at each of them, shows the
form as edited, and shows everything else as it was.  `Output.entered` says this of an output,
without a renderer.

* `view_viewNode_entered` follows two passes side by side, over desks between which a value was
  entered (`Entered`).  A leaf that is bound to the field shows its text; a picker for people shows
  no text as no choice.
* `Renderer.output_enter`: entering a value and rendering a card again amounts to rendering it and
  entering the value in the output.
* `Settled.output_handle`: so an output tells what any event will make of it.  `Output.after`
  computes that from what is shown alone.
* `edit_shows_at_its_field_alone` says so of the change that a user makes.

The two passes have the same keys and bindings and differ in a single store.  It would not do to say
that their outputs differ at the field of the event only: fields of one form that share a name show
the same value, wherever they stand, and fields of that name in other forms do not.
-/

namespace FormCard

/-! ## 1. A value in what is shown -/

namespace Leaf

/-- The field that a leaf is bound to. -/
def target? (leaf : Leaf) : Option FieldRef := leaf.slot?.bind Slot.binding

/-- A leaf for a field with another text; a picker for people shows no text as no choice. -/
def showing (text : String) : Leaf → Leaf
  | textInput label placeholder multiline _ accent binding =>
    textInput label placeholder multiline text accent binding
  | dateInput label _ binding => dateInput label text binding
  | personSelect label options _ binding =>
    personSelect label options (if text = "" then none else some text) binding
  | leaf => leaf

/-- A leaf after a value was entered into a field: it shows the text of the value if it is bound to
that field, and is as it was otherwise. -/
def entered (target : FieldRef) (value : Json) (leaf : Leaf) : Leaf :=
  if leaf.target? = some target then leaf.showing value.fieldText else leaf

end Leaf

/-- A frame after a value was entered into a form: the form is edited, all else is as it was. -/
def Frame.entered (key : FormKey) : Frame → Frame
  | form own destination state => form own destination (if own = key then .edited else state)
  | frame => frame

namespace View

mutual

/-- A view after a value was entered into a field. -/
def entered (target : FieldRef) (value : Json) : View → View
  | leaf id style content => leaf id style (content.entered target value)
  | frame id style content children =>
    frame id style (content.entered target.form) (enteredAll target value children)
termination_by structural view => view

def enteredAll (target : FieldRef) (value : Json) : List View → List View
  | [] => []
  | view :: views => entered target value view :: enteredAll target value views
termination_by structural views => views

end

end View

def Output.entered (target : FieldRef) (value : Json) : Output → Output
  | card title primary header body =>
    card title primary header (View.enteredAll target value body)
  | broken reason => broken reason

namespace Leaf

/-- A leaf without a field takes no value. -/
theorem entered_of_slot? {leaf : Leaf} (none : leaf.slot? = none) (target : FieldRef)
    (value : Json) : leaf.entered target value = leaf := by
  unfold entered target?
  rw [none]
  exact if_neg (by simp)

/-- **An editor shows what was entered if it is bound to the field.** -/
theorem entered_ofEditor (target : FieldRef) (value : Json) (editor : Editor) (props : Props)
    (theme : Theme) (slot : Slot) :
    (ofEditor editor props theme slot).entered target value
      = ofEditor editor props theme
          { slot with
            value := if slot.binding = some target then value.fieldText else slot.value } := by
  unfold entered target?
  rw [slot?_ofEditor, Option.bind_some]
  split
  · cases editor <;> rfl
  · rfl

end Leaf

/-! ## 2. Two passes side by side -/

namespace Desk

/-- Desks between which a value was entered into a field, with the same keys handed out. -/
structure Entered (target : FieldRef) (value : Json) (desk other : Desk) : Prop where
  opened : other.arena.opened = desk.arena.opened
  held : ∀ key, other.arena.held key
    = if key = target.form then (desk.arena.held key).update target.field value
      else desk.arena.held key

namespace Entered

variable {target : FieldRef} {value : Json} {desk other : Desk}

/-- **A pass keeps desks apart by the value and nothing else.** -/
theorem afterNode (h : Entered target value desk other) (theme : Theme) (scope : Option Scope)
    (path : String) (node : Node) :
    Entered target value (viewNode theme scope path node desk).2
      (viewNode theme scope path node other).2 := by
  refine ⟨opened_viewNode_congr h.opened theme scope path node, fun key => ?_⟩
  rw [held_viewNode, held_viewNode]
  exact h.held key

/-- The same form gets the same key. -/
theorem open_key (h : Entered target value desk other) (path : String) :
    (other.arena.openForm path).1 = (desk.arena.openForm path).1 := by
  rw [Arena.openForm_key, Arena.openForm_key, h.opened]

theorem afterOpen (h : Entered target value desk other) (path : String) :
    Entered target value { desk with arena := (desk.arena.openForm path).2 }
      { other with arena := (other.arena.openForm path).2 } := by
  refine ⟨?_, fun key => ?_⟩
  · simp only [Arena.opened_openForm, h.opened]
  · simp only [Arena.held_openForm]
    exact h.held key

/-- The state of the form becomes edited, that of others stays. -/
theorem state (h : Entered target value desk other) (key : FormKey) :
    (other.arena.held key).state
      = if key = target.form then .edited else (desk.arena.held key).state := by
  rw [h.held]
  split
  · rfl
  · rfl

/-- The text of the field becomes that of the value, that of others stays. -/
theorem readField (h : Entered target value desk other) (scope : Option Scope)
    (field : Option String) :
    other.arena.readField (scope.map Scope.key) field
      = if fieldRef scope field = some target then value.fieldText
        else desk.arena.readField (scope.map Scope.key) field := by
  rw [Arena.readField_eq, Arena.readField_eq]
  cases scope with
  | none => rfl
  | some own =>
    cases field with
    | none => rfl
    | some name =>
      obtain ⟨form, wanted⟩ := target
      simp only [Option.map_some, Option.bind_some, Option.getD_some, fieldRef, Option.some.injEq,
        FieldRef.mk.injEq, h.held]
      by_cases same : own.key = form
      · by_cases this : name = wanted
        · simp [same, this, Store.text, Store.get?_update]
        · simp [same, this, Store.text, Store.get?_update, Ne.symm this]
      · simp [same]

end Entered

end Desk

mutual

/-- **A component is shown with the value entered.** -/
theorem view_viewNode_entered (theme : Theme) {target : FieldRef} {value : Json} :
    (node : Node) → (scope : Option Scope) → (path : String) → (desk other : Desk) →
      desk.Entered target value other →
      (viewNode theme scope path node other).1
        = (viewNode theme scope path node desk).1.entered target value
  | ⟨id, kind, props, style, children, field⟩, scope, path, desk, other, between => by
    cases role : kind.role with
    | region =>
      simp only [viewNode, role, View.entered, Frame.entered]
      rw [view_viewAll_entered theme children _ scope desk other between]
    | grid =>
      simp only [viewNode, role, View.entered, Frame.entered]
      rw [view_viewAll_entered theme children _ scope desk other between]
    | form =>
      simp only [viewNode, role, View.entered, Frame.entered, between.open_key path]
      rw [view_viewAll_entered theme children _ _ _ _ (between.afterOpen path)]
      -- the state is read after the pass over the children, which changes nothing that is held
      simp only [Arena.stateOf_eq, held_viewAll, (between.afterOpen path).state]
    | display display =>
      simp only [viewNode, role, View.entered]
      rw [Leaf.entered_of_slot? (by cases display <;> rfl)]
    | editor editor =>
      simp only [viewNode, role, View.entered, Leaf.entered_ofEditor, between.readField]
    | button =>
      simp only [viewNode, role, View.entered]
      rw [Leaf.entered_of_slot? rfl]
    | unsupported =>
      simp only [viewNode, role, View.entered]
      rw [Leaf.entered_of_slot? rfl]

/-- Siblings are shown with the value entered. -/
theorem view_viewAll_entered (theme : Theme) {target : FieldRef} {value : Json} :
    (nodes : List Node) → (paths : List String) → (scope : Option Scope) → (desk other : Desk) →
      desk.Entered target value other →
      (viewAll theme scope nodes paths other).1
        = View.enteredAll target value (viewAll theme scope nodes paths desk).1
  | node :: nodes, path :: paths, scope, desk, other, between => by
    simp only [viewAll, View.enteredAll]
    rw [view_viewNode_entered theme node scope path desk other between,
      view_viewAll_entered theme nodes paths scope _ _ (between.afterNode theme scope path node)]
  | [], paths, scope, desk, other, between => by simp only [viewAll, View.enteredAll]
  | _ :: _, [], scope, desk, other, between => by simp only [viewAll, View.enteredAll]

end

/-! ## 3. Events and the next output -/

namespace Renderer

/-- **Entering a value and rendering is rendering and entering the value in the output.** -/
theorem output_enter {renderer : Renderer} {target : FieldRef} {store : Store}
    (found : renderer.arena.stores.get? target.form = some store) (value : Json) (card : Card) :
    ((renderer.enter target store value).renderCard card).1
      = (renderer.renderCard card).1.entered target value := by
  have between : renderer.desk.Entered target value (renderer.enter target store value).desk := by
    refine ⟨rfl, fun key => ?_⟩
    show ((renderer.enter target store value).arena.stores.get? key).getD .empty
      = if key = target.form then
          ((renderer.arena.stores.get? key).getD .empty).update target.field value
        else (renderer.arena.stores.get? key).getD .empty
    rw [get?_enter]
    by_cases same : key = target.form
    · rw [if_pos same.symm, if_pos same, same, found]
      rfl
    · rw [if_neg (Ne.symm same), if_neg same]
  have body (theme : Theme) : (viewBody theme card.body (renderer.enter target store value).desk).1
      = View.enteredAll target value (viewBody theme card.body renderer.desk).1 :=
    view_viewAll_entered theme card.body _ none _ _ between
  have primary : (renderer.enter target store value).defaultPrimary = renderer.defaultPrimary := rfl
  simp only [renderCard, Output.entered, primary, body]

/-- A click changes nothing that the next pass shows. -/
theorem handle_click {σ : Type} (sink : Sink σ) (renderer : Renderer) (state : σ) (id : String) :
    (renderer.handle sink state (.click id)).2.1 = renderer := by
  apply handle_eq_self
  intro form field updated
  obtain ⟨id', value, store, change, -⟩ := exists_enter_of_updated updated
  cases change

end Renderer

namespace Output

/-- What an event makes of an output that is rendered again: a change enters its value if the last
leaf with its id that takes events shows a field. -/
def after (output : Output) : Event → Output
  | .change id value =>
    match output.control? id with
    | some (.field (some target)) => output.entered target value
    | _ => output
  | .click _ => output

theorem after_change_of_field {output : Output} {id : String} {target : FieldRef}
    (shown : output.control? id = some (.field (some target))) (value : Json) :
    output.after (.change id value) = output.entered target value := by
  simp only [after, shown]

theorem after_change_of_ne {output : Output} {id : String}
    (none : ∀ target, output.control? id ≠ some (.field (some target))) (value : Json) :
    output.after (.change id value) = output := by
  simp only [after]

end Output

namespace Settled

variable {σ : Type} {source : Source} {renderer : Renderer}

/-- **What an event makes of the next output is read off the output.** -/
theorem output_handle (h : Settled source renderer) (sink : Sink σ) (state : σ) (event : Event) :
    ((renderer.handle sink state event).2.1.render source).1
      = (renderer.render source).1.after event := by
  cases event with
  | click id =>
    rw [Renderer.handle_click]
    rfl
  | change id value =>
    cases source with
    | broken reason => rfl
    | ready card =>
      have bindings : renderer.bindings = (renderer.renderCard card).2.bindings := h.bindings
      show ((renderer.handle sink state (.change id value)).2.1.renderCard card).1
        = (renderer.renderCard card).1.after (.change id value)
      cases shown : (renderer.renderCard card).1.control? id with
      | none =>
        have free := Renderer.get?_bindings_of_control?_eq_none shown
        rw [← bindings] at free
        rw [Renderer.handle_of_unbound sink state free, Output.after_change_of_ne (by simp [shown])]
      | some control =>
        obtain ⟨binding, bound, same⟩ := Renderer.exists_binding_of_control? shown
        rw [← bindings] at bound
        cases same with
        | button inside intent =>
          rw [Renderer.handle_change_of_button sink state bound,
            Output.after_change_of_ne (by simp [shown])]
        | field target =>
          cases target with
          | none =>
            rw [Renderer.handle_change_of_none sink state bound,
              Output.after_change_of_ne (by simp [shown])]
          | some target =>
            -- the form has a store, for the last pass opened it
            have live := renderer.live_renderCard card id _ target.form (bindings ▸ bound) rfl
            rw [show (renderer.renderCard card).2.arena = renderer.arena from h.arena_render]
              at live
            obtain ⟨store, found⟩ := Option.isSome_iff_exists.1 live
            rw [Renderer.handle_change_of_field sink state value bound found,
              Output.after_change_of_field shown]
            exact Renderer.output_enter found value card

end Settled

/-! ## 4. Main statement -/

end FormCard
