import FormCard.Render.Path
import FormCard.View.Leaf
import FormCard.Form.Arena

/-!
# One pass over a card

This is the interpreter at the heart of the program.  A pass walks through the components of a card
in the order of the document and makes a view of each.  On its way it opens a form for each
component that asks for one, and notes for each interactive component what an event on it does.  A
field or a button belongs to the form around it that is nearest.

`viewNode` and `viewAll` recurse on the components.  What is settled for all components of a pass or
for those below one is handed down, the colors, the form around and the path; what changes from one
component to the next, the stores of forms and the notes taken so far, is carried along in a
`Desk`.  A form shows the state that it has after everything inside it was rendered.

A pass never fails.  A component that cannot be shown becomes a placeholder, and its children are
not looked at.
-/

namespace FormCard

/-! ## 1. Bindings -/

/-- The nearest form around a component. -/
structure Scope where
  key : FormKey
  destination : Option String
  deriving DecidableEq

/-- What an event on an interactive component does. -/
inductive Binding where
  /-- A change goes to the field; without one, nowhere. -/
  | field (target : Option FieldRef)
  /-- A click submits the form and names the intent to the host, as far as they are present. -/
  | button (submit : Option Scope) (intent : Option String)
  deriving DecidableEq

/-- Bindings by the ids of components.  Of several components with one id the last one counts. -/
abbrev Bindings := Dict Binding

/-- What a pass carries: the stores of the forms and the bindings noted so far. -/
structure Desk where
  arena : Arena
  bindings : Bindings

/-- Notes the binding of a component. -/
def Desk.note (desk : Desk) (id : String) (binding : Binding) : Desk :=
  { desk with bindings := desk.bindings.insert id binding }

/-! ## 2. Leaves in their form -/

/-- The field that a component edits: there is one inside a form, for a component that names it. -/
def fieldRef (scope : Option Scope) (field : Option String) : Option FieldRef :=
  match scope, field with
  | some scope, some field => some ⟨scope.key, field⟩
  | _, _ => none

/-- The form that a button submits. -/
def submitScope (scope : Option Scope) (props : Props) : Option Scope :=
  scope.filter fun _ => isSubmit props

def defaultCols : UInt32 := 2

/-- The gap of a grid that names none. -/
def defaultGap : UInt32 := 4

/-- The state of a form that is shown. -/
def Arena.stateOf (arena : Arena) (key : FormKey) : FormState :=
  ((arena.stores.get? key).map Store.state).getD .clean

/-! ## 3. The pass -/

mutual

/-- The view of a component at a path, and the desk afterwards. -/
def viewNode (theme : Theme) (scope : Option Scope) (path : String) : Node → Desk → View × Desk
  | ⟨id, kind, props, style, children, field⟩, desk =>
    let paths := siblingPaths path (children.map Node.id)
    match kind.role with
    | .region =>
      let inner := viewAll theme scope children paths desk
      (.frame id style .region inner.1, inner.2)
    | .grid =>
      let inner := viewAll theme scope children paths desk
      (.frame id style
        (.grid (props.positiveOr "cols" defaultCols) (props.uintOr "gap" defaultGap)) inner.1,
        inner.2)
    | .form =>
      let form := desk.arena.openForm path
      let own : Scope := ⟨form.1, props.string? "onSubmitUrl"⟩
      let inner := viewAll theme (some own) children paths { desk with arena := form.2 }
      (.frame id style (.form own.key own.destination (inner.2.arena.stateOf own.key)) inner.1,
        inner.2)
    | .display display => (.leaf id style (Leaf.ofDisplay display props theme), desk)
    | .editor editor =>
      let binding := fieldRef scope field
      let value := desk.arena.readField (scope.map Scope.key) field
      (.leaf id style (Leaf.ofEditor editor props theme ⟨value, binding⟩),
        desk.note id (.field binding))
    | .button =>
      let submit := submitScope scope props
      (.leaf id style (Leaf.ofButton props theme (submit.map Scope.key)),
        desk.note id (.button submit (clickIntent props)))
    | .unsupported => (.leaf id style (.unsupported kind.name), desk)
termination_by structural node => node

/-- The views of siblings at their paths, and the desk afterwards. -/
def viewAll (theme : Theme) (scope : Option Scope) :
    List Node → List String → Desk → List View × Desk
  | node :: nodes, path :: paths, desk =>
    let first := viewNode theme scope path node desk
    let others := viewAll theme scope nodes paths first.2
    (first.1 :: others.1, others.2)
  | [], _, desk => ([], desk)
  | _ :: _, [], desk => ([], desk)
termination_by structural nodes => nodes

end

/-- The views of the body of a card. -/
def viewBody (theme : Theme) (body : List Node) (desk : Desk) : List View × Desk :=
  viewAll theme none body (siblingPaths "" (body.map Node.id)) desk

end FormCard
