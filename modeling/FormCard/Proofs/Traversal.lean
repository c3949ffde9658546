import FormCard.Proofs.Document
import FormCard.Proofs.Tour

/-!
# The same order in cards and in outputs

Two walks look an id up.  An editor that knows a card and wants the component of an id uses the one
through the card, and a host that has an output uses the other one.  The first keeps a stack and
goes through all components; the second is a recursion over views.  With ids that are shared or
empty it matters which component comes first, and the two should agree.

They do not go through the same trees.  A pass shows the children of frames only, so what the second
one meets are the components that are left when all other children are taken off (`Card.pruned`),
which is no matter to the pass.

* `Renderer.renderCard_pruned`: a pass shows the same of a card and of what is left of it.
* `Renderer.at?_renderCard_pruned`: the view at a place is the view of the component that is left
  there.
* `Renderer.exists_find?_renderCard`: the first component with an id is shown by the first view with
  it.
* `lookups_agree`: so both walks are tours through the same places, and the view that is found under
  an id shows the component that is found under it.

Nothing is proved about the stack here.  Both walks list the items in the order of the document, and
`FormCard.Proofs.Tour` compares what is found in two such lists.
-/

namespace FormCard

/-! ## 1. What a pass reaches -/

namespace Node

mutual

/-- A component with only those components below it that a pass reaches. -/
def pruned : Node → Node
  | ⟨id, kind, props, style, children, field⟩ =>
    ⟨id, kind, props, style, if kind.role.isFrame then prunedAll children else [], field⟩
termination_by structural node => node

def prunedAll : List Node → List Node
  | [] => []
  | node :: nodes => pruned node :: prunedAll nodes
termination_by structural nodes => nodes

end

theorem prunedAll_eq_map (nodes : List Node) : prunedAll nodes = nodes.map pruned := by
  induction nodes with
  | nil => rfl
  | cons node nodes ih => rw [prunedAll, ih, List.map_cons]

@[simp] theorem id_pruned (node : Node) : node.pruned.id = node.id := by cases node; rfl

@[simp] theorem map_id_prunedAll (nodes : List Node) :
    (prunedAll nodes).map id = nodes.map id := by
  rw [prunedAll_eq_map, List.map_map]
  exact List.map_congr_left fun node _ => id_pruned node

/-- **All children that are left are reached.** -/
theorem children_pruned (node : Node) : node.pruned.children = node.shown.map pruned := by
  obtain ⟨id, kind, props, style, children, field⟩ := node
  change (if kind.role.isFrame then prunedAll children else [])
    = (if kind.role.isFrame then children else []).map pruned
  split
  · exact prunedAll_eq_map children
  · rfl

end Node

/-- A card with only those components that a pass reaches. -/
def Card.pruned (card : Card) : Card := { card with body := Node.prunedAll card.body }

/-- The components that are left stand where a pass reaches them. -/
theorem Card.at?_pruned (card : Card) (place : Place) :
    Place.at? Node.children card.pruned.body place = (card.at? place).map Node.pruned := by
  rw [Card.pruned, Node.prunedAll_eq_map]
  exact Place.at?_map Node.children_pruned card.body place

mutual

/-- A pass does not miss what it does not reach. -/
theorem viewNode_pruned (theme : Theme) (scope : Option Scope) (path : String) : (node : Node) →
    (desk : Desk) → viewNode theme scope path node.pruned desk = viewNode theme scope path node desk
  | ⟨id, kind, props, style, children, field⟩, desk => by
    have below (scope : Option Scope) (paths : List String) (desk : Desk) :=
      viewAll_pruned theme scope children paths desk
    cases role : kind.role <;> simp [Node.pruned, viewNode, role, Role.isFrame, below]

theorem viewAll_pruned (theme : Theme) (scope : Option Scope) : (nodes : List Node) →
    (paths : List String) → (desk : Desk) →
      viewAll theme scope (Node.prunedAll nodes) paths desk = viewAll theme scope nodes paths desk
  | [], paths, desk => rfl
  | node :: nodes, [], desk => rfl
  | node :: nodes, path :: paths, desk => by
    simp only [Node.prunedAll, viewAll, viewNode_pruned theme scope path node,
      viewAll_pruned theme scope nodes paths]

end

/-- **A pass shows the same of a card and of what is left of it,** and leaves the same renderer. -/
theorem Renderer.renderCard_pruned (renderer : Renderer) (card : Card) :
    renderer.renderCard card.pruned = renderer.renderCard card := by
  simp only [Renderer.renderCard, Card.pruned, viewBody, Node.map_id_prunedAll, viewAll_pruned]

/-- The view at a place is the view of the component that is left at that place. -/
theorem Renderer.at?_renderCard_pruned (renderer : Renderer) (card : Card) (place : Place) :
    let output := (renderer.renderCard card).1
    let theme := Theme.resolve card.palette renderer.defaultPrimary
    ∃ (path : String) (desk : Desk), (∀ key, desk.arena.held key = renderer.arena.held key) ∧
      output.at? place = (Place.at? Node.children card.pruned.body place).map fun node =>
        (viewNode theme (output.formAround? place) path node desk).1 := by
  intro output theme
  obtain ⟨path, desk, held, shown⟩ := at?_viewAll theme none card.body
    (siblingPaths "" (card.body.map Node.id)) (by simp) renderer.desk place
  simp only [Option.or_none] at shown
  refine ⟨path, desk, held, shown.trans ?_⟩
  rw [card.at?_pruned, Option.map_map]
  exact congrArg (Option.map · (card.at? place))
    (funext fun node => congrArg Prod.fst (viewNode_pruned theme _ path node desk).symm)

/-- A view has the id of the component that stands at its place. -/
theorem Renderer.map_id_at?_renderCard (renderer : Renderer) (card : Card) (place : Place) :
    ((renderer.renderCard card).1.at? place).map View.id
      = (Place.at? Node.children card.pruned.body place).map Node.id := by
  obtain ⟨path, desk, -, stands⟩ := renderer.at?_renderCard_pruned card place
  rw [stands, Option.map_map]
  exact congrArg (Option.map · _) (funext fun node => (face_viewNode _ _ path node desk).1)

/-! ## 2. Looking an id up -/

/-- The first component with an id in what is left of a card is shown by the first view with it. -/
theorem Renderer.exists_find?_renderCard (renderer : Renderer) {card : Card} {id : String}
    {node : Node} (found : card.pruned.find? id = some node) :
    ∃ place view, Place.at? Node.children card.pruned.body place = some node ∧ node.id = id
      ∧ (∀ other, other < place → ∀ earlier,
        Place.at? Node.children card.pruned.body other = some earlier → earlier.id ≠ id)
      ∧ (renderer.renderCard card).1.at? place = some view
      ∧ (renderer.renderCard card).1.find? id = some view := by
  obtain ⟨components, tour, items⟩ := Node.exists_tour card.pruned.body
  obtain ⟨views, walk, items'⟩ := View.exists_tour (renderer.renderCard card).1.body
  have same (place : Place) :
      ((renderer.renderCard card).1.at? place).map (fun view => decide (view.id = id))
        = (Place.at? Node.children card.pruned.body place).map (fun node => node.id == id) := by
    have ids := congrArg (Option.map (· == id)) (renderer.map_id_at?_renderCard card place)
    rw [Option.map_map, Option.map_map] at ids
    exact ids
  rw [Card.find?, Card.walk_eq_preorder, ← items] at found
  obtain ⟨place, view, stands, own, first, shown, met⟩ := tour.exists_find? walk same found
  refine ⟨place, view, stands, by simpa using own, ?_, shown, ?_⟩
  · intro other less earlier stands
    simpa using first other less earlier stands
  · rw [Output.find?, View.findIn?_eq, ← items']
    exact met

/-- **Components and views are looked up alike.**  Take off a card all components that are below one
that is not shown as a frame; a pass shows the same of what is left.  The walk with a stack through
what is left and the recursion through the output go through the same places, each once and in the
order of the document, and the view at a place is the view of the component there.  So they list the
same ids.  An id is found in both or in neither, whether it is empty or repeated: in the output that
is the view at the first place where a component with the id stands, and that component is found in
the card. -/
theorem lookups_agree (renderer : Renderer) (card : Card) :
    let left := card.pruned
    let output := (renderer.renderCard card).1
    let theme := Theme.resolve card.palette renderer.defaultPrimary
    renderer.renderCard left = renderer.renderCard card
    ∧ (∃ (components : List (Placed Node)) (views : List (Placed View)),
        Place.IsTour Node.children left.body components
        ∧ Place.IsTour View.children output.body views
        ∧ components.map Placed.item = left.walk
        ∧ views.map Placed.item = View.preorderAll output.body
        ∧ views.map Placed.place = components.map Placed.place)
    ∧ (∀ place, ∃ (path : String) (desk : Desk),
        (∀ key, desk.arena.held key = renderer.arena.held key) ∧
        output.at? place = (Place.at? Node.children left.body place).map fun node =>
          (viewNode theme (output.formAround? place) path node desk).1)
    ∧ (View.preorderAll output.body).map View.id = left.walk.map Node.id
    ∧ ∀ id, (output.find? id = none ↔ left.find? id = none)
      ∧ ∀ node, left.find? id = some node → ∃ place view,
        Place.at? Node.children left.body place = some node ∧ node.id = id
        ∧ (∀ other, other < place → ∀ earlier,
          Place.at? Node.children left.body other = some earlier → earlier.id ≠ id)
        ∧ output.at? place = some view ∧ output.find? id = some view := by
  intro left output theme
  obtain ⟨components, tour, items⟩ := Node.exists_tour left.body
  obtain ⟨views, walk, items'⟩ := View.exists_tour output.body
  rw [← left.walk_eq_preorder] at items
  have ids := renderer.map_id_at?_renderCard card
  have listed : (View.preorderAll output.body).map View.id = left.walk.map Node.id := by
    rw [← items, ← items']
    exact tour.map_item_eq walk ids
  refine ⟨renderer.renderCard_pruned card,
    ⟨components, views, tour, walk, items, items', tour.map_place_eq walk ids⟩,
    renderer.at?_renderCard_pruned card, listed, fun id => ⟨?_, fun node found => ?_⟩⟩
  · have absent : output.find? id = none ↔ id ∉ (View.preorderAll output.body).map View.id := by
      simp [Output.find?, View.findIn?_eq]
    have missing : left.find? id = none ↔ id ∉ left.walk.map Node.id := by
      simp [Card.find?]
    rw [absent, missing, listed]
  · exact renderer.exists_find?_renderCard found

/-- A component below a field is not shown, and does not hide one of its id that is. -/
example :
    let field : Node := { Node.inputOf "a" "x" with children := [.inputOf "b" "y"] }
    let card : Card := .ofBody [field, .regionOf "b" []]
    let output := ((Renderer.new "").renderCard card).1
    (Node.preorderAll card.body).map Node.id = ["a", "b", "b"]
    ∧ (Node.preorderAll card.pruned.body).map Node.id = ["a", "b"]
    ∧ (output.find? "b").map View.name = some "region" := by decide

end FormCard
