import FormCard.Proofs.Scope

/-!
# A fault stays in its place

A card is rendered while it is being edited, so at most times something in it is wrong: a type is
misspelled, an entry is no component, a component is half written.  The program shows a placeholder
for what it cannot show, and the rest of the card should not suffer.  This module says that it does
not.

Put one component or another at a place of a card, with the same id, and render.  The two passes are
in the same state before they get there.  As long as neither component opens a form, nor anything
that a pass reaches inside it, they are in the same state again behind it, but for the bindings of
the ids that it takes.  So a component that cannot be shown does no harm outside its place.

* `agreeOff_viewNode`: a pass over the same component cannot tell such states apart.
* `FormFree.agreeOff`: behind a component without forms a pass is in such a state.
* `put_viewNode` carries this up along the way to the place: outputs differ by one view that is put
  there.
* `View.map_face_at?_put`: that view is not seen from any other place.  Components around it show
  the same themselves; only what is inside them changes.
* `faults_stay_in_place` is the statement about cards.

Both conditions are needed.  With another id, siblings that share it would get other segments.  And
a component that opens a form could take the key of a form behind it.  What a pass does not reach
may be anything, so children of a component that is no frame do not count.
-/

namespace FormCard

/-! ## 1. Putting something at a place -/

/-- A component with another one put at a place inside it, or instead of it at the empty place. -/
def Node.put : Place → Node → Node → Node
  | [], new, _ => new
  | position :: place, new, node =>
    { node with children := node.children.modify position (put place new) }

/-- A card with a component put at a place. -/
def Card.put (card : Card) : Place → Node → Card
  | [], _ => card
  | position :: place, new =>
    { card with body := card.body.modify position (Node.put place new) }

instance : Inhabited View := ⟨.leaf "" none .rule⟩

/-- A view with another one put at a place inside it, or instead of it at the empty place. -/
def View.put : Place → View → View → View
  | [], new, _ => new
  | _ :: _, _, .leaf id style content => .leaf id style content
  | position :: place, new, .frame id style content children =>
    .frame id style content (children.modify position (put place new))

/-- An output with a view put at a place. -/
def Output.put : Output → Place → View → Output
  | .card title primary header body, position :: place, new =>
    .card title primary header (body.modify position (View.put place new))
  | output, _, _ => output

/-- What a view shows itself, and how many views are inside. -/
structure Face where
  id : String
  style : Option String
  content : Leaf ⊕ Frame
  inside : Nat

/-- What a view shows apart from the views inside. -/
def View.face : View → Face
  | .leaf id style content => ⟨id, style, .inl content, 0⟩
  | .frame id style content children => ⟨id, style, .inr content, children.length⟩

namespace Node

/-- **Putting components with one id gives components with one id.** -/
theorem id_put_congr {new other : Node} (same : new.id = other.id) (place : Place) (node : Node) :
    (put place new node).id = (put place other node).id := by
  cases place with
  | nil => exact same
  | cons position place => rfl

theorem map_id_modify_put {new other : Node} (same : new.id = other.id) (place : Place)
    (nodes : List Node) (position : Nat) :
    (nodes.modify position (put place new)).map Node.id
      = (nodes.modify position (put place other)).map Node.id := by
  apply List.ext_getElem?
  intro i
  rw [List.getElem?_map, List.getElem?_map, List.getElem?_modify, List.getElem?_modify]
  cases nodes[i]? with
  | none => rfl
  | some node =>
    by_cases here : position = i
    · simp [here, id_put_congr same place node]
    · simp [here]

end Node

namespace View

theorem face_put_cons (position : Nat) (place : Place) (new view : View) :
    (put (position :: place) new view).face = view.face := by
  cases view with
  | leaf id style content => rfl
  | frame id style content children => simp [put, face]

theorem children_put_cons (position : Nat) (place : Place) (new view : View) :
    (put (position :: place) new view).children
      = view.children.modify position (put place new) := by
  cases view with
  | leaf id style content => simp [put, children]
  | frame id style content children => rfl

/-- **What is put at a place is seen there alone.** -/
theorem map_face_at?_put (new : View) {views : List View} {position : Nat} {place q : Place}
    (outside : ¬ position :: place <+: q) :
    (Place.at? children (views.modify position (put place new)) q).map face
      = (Place.at? children views q).map face := by
  induction place generalizing views position q with
  | nil =>
    cases q with
    | nil => rfl
    | cons i q =>
      have apart : position ≠ i := by
        rintro rfl
        exact outside (List.cons_prefix_cons.2 ⟨rfl, List.nil_prefix⟩)
      have here : (views.modify position (put [] new))[i]? = views[i]? :=
        List.getElem?_modify_ne _ _ apart
      cases q with
      | nil => simp only [Place.at?, here]
      | cons j q => simp only [Place.at?, here]
  | cons next place ih =>
    cases q with
    | nil => rfl
    | cons i q =>
      by_cases here : position = i
      · subst here
        cases found : views[position]? with
        | none => cases q <;> simp [Place.at?, found]
        | some view =>
          have put_found : (views.modify position (put (next :: place) new))[position]?
              = some (put (next :: place) new view) := by
            rw [List.getElem?_modify_eq, found]
            rfl
          cases q with
          | nil => simp [Place.at?, found, put_found, face_put_cons]
          | cons j q =>
            have below : ¬ next :: place <+: j :: q := by
              intro inside
              exact outside (List.cons_prefix_cons.2 ⟨rfl, inside⟩)
            rw [Place.at?_cons put_found (List.cons_ne_nil _ _),
              Place.at?_cons found (List.cons_ne_nil _ _), children_put_cons]
            exact ih below
      · have same : (views.modify position (put (next :: place) new))[i]? = views[i]? :=
          List.getElem?_modify_ne _ _ here
        cases q with
        | nil => simp only [Place.at?, same]
        | cons j q => simp only [Place.at?, same]

end View

/-! ## 2. What a pass reaches -/

/-- Whether components of a role take events. -/
def Role.isInteractive : Role → Bool
  | editor _ | button => true
  | _ => false

namespace Node

/-- Whether a pass over a component reaches another one, which is the same or inside it. -/
inductive Reaches : Node → Node → Prop
  | self (node : Node) : Reaches node node
  | inside {node child inner : Node} : child ∈ node.shown → Reaches child inner →
    Reaches node inner

/-- Whether a pass over a component opens no form. -/
def FormFree (node : Node) : Prop := ∀ inner, node.Reaches inner → inner.kind.role ≠ .form

/-- Whether a pass over a component binds an id. -/
def Takes (node : Node) (id : String) : Prop :=
  ∃ inner, node.Reaches inner ∧ inner.kind.role.isInteractive = true ∧ inner.id = id

variable {node child : Node}

theorem FormFree.below (free : node.FormFree) (mem : child ∈ node.shown) : child.FormFree :=
  fun inner reached => free inner (.inside mem reached)

theorem Takes.of_child {id : String} (mem : child ∈ node.shown) (takes : child.Takes id) :
    node.Takes id := by
  obtain ⟨inner, reached, interactive, own⟩ := takes
  exact ⟨inner, .inside mem reached, interactive, own⟩

/-- A pass reaches nothing inside a component that is not a frame. -/
theorem reaches_iff_of_not_isFrame (leaf : node.kind.role.isFrame = false) {inner : Node} :
    node.Reaches inner ↔ inner = node := by
  constructor
  · intro reached
    cases reached with
    | self => rfl
    | inside mem _ => simp [shown, leaf] at mem
  · rintro rfl
    exact .self inner

/-- A component that is not a frame opens no form, whatever children it has. -/
theorem formFree_of_not_isFrame (leaf : node.kind.role.isFrame = false) : node.FormFree := by
  intro inner reached form
  rw [reaches_iff_of_not_isFrame leaf] at reached
  rw [reached] at form
  simp [form, Role.isFrame] at leaf

/-- A component that is not a frame takes no id but its own. -/
theorem not_takes_of_not_isFrame (leaf : node.kind.role.isFrame = false) {id : String}
    (ne : node.id ≠ id) : ¬ node.Takes id := by
  rintro ⟨inner, reached, -, own⟩
  rw [reaches_iff_of_not_isFrame leaf] at reached
  rw [reached] at own
  exact ne own

mutual

/-- A component without forms has no boundaries. -/
theorem FormFree.boundaries_eq_nil (path : String) : (node : Node) → node.FormFree →
    node.boundaries path = []
  | ⟨id, kind, props, style, children, field⟩ => by
    intro free
    have inner (frame : kind.role.isFrame = true) : ∀ child ∈ children, child.FormFree := by
      intro child mem
      apply free.below
      simpa [shown, frame] using mem
    cases role : kind.role with
    | region =>
      simp only [boundaries, role]
      exact FormFree.boundariesFrom_eq_nil 0 children _ (inner (by simp [role, Role.isFrame]))
    | grid =>
      simp only [boundaries, role]
      exact FormFree.boundariesFrom_eq_nil 0 children _ (inner (by simp [role, Role.isFrame]))
    | form => exact absurd role (free _ (.self _))
    | display display => simp only [boundaries, role]
    | editor editor => simp only [boundaries, role]
    | button => simp only [boundaries, role]
    | unsupported => simp only [boundaries, role]

theorem FormFree.boundariesFrom_eq_nil (position : Nat) : (nodes : List Node) →
    (paths : List String) → (∀ node ∈ nodes, node.FormFree) →
    boundariesFrom position nodes paths = []
  | node :: nodes, path :: paths => by
    intro free
    obtain ⟨first, others⟩ := List.forall_mem_cons.1 free
    rw [boundariesFrom, FormFree.boundaries_eq_nil path node first,
      FormFree.boundariesFrom_eq_nil (position + 1) nodes paths others]
    rfl
  | [], paths => by
    intro _
    simp only [boundariesFrom]
  | _ :: _, [] => by
    intro _
    simp only [boundariesFrom]

end

end Node

mutual

/-- **A pass over a component leaves ids alone that it does not take.** -/
theorem get?_bindings_viewNode (theme : Theme) {id : String} :
    (node : Node) → (scope : Option Scope) → (path : String) → (desk : Desk) → ¬ node.Takes id →
      (viewNode theme scope path node desk).2.bindings.get? id = desk.bindings.get? id
  | ⟨own, kind, props, style, children, field⟩, scope, path, desk, free => by
    have inner (frame : kind.role.isFrame = true) : ∀ child ∈ children, ¬ child.Takes id := by
      intro child mem takes
      apply free
      apply takes.of_child
      simpa [Node.shown, frame] using mem
    have apart (interactive : kind.role.isInteractive = true) : own ≠ id := by
      intro same
      exact free ⟨_, .self _, interactive, same⟩
    cases role : kind.role with
    | region =>
      simp only [viewNode, role]
      exact get?_bindings_viewAll theme children _ scope desk (inner (by simp [role, Role.isFrame]))
    | grid =>
      simp only [viewNode, role]
      exact get?_bindings_viewAll theme children _ scope desk (inner (by simp [role, Role.isFrame]))
    | form =>
      simp only [viewNode, role]
      exact get?_bindings_viewAll theme children _ _ _ (inner (by simp [role, Role.isFrame]))
    | display display => simp only [viewNode, role]
    | editor editor =>
      simp only [viewNode, role]
      exact Dict.get?_insert_ne _ (apart (by simp [role, Role.isInteractive])) _
    | button =>
      simp only [viewNode, role]
      exact Dict.get?_insert_ne _ (apart (by simp [role, Role.isInteractive])) _
    | unsupported => simp only [viewNode, role]

theorem get?_bindings_viewAll (theme : Theme) {id : String} :
    (nodes : List Node) → (paths : List String) → (scope : Option Scope) → (desk : Desk) →
      (∀ node ∈ nodes, ¬ node.Takes id) →
      (viewAll theme scope nodes paths desk).2.bindings.get? id = desk.bindings.get? id
  | node :: nodes, path :: paths, scope, desk, free => by
    obtain ⟨first, others⟩ := List.forall_mem_cons.1 free
    simp only [viewAll]
    rw [get?_bindings_viewAll theme nodes paths scope _ others,
      get?_bindings_viewNode theme node scope path desk first]
  | [], paths, scope, desk, free => by simp only [viewAll]
  | _ :: _, [], scope, desk, free => by simp only [viewAll]

end

/-! ## 3. Two passes side by side -/

/-- Desks that differ at most in the bindings of some ids. -/
structure Desk.AgreeOff (taken : String → Prop) (desk other : Desk) : Prop where
  arena : desk.arena = other.arena
  bindings : ∀ id, ¬ taken id → desk.bindings.get? id = other.bindings.get? id

namespace Desk.AgreeOff

variable {taken : String → Prop} {desk other : Desk}

theorem note (h : AgreeOff taken desk other) (id : String) (binding : Binding) :
    AgreeOff taken (desk.note id binding) (other.note id binding) := by
  refine ⟨h.arena, fun wanted free => ?_⟩
  simp only [Desk.note, Dict.get?_insert, h.bindings wanted free]

theorem afterOpen (h : AgreeOff taken desk other) (path : String) :
    AgreeOff taken { desk with arena := (desk.arena.openForm path).2 }
      { other with arena := (other.arena.openForm path).2 } :=
  ⟨by rw [h.arena], h.bindings⟩

end Desk.AgreeOff

mutual

/-- **A pass over the same component shows the same and keeps desks in agreement.** -/
theorem agreeOff_viewNode (theme : Theme) {taken : String → Prop} :
    (node : Node) → (scope : Option Scope) → (path : String) → (desk other : Desk) →
      desk.AgreeOff taken other →
      (viewNode theme scope path node desk).1 = (viewNode theme scope path node other).1
      ∧ (viewNode theme scope path node desk).2.AgreeOff taken
          (viewNode theme scope path node other).2
  | ⟨id, kind, props, style, children, field⟩, scope, path, desk, other, agree => by
    cases role : kind.role with
    | region =>
      obtain ⟨views, after⟩ := agreeOff_viewAll theme children
        (siblingPaths path (children.map Node.id)) scope desk other agree
      simp only [viewNode, role, views]
      exact ⟨trivial, after⟩
    | grid =>
      obtain ⟨views, after⟩ := agreeOff_viewAll theme children
        (siblingPaths path (children.map Node.id)) scope desk other agree
      simp only [viewNode, role, views]
      exact ⟨trivial, after⟩
    | form =>
      let own : Scope := ⟨(desk.arena.openForm path).1, props.string? "onSubmitUrl"⟩
      -- the arenas are the same, so both desks give the form the same key
      obtain ⟨views, after⟩ := agreeOff_viewAll theme children
        (siblingPaths path (children.map Node.id)) (some own) _ _ (agree.afterOpen path)
      simp only [viewNode, role, ← agree.arena] at views after ⊢
      exact ⟨by rw [views, after.arena], after⟩
    | display display =>
      simp only [viewNode, role]
      exact ⟨trivial, agree⟩
    | editor editor =>
      simp only [viewNode, role, agree.arena]
      exact ⟨trivial, agree.note id _⟩
    | button =>
      simp only [viewNode, role]
      exact ⟨trivial, agree.note id _⟩
    | unsupported =>
      simp only [viewNode, role]
      exact ⟨trivial, agree⟩

theorem agreeOff_viewAll (theme : Theme) {taken : String → Prop} :
    (nodes : List Node) → (paths : List String) → (scope : Option Scope) → (desk other : Desk) →
      desk.AgreeOff taken other →
      (viewAll theme scope nodes paths desk).1 = (viewAll theme scope nodes paths other).1
      ∧ (viewAll theme scope nodes paths desk).2.AgreeOff taken
          (viewAll theme scope nodes paths other).2
  | node :: nodes, path :: paths, scope, desk, other, agree => by
    obtain ⟨view, between⟩ := agreeOff_viewNode theme node scope path desk other agree
    obtain ⟨views, after⟩ := agreeOff_viewAll theme nodes paths scope _ _ between
    simp only [viewAll, view, views]
    exact ⟨trivial, after⟩
  | [], paths, scope, desk, other, agree => by
    simp only [viewAll]
    exact ⟨trivial, agree⟩
  | _ :: _, [], scope, desk, other, agree => by
    simp only [viewAll]
    exact ⟨trivial, agree⟩

end

/-- **Behind components without forms desks agree,** but for the ids that these take. -/
theorem Node.FormFree.agreeOff {taken : String → Prop} {new other : Node} (free : new.FormFree)
    (free' : other.FormFree) (takes : ∀ id, new.Takes id ∨ other.Takes id → taken id)
    (theme : Theme) (scope : Option Scope) (path : String) {desk desk' : Desk}
    (agree : desk.AgreeOff taken desk') :
    (viewNode theme scope path new desk).2.AgreeOff taken
      (viewNode theme scope path other desk').2 := by
  refine ⟨?_, fun id spared => ?_⟩
  · rw [arena_viewNode, arena_viewNode, free.boundaries_eq_nil, free'.boundaries_eq_nil]
    exact agree.arena
  · have spares : ¬ new.Takes id := fun own => spared (takes id (.inl own))
    have spares' : ¬ other.Takes id := fun own => spared (takes id (.inr own))
    rw [get?_bindings_viewNode theme new scope path desk spares,
      get?_bindings_viewNode theme other scope path desk' spares', agree.bindings id spared]

/-- **Where one of several siblings differs, one of the views does,** if a pass over the two gives
such views and keeps desks in agreement. -/
theorem put_viewAll {taken : String → Prop} (theme : Theme) (scope : Option Scope) (place : Place)
    (f g : Node → Node)
    (differ : ∀ (node : Node) (path : String) (desk other : Desk), desk.AgreeOff taken other →
      (∃ view, (viewNode theme scope path (g node) other).1
          = View.put place view (viewNode theme scope path (f node) desk).1)
      ∧ (viewNode theme scope path (f node) desk).2.AgreeOff taken
          (viewNode theme scope path (g node) other).2)
    (nodes : List Node) (position : Nat) (paths : List String) (desk other : Desk)
    (agree : desk.AgreeOff taken other) :
    (∃ view, (viewAll theme scope (nodes.modify position g) paths other).1
        = (viewAll theme scope (nodes.modify position f) paths desk).1.modify position
            (View.put place view))
    ∧ (viewAll theme scope (nodes.modify position f) paths desk).2.AgreeOff taken
        (viewAll theme scope (nodes.modify position g) paths other).2 := by
  have stop (nodes : List Node) (desk : Desk) : viewAll theme scope nodes [] desk = ([], desk) := by
    cases nodes <;> simp only [viewAll]
  induction nodes generalizing position paths desk other with
  | nil =>
    simp only [List.modify_nil, viewAll]
    exact ⟨⟨default, trivial⟩, agree⟩
  | cons node nodes ih =>
    cases paths with
    | nil =>
      simp only [stop, List.modify_nil]
      exact ⟨⟨default, trivial⟩, agree⟩
    | cons path paths =>
      cases position with
      | zero =>
        -- the desks agree behind the sibling that differs, and the others are the same
        obtain ⟨⟨view, first⟩, between⟩ := differ node path desk other agree
        obtain ⟨others, after⟩ := agreeOff_viewAll theme nodes paths scope _ _ between
        simp only [List.modify_zero_cons, viewAll, first, ← others]
        exact ⟨⟨view, rfl⟩, after⟩
      | succ position =>
        obtain ⟨first, between⟩ := agreeOff_viewNode theme node scope path desk other agree
        obtain ⟨⟨view, others⟩, after⟩ := ih position paths _ _ between
        simp only [List.modify_succ_cons, viewAll, ← first, others]
        exact ⟨⟨view, rfl⟩, after⟩

/-- **Putting another component at a place puts another view there,** and nothing else changes but
the bindings of the ids that the two components take. -/
theorem put_viewNode {taken : String → Prop} {new other : Node} (same : new.id = other.id)
    (free : new.FormFree) (free' : other.FormFree)
    (takes : ∀ id, new.Takes id ∨ other.Takes id → taken id) (theme : Theme) (place : Place)
    (scope : Option Scope) (node : Node) (path : String) (desk desk' : Desk)
    (agree : desk.AgreeOff taken desk') :
    (∃ view, (viewNode theme scope path (Node.put place other node) desk').1
        = View.put place view (viewNode theme scope path (Node.put place new node) desk).1)
    ∧ (viewNode theme scope path (Node.put place new node) desk).2.AgreeOff taken
        (viewNode theme scope path (Node.put place other node) desk').2 := by
  induction place generalizing scope node path desk desk' with
  | nil => exact ⟨⟨_, rfl⟩, free.agreeOff free' takes theme scope path agree⟩
  | cons position place ih =>
    obtain ⟨id, kind, props, style, children, field⟩ := node
    -- the paths of the children depend on their ids alone, and these are the same
    have ids : (children.modify position (Node.put place other)).map Node.id
        = (children.modify position (Node.put place new)).map Node.id :=
      Node.map_id_modify_put same.symm place children position
    have inner (scope : Option Scope) (desk desk' : Desk) (agree : desk.AgreeOff taken desk') :=
      put_viewAll theme scope place (Node.put place new) (Node.put place other)
        (fun node path desk desk' agree => ih scope node path desk desk' agree) children position
        (siblingPaths path ((children.modify position (Node.put place new)).map Node.id)) desk desk'
        agree
    simp only [Node.put]
    cases role : kind.role with
    | region =>
      obtain ⟨⟨view, views⟩, after⟩ := inner scope desk desk' agree
      simp only [viewNode, role, ids, views]
      exact ⟨⟨view, rfl⟩, after⟩
    | grid =>
      obtain ⟨⟨view, views⟩, after⟩ := inner scope desk desk' agree
      simp only [viewNode, role, ids, views]
      exact ⟨⟨view, rfl⟩, after⟩
    | form =>
      let own : Scope := ⟨(desk.arena.openForm path).1, props.string? "onSubmitUrl"⟩
      obtain ⟨⟨view, views⟩, after⟩ := inner (some own) _ _ (agree.afterOpen path)
      simp only [viewNode, role, ids, ← agree.arena] at views after ⊢
      exact ⟨⟨view, by rw [views, ← after.arena]; rfl⟩, after⟩
    | display display =>
      simp only [viewNode, role]
      exact ⟨⟨default, rfl⟩, agree⟩
    | editor editor =>
      simp only [viewNode, role, agree.arena]
      exact ⟨⟨default, rfl⟩, agree.note id _⟩
    | button =>
      simp only [viewNode, role]
      exact ⟨⟨default, rfl⟩, agree.note id _⟩
    | unsupported =>
      simp only [viewNode, role]
      exact ⟨⟨default, rfl⟩, agree⟩

/-- **Putting another component at a place of a card puts another view there,** leaves the stores
the same, and the bindings too but for the ids that the two components take. -/
theorem Renderer.put_renderCard {new other : Node} (same : new.id = other.id) (free : new.FormFree)
    (free' : other.FormFree) (renderer : Renderer) (card : Card) (place : Place) :
    let first := renderer.renderCard (card.put place new)
    let second := renderer.renderCard (card.put place other)
    (∃ view, second.1 = first.1.put place view)
    ∧ first.2.arena = second.2.arena
    ∧ ∀ id, ¬ (new.Takes id ∨ other.Takes id) →
      first.2.bindings.get? id = second.2.bindings.get? id := by
  intro first second
  cases place with
  | nil => exact ⟨⟨default, rfl⟩, rfl, fun _ _ => rfl⟩
  | cons position place =>
    let taken (id : String) : Prop := new.Takes id ∨ other.Takes id
    let theme := Theme.resolve card.palette renderer.defaultPrimary
    have start : renderer.desk.AgreeOff taken renderer.desk := ⟨rfl, fun _ _ => rfl⟩
    have ids : (card.body.modify position (Node.put place other)).map Node.id
        = (card.body.modify position (Node.put place new)).map Node.id :=
      Node.map_id_modify_put same.symm place card.body position
    obtain ⟨⟨view, views⟩, after⟩ := put_viewAll theme none place (Node.put place new)
      (Node.put place other)
      (put_viewNode same free free' (fun _ takes => takes) theme place none) card.body position
      (siblingPaths "" ((card.body.modify position (Node.put place new)).map Node.id))
      renderer.desk renderer.desk start
    refine ⟨⟨view, ?_⟩, ?_, ?_⟩
    · simp only [first, second, renderCard, Card.put, viewBody, ids, Output.put]
      rw [views]
    · simp only [first, second, renderCard, Card.put, viewBody, ids, afterPass]
      rw [after.arena]
    · simp only [first, second, renderCard, Card.put, viewBody, ids, afterPass]
      exact after.bindings

/-- An output with something put at a place is seen as before from everywhere else. -/
theorem Output.map_face_at?_put (output : Output) {place q : Place} (new : View)
    (outside : ¬ place <+: q) :
    ((output.put place new).at? q).map View.face = (output.at? q).map View.face := by
  cases place with
  | nil => exact absurd List.nil_prefix outside
  | cons position place =>
    cases output with
    | card title primary header body => exact View.map_face_at?_put new outside
    | broken reason => rfl

/-! ## 4. Main statement -/

/-- **A fault stays in its place.**  Put one or another component at a place of a card, with the
same id, neither of which opens a form, itself or by anything that a pass reaches inside it; one of them
may be unknown and have any children.  The outputs are the same but for the view at that place.  At
every other place there is a view in both of them or in neither, and both show the same there: id,
style, content with keys, bindings, values and states, and the number of views inside.  The stores
are the same afterwards, and so are the bindings of the ids that neither component takes. -/
theorem faults_stay_in_place (renderer : Renderer) (card : Card) (place : Place)
    (new other : Node) (same : new.id = other.id) (free : new.FormFree) (free' : other.FormFree) :
    let first := renderer.renderCard (card.put place new)
    let second := renderer.renderCard (card.put place other)
    (∃ view, second.1 = first.1.put place view)
    ∧ (∀ q, ¬ place <+: q → (second.1.at? q).map View.face = (first.1.at? q).map View.face)
    ∧ second.2.arena.stores = first.2.arena.stores
    ∧ ∀ id, ¬ new.Takes id → ¬ other.Takes id →
      second.2.bindings.get? id = first.2.bindings.get? id := by
  intro first second
  obtain ⟨⟨view, output⟩, arena, bindings⟩ := renderer.put_renderCard same free free' card place
  refine ⟨⟨view, output⟩, fun q outside => ?_, congrArg Arena.stores arena.symm, ?_⟩
  · simp only [first, second, output]
    exact Output.map_face_at?_put _ view outside
  · intro id spared spared'
    have neither : ¬ (new.Takes id ∨ other.Takes id) := by
      rintro (takes | takes)
      · exact spared takes
      · exact spared' takes
    exact (bindings id neither).symm

/-- An input in a region of a form can be replaced by a component of an unknown kind, with a form
among its children: the other input is bound as before, and no key is given to what is not shown. -/
theorem unknown_component_stays_in_place :
    let card : Card := .ofBody [.formOf "f" [.regionOf "r" [.inputOf "a" "x", .inputOf "b" "y"]]]
    let new : Node := .inputOf "a" "x"
    let other : Node := { Node.plain "a" (.unknown "gauge") with children := [.formOf "g" []] }
    let first := (Renderer.new "").renderCard (card.put [0, 0, 0] new)
    let second := (Renderer.new "").renderCard (card.put [0, 0, 0] other)
    new.id = other.id ∧ new.FormFree ∧ other.FormFree ∧ ¬ new.Takes "b" ∧ ¬ other.Takes "b"
    ∧ first.1.forms = [⟨[0], "f"⟩] ∧ second.1.forms = [⟨[0], "f"⟩]
    ∧ first.2.bindings.keys = ["a", "b"] ∧ second.2.bindings.keys = ["b"]
    ∧ (∃ view, second.1 = first.1.put [0, 0, 0] view)
    ∧ (second.1.at? [0, 0, 1]).map View.face = (first.1.at? [0, 0, 1]).map View.face
    ∧ second.2.arena.stores = first.2.arena.stores
    ∧ second.2.bindings.get? "b" = first.2.bindings.get? "b" := by
  intro card new other first second
  have free : new.FormFree := Node.formFree_of_not_isFrame rfl
  have free' : other.FormFree := Node.formFree_of_not_isFrame rfl
  have spared : ¬ new.Takes "b" := Node.not_takes_of_not_isFrame rfl (by decide)
  have spared' : ¬ other.Takes "b" := Node.not_takes_of_not_isFrame rfl (by decide)
  obtain ⟨output, faces, stores, bindings⟩ :=
    faults_stay_in_place (.new "") card [0, 0, 0] new other rfl free free'
  exact ⟨rfl, free, free', spared, spared', by decide, by decide, by decide, by decide, output,
    faces [0, 0, 1] (by decide), stores, bindings "b" spared spared'⟩

end FormCard
