import FormCard.Proofs.Opening
import FormCard.Render.Renderer

/-!
# The form boundaries of a card

Which forms a pass opens, where they are shown and which keys they get: all of this can be read off
the card.  It is the foundation for what is proved about forms later, so this module says it once
and for all, and no other one has to follow the arena through a pass again.

A component stands at a place: its positions among siblings, from the root of the card down.  The
boundaries of a card are the components that open a form when a pass meets them, each with its place
and its path.  A pass meets the components in regions, grids and forms, and nothing below any other
component, whatever children it carries.  The keys that a pass hands out to the boundaries depend on
their paths only (`Card.forms`), and so neither on what was rendered before nor on what forms hold.

* `arena_viewNode`: a pass over a component does to the arena what opening the paths of its
  boundaries does, one after the other.
* `forms_renderCard`: the forms that are shown are the boundaries of the card, in their places and
  with their keys.
* `get?_renderCard`: after a pass there is one store for each of these keys and no other; it is the
  store from before the pass, or an empty one.

The first two are inductions over components and lists of components together, by the recursion of
the pass.
-/

namespace FormCard

/-! ## 1. Places -/

/-- Where a component stands: its positions among siblings, from the root of the card down. -/
abbrev Place := List Nat

/-- Something that stands at a place. -/
structure Placed (α : Type) where
  place : Place
  item : α
  deriving DecidableEq, Repr

namespace Placed

variable {α : Type}

/-- The same as seen from the siblings, of which the component at `position` holds it. -/
def under (position : Nat) (placed : Placed α) : Placed α :=
  { placed with place := position :: placed.place }

@[simp] theorem place_under (position : Nat) (placed : Placed α) :
    (placed.under position).place = position :: placed.place := rfl

@[simp] theorem item_under (position : Nat) (placed : Placed α) :
    (placed.under position).item = placed.item := rfl

@[simp] theorem map_item_under (position : Nat) (all : List (Placed α)) :
    (all.map (under position)).map item = all.map item := by
  simp [Function.comp_def]

theorem ext_map {all more : List (Placed α)} (places : all.map place = more.map place)
    (items : all.map item = more.map item) : all = more := by
  induction all generalizing more with
  | nil => simpa using places.symm
  | cons first others ih =>
    cases more with
    | nil => simp at places
    | cons first' others' =>
      simp only [List.map_cons, List.cons.injEq] at places items
      obtain ⟨place, item⟩ := first
      obtain ⟨place', item'⟩ := first'
      obtain ⟨rfl, places⟩ := places
      obtain ⟨rfl, items⟩ := items
      rw [ih places items]

end Placed

/-! ## 2. Boundaries and the forms that are shown -/

/-- Whether a component is shown as a frame, so that a pass goes on to its children. -/
def Role.isFrame : Role → Bool
  | region | grid | form => true
  | _ => false

namespace Node

mutual

/-- The boundaries at a component with a path and below it, each with its path. -/
def boundaries (path : String) : Node → List (Placed String)
  | ⟨_, kind, _, _, children, _⟩ =>
    let inner := boundariesFrom 0 children (siblingPaths path (children.map Node.id))
    match kind.role with
    | .form => ⟨[], path⟩ :: inner
    | .region | .grid => inner
    | _ => []
termination_by structural node => node

/-- The boundaries in siblings with their paths, of which the first stands at `position`. -/
def boundariesFrom (position : Nat) : List Node → List String → List (Placed String)
  | node :: nodes, path :: paths =>
    (boundaries path node).map (Placed.under position) ++ boundariesFrom (position + 1) nodes paths
  | [], _ => []
  | _ :: _, [] => []
termination_by structural nodes => nodes

end

/-- The boundaries in siblings below a path. -/
def boundariesIn (parent : String) (nodes : List Node) : List (Placed String) :=
  boundariesFrom 0 nodes (siblingPaths parent (nodes.map Node.id))

end Node

namespace View

mutual

def forms : View → List (Placed FormKey)
  | leaf _ _ _ => []
  | frame _ _ content children =>
    match content with
    | .form key _ _ => ⟨[], key⟩ :: formsFrom 0 children
    | .region | .grid _ _ => formsFrom 0 children
termination_by structural view => view

/-- The forms shown in views, of which the first stands at `position`. -/
def formsFrom (position : Nat) : List View → List (Placed FormKey)
  | [] => []
  | view :: views => (forms view).map (Placed.under position) ++ formsFrom (position + 1) views
termination_by structural views => views

end

end View

/-- The forms that are shown, each with its place and its key. -/
def Output.forms (output : Output) : List (Placed FormKey) := View.formsFrom 0 output.body

/-- Keys for boundaries that are opened one after the other. -/
def Arena.allot (opened : List FormKey) : List (Placed String) → List (Placed FormKey)
  | [] => []
  | boundary :: others =>
    ⟨boundary.place, freshKey opened boundary.item⟩
      :: allot (freshKey opened boundary.item :: opened) others

namespace Card

/-- The boundaries of a card in the order of the document, each with its path. -/
def boundaries (card : Card) : List (Placed String) := Node.boundariesIn "" card.body

def forms (card : Card) : List (Placed FormKey) := Arena.allot [] card.boundaries

/-- The keys that a pass over a card opens. -/
def formKeys (card : Card) : List FormKey := card.forms.map Placed.item

end Card

/-- The keys that a pass over a source opens; there are none without a card. -/
def Source.formKeys : Source → List FormKey
  | ready card => card.formKeys
  | broken _ => []

/-! ## 3. Keys that are handed out -/

namespace Arena

@[simp] theorem map_item_allot (opened : List FormKey) (all : List (Placed String)) :
    (allot opened all).map Placed.item = keysFor opened (all.map Placed.item) := by
  induction all generalizing opened with
  | nil => rfl
  | cons boundary others ih => simp [allot, keysFor, ih]

@[simp] theorem map_place_allot (opened : List FormKey) (all : List (Placed String)) :
    (allot opened all).map Placed.place = all.map Placed.place := by
  induction all generalizing opened with
  | nil => rfl
  | cons boundary others ih => simp [allot, ih]

theorem allot_append (opened : List FormKey) (all more : List (Placed String)) :
    allot opened (all ++ more)
      = allot opened all
        ++ allot ((keysFor opened (all.map Placed.item)).reverse ++ opened) more := by
  induction all generalizing opened with
  | nil => rfl
  | cons boundary others ih => simp [allot, keysFor, ih]

theorem allot_map_under (opened : List FormKey) (position : Nat) (all : List (Placed String)) :
    allot opened (all.map (Placed.under position))
      = (allot opened all).map (Placed.under position) := by
  induction all generalizing opened with
  | nil => rfl
  | cons boundary others ih => simp [allot, ih, Placed.under]

/-- **Boundaries keep their paths as keys exactly if the paths are distinct.** -/
theorem allot_nil_eq_self_iff {all : List (Placed String)} :
    allot [] all = all ↔ (all.map Placed.item).Nodup := by
  rw [← keysFor_nil_eq_self_iff, ← map_item_allot]
  constructor
  · exact congrArg (List.map Placed.item)
  · exact Placed.ext_map (map_place_allot [] all)

end Arena

/-! ## 4. What a pass opens -/

mutual

/-- A pass over a component opens its boundaries, and does nothing else to the arena. -/
theorem arena_viewNode (theme : Theme) :
    (node : Node) → (scope : Option Scope) → (path : String) → (desk : Desk) →
      (viewNode theme scope path node desk).2.arena
        = desk.arena.openAll ((node.boundaries path).map Placed.item)
  | ⟨id, kind, props, style, children, field⟩, scope, path, desk => by
    cases role : kind.role with
    | region => simp [viewNode, Node.boundaries, role, arena_viewAll theme children _ _ _ 0]
    | grid => simp [viewNode, Node.boundaries, role, arena_viewAll theme children _ _ _ 0]
    | form => simp [viewNode, Node.boundaries, role, arena_viewAll theme children _ _ _ 0]
    | display display => simp [viewNode, Node.boundaries, role]
    | editor editor => simp [viewNode, Node.boundaries, role, Desk.note]
    | button => simp [viewNode, Node.boundaries, role, Desk.note]
    | unsupported => simp [viewNode, Node.boundaries, role]

theorem arena_viewAll (theme : Theme) :
    (nodes : List Node) → (paths : List String) → (scope : Option Scope) → (desk : Desk) →
      (position : Nat) →
      (viewAll theme scope nodes paths desk).2.arena
        = desk.arena.openAll ((Node.boundariesFrom position nodes paths).map Placed.item)
  | node :: nodes, path :: paths, scope, desk, position => by
    simp only [viewAll, Node.boundariesFrom, List.map_append, Placed.map_item_under,
      Arena.openAll_append]
    rw [arena_viewAll theme nodes paths scope _ (position + 1), arena_viewNode theme node]
  | [], paths, scope, desk, position => by simp [viewAll, Node.boundariesFrom]
  | _ :: _, [], scope, desk, position => by simp [viewAll, Node.boundariesFrom]

end

mutual

/-- **The forms that are shown at a component are its boundaries,** with the keys that are next. -/
theorem forms_viewNode (theme : Theme) :
    (node : Node) → (scope : Option Scope) → (path : String) → (desk : Desk) →
      (viewNode theme scope path node desk).1.forms
        = Arena.allot desk.arena.opened (node.boundaries path)
  | ⟨id, kind, props, style, children, field⟩, scope, path, desk => by
    cases role : kind.role with
    | region =>
      simp [viewNode, Node.boundaries, role, View.forms, forms_viewAll theme children]
    | grid =>
      simp [viewNode, Node.boundaries, role, View.forms, forms_viewAll theme children]
    | form =>
      simp [viewNode, Node.boundaries, role, View.forms, Arena.allot, forms_viewAll theme children]
    | display display => simp [viewNode, Node.boundaries, role, View.forms, Arena.allot]
    | editor editor => simp [viewNode, Node.boundaries, role, View.forms, Arena.allot]
    | button => simp [viewNode, Node.boundaries, role, View.forms, Arena.allot]
    | unsupported => simp [viewNode, Node.boundaries, role, View.forms, Arena.allot]

theorem forms_viewAll (theme : Theme) :
    (nodes : List Node) → (paths : List String) → (scope : Option Scope) → (desk : Desk) →
      (position : Nat) →
      View.formsFrom position (viewAll theme scope nodes paths desk).1
        = Arena.allot desk.arena.opened (Node.boundariesFrom position nodes paths)
  | node :: nodes, path :: paths, scope, desk, position => by
    simp only [viewAll, Node.boundariesFrom, View.formsFrom, Arena.allot_append,
      Arena.allot_map_under, Placed.map_item_under]
    rw [forms_viewNode theme node, forms_viewAll theme nodes, arena_viewNode theme node,
      Arena.opened_openAll]
  | [], paths, scope, desk, position => by
    simp [viewAll, Node.boundariesFrom, View.formsFrom, Arena.allot]
  | _ :: _, [], scope, desk, position => by
    simp [viewAll, Node.boundariesFrom, View.formsFrom, Arena.allot]

end

theorem Card.formKeys_eq (card : Card) :
    card.formKeys = Arena.keysFor [] (card.boundaries.map Placed.item) :=
  Arena.map_item_allot [] card.boundaries

/-- **No two forms of a card share a key.** -/
theorem Card.nodup_formKeys (card : Card) : card.formKeys.Nodup :=
  card.formKeys_eq ▸ Arena.nodup_keysFor [] _

theorem Card.item_mem_formKeys {card : Card} {form : Placed FormKey} (h : form ∈ card.forms) :
    form.item ∈ card.formKeys := List.mem_map_of_mem h

namespace Renderer

/-- The arena at the end of a pass, before the stores of other forms are dropped. -/
theorem arena_viewBody (renderer : Renderer) (theme : Theme) (card : Card) :
    (viewBody theme card.body renderer.desk).2.arena
      = renderer.arena.beginPass.openAll (card.boundaries.map Placed.item) :=
  arena_viewAll theme card.body _ none renderer.desk 0

/-- **The forms that are shown are the forms of the card,** whatever the renderer went through. -/
theorem forms_renderCard (renderer : Renderer) (card : Card) :
    (renderer.renderCard card).1.forms = card.forms :=
  forms_viewAll _ card.body _ none renderer.desk 0

theorem opened_viewBody (renderer : Renderer) (theme : Theme) (card : Card) :
    (viewBody theme card.body renderer.desk).2.arena.opened = card.formKeys.reverse := by
  rw [arena_viewBody, Arena.opened_openAll, Card.formKeys_eq]
  exact List.append_nil _

/-- What a pass opened is known from the card. -/
theorem opened_renderCard (renderer : Renderer) (card : Card) :
    (renderer.renderCard card).2.arena.opened = card.formKeys.reverse :=
  opened_viewBody renderer _ card

/-- **After a pass the stores are those of the forms of the card.**  A store that was there before
is kept, and where there was none it is empty. -/
theorem get?_renderCard (renderer : Renderer) (card : Card) (key : FormKey) :
    (renderer.renderCard card).2.arena.stores.get? key
      = if key ∈ card.formKeys then some ((renderer.arena.stores.get? key).getD .empty)
        else none := by
  show (viewBody _ card.body renderer.desk).2.arena.endPass.stores.get? key = _
  simp only [Arena.get?_endPass, opened_viewBody, List.mem_reverse]
  by_cases mem : key ∈ card.formKeys
  · rw [if_pos mem, if_pos mem, arena_viewBody, Arena.get?_openAll]
    exact if_pos (card.formKeys_eq ▸ mem)
  · rw [if_neg mem, if_neg mem]

theorem opened_render (renderer : Renderer) (source : Source) :
    (renderer.render source).2.arena.opened = source.formKeys.reverse := by
  cases source with
  | ready card => exact opened_renderCard renderer card
  | broken reason => rfl

theorem get?_render (renderer : Renderer) (source : Source) (key : FormKey) :
    (renderer.render source).2.arena.stores.get? key
      = if key ∈ source.formKeys then some ((renderer.arena.stores.get? key).getD .empty)
        else none := by
  cases source with
  | ready card => exact get?_renderCard renderer card key
  | broken reason =>
    show renderer.desk.arena.endPass.stores.get? key = none
    rw [Arena.get?_endPass]
    exact if_neg List.not_mem_nil

end Renderer

end FormCard
