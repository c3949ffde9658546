import FormCard.Proofs.Boundary
import Mathlib.Data.List.Nodup

/-!
# Boundaries by their places

The boundaries of a card are listed in the order of the document, as a pass meets them.  For most
questions the order is of no use.  What is asked is whether there is a boundary at some place, and
which path it has.  This module answers both without the list.

A pass meets a boundary at a place if the component there opens a form and all components around it
are shown as frames (`Node.HoldsForm`).  The path of the boundary joins the segments on the way to
its place (`Node.pathBelow`).  Ids on the way and segments on the way are two instances of one
function, `Node.labels`, which labels each component on the way by its siblings, its position and
its id; so what is proved about labels holds of both.

Main statements: a boundary is listed exactly if it stands at such a place and has the path of the
place (`Card.mem_boundaries_iff`), no place occurs twice (`Card.nodup_places`), and the keys of a
card are the paths exactly if different places have different paths
(`Card.forms_eq_boundaries_iff`).

The last section has builders for small cards, which examples and witnesses are made of.
-/

namespace FormCard

namespace Node

/-! ## 1. On the way to a place -/

def HoldsForm : List Node → Place → Prop
  | _, [] => False
  | nodes, position :: place => ∃ node, nodes[position]? = some node ∧
      (place = [] ∧ node.kind.role = .form
        ∨ node.kind.role.isFrame = true ∧ HoldsForm node.children place)

/-- A label for each component on the way to a place, made from the ids of its siblings, its
position among them and its id. -/
def labels (label : List String → Nat → String → String) : List Node → Place → List String
  | _, [] => []
  | nodes, position :: place =>
    match nodes[position]? with
    | some node => label (nodes.map Node.id) position node.id :: labels label node.children place
    | none => []

def idsTo (nodes : List Node) (place : Place) : List String := labels (fun _ _ id => id) nodes place

/-- The segments on the way to a place. -/
def segmentsTo (nodes : List Node) (place : Place) : List String := labels segment nodes place

/-- The path of the component at a place, below a parent. -/
def pathBelow (parent : String) (nodes : List Node) (place : Place) : String :=
  (segmentsTo nodes place).foldl childPath parent

theorem labels_cons {label : List String → Nat → String → String} {nodes : List Node}
    {position : Nat} {node : Node} (h : nodes[position]? = some node) (place : Place) :
    labels label nodes (position :: place)
      = label (nodes.map Node.id) position node.id :: labels label node.children place := by
  simp [labels, h]

theorem segmentsTo_cons {nodes : List Node} {position : Nat} {node : Node}
    (h : nodes[position]? = some node) (place : Place) :
    segmentsTo nodes (position :: place)
      = segment (nodes.map Node.id) position node.id :: segmentsTo node.children place :=
  labels_cons h place

theorem holdsForm_cons_iff {nodes : List Node} {position : Nat} {node : Node}
    (h : nodes[position]? = some node) {place : Place} :
    HoldsForm nodes (position :: place)
      ↔ place = [] ∧ node.kind.role = .form
        ∨ node.kind.role.isFrame = true ∧ HoldsForm node.children place := by
  simp [HoldsForm, h]

/-- There is a component wherever the way to a boundary starts. -/
theorem exists_of_holdsForm {nodes : List Node} {position : Nat} {place : Place}
    (h : HoldsForm nodes (position :: place)) : ∃ node, nodes[position]? = some node := by
  obtain ⟨node, found, -⟩ := h
  exact ⟨node, found⟩

/-- There is one label for each component on the way. -/
theorem length_labels {label : List String → Nat → String → String} {nodes : List Node}
    {place : Place} (h : HoldsForm nodes place) :
    (labels label nodes place).length = place.length := by
  induction place generalizing nodes with
  | nil => exact h.elim
  | cons position place ih =>
    obtain ⟨node, found, ⟨rfl, -⟩ | ⟨-, inner⟩⟩ := h
    · rw [labels_cons found]
      rfl
    · rw [labels_cons found, List.length_cons, List.length_cons, ih inner]

/-! ## 2. Which boundaries there are -/

theorem mem_boundaries_iff {path : String} {node : Node} {boundary : Placed String} :
    boundary ∈ node.boundaries path
      ↔ boundary = ⟨[], path⟩ ∧ node.kind.role = .form
        ∨ node.kind.role.isFrame = true ∧ boundary ∈ boundariesIn path node.children := by
  obtain ⟨id, kind, props, style, children, field⟩ := node
  cases role : kind.role <;> simp [boundaries, boundariesIn, role, Role.isFrame]

theorem mem_boundariesFrom_iff {position : Nat} {nodes : List Node} {paths : List String}
    {boundary : Placed String} :
    boundary ∈ boundariesFrom position nodes paths
      ↔ ∃ (i : Nat) (node : Node) (path : String) (inner : Placed String),
        nodes[i]? = some node ∧ paths[i]? = some path ∧ inner ∈ node.boundaries path
          ∧ boundary = inner.under (position + i) := by
  induction nodes generalizing position paths with
  | nil => simp [boundariesFrom]
  | cons node nodes ih =>
    cases paths with
    | nil => simp [boundariesFrom]
    | cons path paths =>
      simp only [boundariesFrom, List.mem_append, List.mem_map, ih]
      constructor
      · rintro (⟨inner, mem, rfl⟩ | ⟨i, other, path', inner, found, foundPath, mem, rfl⟩)
        · exact ⟨0, node, path, inner, rfl, rfl, mem, rfl⟩
        · refine ⟨i + 1, other, path', inner, found, foundPath, mem, ?_⟩
          rw [Nat.add_right_comm, Nat.add_assoc]
      · rintro ⟨i, other, path', inner, found, foundPath, mem, rfl⟩
        cases i with
        | zero =>
          obtain rfl : node = other := Option.some.inj found
          obtain rfl : path = path' := Option.some.inj foundPath
          exact .inl ⟨inner, mem, rfl⟩
        | succ i =>
          refine .inr ⟨i, other, path', inner, found, foundPath, mem, ?_⟩
          rw [Nat.add_right_comm, Nat.add_assoc]

/-- The path of a sibling by its position. -/
theorem getElem?_siblingPaths {parent : String} {nodes : List Node} {i : Nat} {node : Node}
    (h : nodes[i]? = some node) :
    (siblingPaths parent (nodes.map Node.id))[i]?
      = some (childPath parent (segment (nodes.map Node.id) i node.id)) := by
  simp [siblingPaths, h]

theorem mem_boundariesIn_cons_iff {parent : String} {nodes : List Node} {position : Nat}
    {place : Place} {path : String} :
    ⟨position :: place, path⟩ ∈ boundariesIn parent nodes
      ↔ ∃ node, nodes[position]? = some node ∧ ⟨place, path⟩
        ∈ node.boundaries (childPath parent (segment (nodes.map Node.id) position node.id)) := by
  rw [boundariesIn, mem_boundariesFrom_iff]
  constructor
  · rintro ⟨i, node, path', ⟨place', item⟩, found, foundPath, mem, eq⟩
    rw [getElem?_siblingPaths found] at foundPath
    simp only [Placed.under, Placed.mk.injEq, List.cons.injEq, Nat.zero_add] at eq
    obtain ⟨⟨rfl, rfl⟩, rfl⟩ := eq
    exact ⟨node, found, Option.some.inj foundPath ▸ mem⟩
  · rintro ⟨node, found, mem⟩
    exact ⟨position, node, _, ⟨place, path⟩, found, getElem?_siblingPaths found, mem,
      by simp [Placed.under]⟩

/-- **There is a boundary wherever a pass meets one,** and its path joins the segments on the
way. -/
theorem mem_boundariesIn_iff {parent : String} {nodes : List Node} {boundary : Placed String} :
    boundary ∈ boundariesIn parent nodes
      ↔ HoldsForm nodes boundary.place ∧ boundary.item = pathBelow parent nodes boundary.place := by
  obtain ⟨place, path⟩ := boundary
  induction place generalizing nodes parent with
  | nil =>
    simp only [HoldsForm, false_and, iff_false, boundariesIn, mem_boundariesFrom_iff]
    rintro ⟨i, node, path', inner, -, -, -, eq⟩
    exact List.cons_ne_nil _ _ (congrArg Placed.place eq).symm
  | cons position place ih =>
    rw [mem_boundariesIn_cons_iff]
    simp only [mem_boundaries_iff, ih, HoldsForm, Placed.mk.injEq]
    constructor
    · rintro ⟨node, found, ⟨⟨rfl, rfl⟩, role⟩ | ⟨role, inner, rfl⟩⟩
      · exact ⟨⟨node, found, .inl ⟨rfl, role⟩⟩, by simp [pathBelow, segmentsTo, labels, found]⟩
      · exact ⟨⟨node, found, .inr ⟨role, inner⟩⟩, by simp [pathBelow, segmentsTo, labels, found]⟩
    · rintro ⟨⟨node, found, ⟨rfl, role⟩ | ⟨role, inner⟩⟩, rfl⟩
      · exact ⟨node, found, .inl ⟨⟨rfl, by simp [pathBelow, segmentsTo, labels, found]⟩, role⟩⟩
      · exact ⟨node, found, .inr ⟨role, inner, by simp [pathBelow, segmentsTo, labels, found]⟩⟩

/-! ## 3. No place occurs twice -/

mutual

theorem nodup_boundaries (path : String) :
    (node : Node) → ((node.boundaries path).map Placed.place).Nodup
  | ⟨id, kind, props, style, children, field⟩ => by
    have inner := nodup_boundariesFrom 0 children (siblingPaths path (children.map Node.id))
    cases role : kind.role with
    | region => simpa [boundaries, role] using inner
    | grid => simpa [boundaries, role] using inner
    | form =>
      simp only [boundaries, role, List.map_cons, List.nodup_cons]
      refine ⟨fun mem => ?_, inner⟩
      obtain ⟨boundary, mem, place⟩ := List.mem_map.1 mem
      obtain ⟨i, node, path', inner, -, -, -, rfl⟩ := mem_boundariesFrom_iff.1 mem
      exact List.cons_ne_nil _ _ place
    | display display => simp [boundaries, role]
    | editor editor => simp [boundaries, role]
    | button => simp [boundaries, role]
    | unsupported => simp [boundaries, role]

theorem nodup_boundariesFrom (position : Nat) :
    (nodes : List Node) → (paths : List String) →
      ((boundariesFrom position nodes paths).map Placed.place).Nodup
  | node :: nodes, path :: paths => by
    have first := nodup_boundaries path node
    have others := nodup_boundariesFrom (position + 1) nodes paths
    rw [boundariesFrom, List.map_append, List.nodup_append]
    refine ⟨?_, others, ?_⟩
    · rw [List.map_map]
      have : Placed.place ∘ Placed.under position
          = (position :: ·) ∘ (Placed.place : Placed String → Place) := rfl
      rw [this, ← List.map_map]
      exact first.map fun _ _ h => (List.cons.inj h).2
    · -- the places of the first component start with its own position, the others with later ones
      rintro place mem place' mem' rfl
      simp only [List.map_map, List.mem_map, Function.comp_apply, Placed.place_under] at mem mem'
      obtain ⟨inner, -, rfl⟩ := mem
      obtain ⟨boundary, mem', same⟩ := mem'
      obtain ⟨i, node', path', inner', -, -, -, rfl⟩ := mem_boundariesFrom_iff.1 mem'
      have := (List.cons.inj same).1
      omega
  | [], paths => by simp [boundariesFrom]
  | _ :: _, [] => by simp [boundariesFrom]

end

end Node

/-! ## 4. The boundaries of a card -/

namespace Card

def HoldsForm (card : Card) (place : Place) : Prop := Node.HoldsForm card.body place

def idsTo (card : Card) (place : Place) : List String := Node.idsTo card.body place

/-- The path of the component at a place of a card. -/
def pathTo (card : Card) (place : Place) : String := Node.pathBelow "" card.body place

/-- What holds of all components of a card holds of all below its roots. -/
theorem forall_mem_preorderAll {card : Card} {Q : Node → Prop} (all : ∀ node ∈ card.walk, Q node) :
    ∀ node ∈ Node.preorderAll card.body, Q node :=
  fun node mem => all node (card.walk_eq_preorder ▸ mem)

theorem mem_boundaries_iff {card : Card} {boundary : Placed String} :
    boundary ∈ card.boundaries
      ↔ card.HoldsForm boundary.place ∧ boundary.item = card.pathTo boundary.place :=
  Node.mem_boundariesIn_iff

theorem map_place_forms (card : Card) :
    card.forms.map Placed.place = card.boundaries.map Placed.place :=
  Arena.map_place_allot [] card.boundaries

/-- **No place occurs twice among the forms of a card.** -/
theorem nodup_places (card : Card) : (card.forms.map Placed.place).Nodup :=
  card.map_place_forms ▸ Node.nodup_boundariesFrom 0 card.body _

/-- The forms of a card stand where a pass meets boundaries. -/
theorem exists_form_iff {card : Card} {place : Place} :
    (∃ form ∈ card.forms, form.place = place) ↔ card.HoldsForm place := by
  rw [← List.mem_map, map_place_forms, List.mem_map]
  constructor
  · rintro ⟨boundary, mem, rfl⟩
    exact (mem_boundaries_iff.1 mem).1
  · intro holds
    exact ⟨⟨place, card.pathTo place⟩, mem_boundaries_iff.2 ⟨holds, rfl⟩, rfl⟩

theorem form_eq_of_place {card : Card} {form other : Placed FormKey} (h : form ∈ card.forms)
    (h' : other ∈ card.forms) (place : form.place = other.place) : form = other :=
  List.inj_on_of_nodup_map card.nodup_places h h' place

theorem form_eq_of_key {card : Card} {form other : Placed FormKey} (h : form ∈ card.forms)
    (h' : other ∈ card.forms) (key : form.item = other.item) : form = other :=
  List.inj_on_of_nodup_map card.nodup_formKeys h h' key

/-- **The keys of a card are the paths exactly if different places have different paths.** -/
theorem forms_eq_boundaries_iff {card : Card} :
    card.forms = card.boundaries
      ↔ ∀ p q, card.HoldsForm p → card.HoldsForm q → card.pathTo p = card.pathTo q → p = q := by
  have places : (card.boundaries.map Placed.place).Nodup := card.map_place_forms ▸ card.nodup_places
  rw [forms, Arena.allot_nil_eq_self_iff, List.nodup_map_iff_inj_on places.of_map]
  constructor
  · intro inj p q hp hq same
    have mem (r : Place) (hr : card.HoldsForm r) : ⟨r, card.pathTo r⟩ ∈ card.boundaries :=
      mem_boundaries_iff.2 ⟨hr, rfl⟩
    exact congrArg Placed.place (inj _ (mem p hp) _ (mem q hq) same)
  · intro inj a ha b hb same
    obtain ⟨holdsA, pathA⟩ := mem_boundaries_iff.1 ha
    obtain ⟨holdsB, pathB⟩ := mem_boundaries_iff.1 hb
    have := inj a.place b.place holdsA holdsB (pathA ▸ pathB ▸ same)
    exact List.inj_on_of_nodup_map places ha hb this

/-- Every key is a path exactly if the forms are the boundaries as they stand. -/
theorem forms_eq_boundaries_iff_forall {card : Card} :
    card.forms = card.boundaries ↔ ∀ form ∈ card.forms, form.item = card.pathTo form.place := by
  constructor
  · intro same form mem
    exact (mem_boundaries_iff.1 (same ▸ mem)).2
  · intro paths
    apply Placed.ext_map card.map_place_forms
    calc card.forms.map Placed.item
        = (card.forms.map Placed.place).map card.pathTo := by
          rw [List.map_map]
          exact List.map_congr_left paths
      _ = (card.boundaries.map Placed.place).map card.pathTo := by rw [map_place_forms]
      _ = card.boundaries.map Placed.item := by
          rw [List.map_map]
          exact List.map_congr_left fun boundary mem => (mem_boundaries_iff.1 mem).2.symm

end Card

/-! ## 5. Small cards -/

/-- A form with an id around its children. -/
def Node.formOf (id : String) (children : List Node) : Node :=
  { Node.plain id (.known .formContainer) with children := children }

def Node.regionOf (id : String) (children : List Node) : Node :=
  { Node.plain id (.known .container) with children := children }

/-- An input with an id for a field. -/
def Node.inputOf (id field : String) : Node :=
  { Node.plain id (.known .input) with field := some field }

/-- A card with a body and nothing else. -/
def Card.ofBody (body : List Node) : Card := ⟨"", none, body⟩

end FormCard
