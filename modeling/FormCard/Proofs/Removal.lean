import FormCard.Proofs.Collision

/-!
# Removing a component

When an author takes a component out of a card, its siblings stay behind, and those after it move up
by one position.  Their places change, and where they share an id their segments change too, for
these hold the positions.  So a boundary may come to have the path that another boundary had, and
with it the key and the values of another form.  This module finds out when, for any component at
any depth.

Places before and after are tied together by `Place.before`, which gives the place that a component
had before the removal.  It is defined by recursion along the place of the removed component's
parent, as the removal itself is, and skips the removed position only.

* `Card.holdsForm_removeAt`: the boundaries that remain are those outside the removed component,
  each at the place that it moved to.
* `Node.segmentsApart_iff`: as long as no id holds an at sign, the segments of a boundary become
  those of another one exactly if it moves into the position of a sibling with the same id, which is
  still shared after the removal, and this sibling had a boundary with the same segments inside it
  (`Node.Inherits`).
* `Card.PlainIds.keysApart_iff` says the same of keys, for cards whose ids hold no slash either and
  none of which is empty at the root.

The proof goes down to the siblings of the removed component first (`Node.segmentsApart_cons_iff`),
where nothing changes on the way, and compares positions there (`Node.segmentsApart_nil_iff`).
-/

namespace FormCard

/-! ## 1. Places before and after -/

/-- The place that a component had before the sibling at `i` below `parent` was removed. -/
def Place.before : Place → Nat → Place → Place
  | [], i, j :: place => (if j < i then j else j + 1) :: place
  | k :: parent, i, j :: place => if j = k then j :: before parent i place else j :: place
  | _, _, [] => []

@[simp] theorem Place.before_nil (parent : Place) (i : Nat) : Place.before parent i [] = [] := by
  cases parent <;> rfl

@[simp] theorem Place.before_eq_nil_iff {parent : Place} {i : Nat} {place : Place} :
    Place.before parent i place = [] ↔ place = [] := by
  rcases place with _ | ⟨m, place⟩
  · simp
  · rcases parent with _ | ⟨k, parent⟩ <;> rw [Place.before]
    · simp
    · split <;> simp

/-- **The places outside the removed component are those that something moved away from.** -/
theorem Place.exists_before_eq_iff (parent : Place) (i : Nat) (place : Place) :
    (∃ moved, Place.before parent i moved = place) ↔ ¬ parent ++ [i] <+: place := by
  induction parent generalizing place with
  | nil =>
    cases place with
    | nil => exact ⟨fun _ => by simp, fun _ => ⟨[], rfl⟩⟩
    | cons j place =>
      simp only [List.nil_append, List.cons_prefix_cons, List.nil_prefix, and_true]
      constructor
      · rintro ⟨_ | ⟨m, moved⟩, eq⟩ rfl
        · exact List.cons_ne_nil _ _ eq.symm
        · have := (List.cons.inj eq).1
          split at this <;> omega
      · intro ne
        by_cases less : j < i
        · exact ⟨j :: place, by simp [before, less]⟩
        · refine ⟨(j - 1) :: place, ?_⟩
          rw [before, if_neg (by omega), Nat.sub_add_cancel (by omega)]
  | cons k parent ih =>
    cases place with
    | nil => exact ⟨fun _ => by simp, fun _ => ⟨[], rfl⟩⟩
    | cons j place =>
      simp only [List.cons_append, List.cons_prefix_cons, not_and]
      by_cases same : j = k
      · subst same
        constructor
        · rintro ⟨_ | ⟨m, moved⟩, eq⟩ -
          · exact absurd eq.symm (List.cons_ne_nil _ _)
          · by_cases here : m = j
            · rw [before, if_pos here] at eq
              exact (ih place).1 ⟨moved, (List.cons.inj eq).2⟩
            · rw [before, if_neg here] at eq
              exact absurd (List.cons.inj eq).1 here
        · intro outside
          obtain ⟨moved, eq⟩ := (ih place).2 (outside rfl)
          exact ⟨j :: moved, by rw [before, if_pos rfl, eq]⟩
      · exact ⟨fun _ eq => absurd eq.symm same, fun _ => ⟨j :: place, by rw [before, if_neg same]⟩⟩

namespace Node

def removeAt : List Node → Place → Nat → List Node
  | nodes, [], i => nodes.eraseIdx i
  | nodes, k :: parent, i =>
    nodes.modify k fun node => { node with children := removeAt node.children parent i }
termination_by structural _ parent => parent

/-- The siblings below the component at `parent`, if a pass gets there. -/
def siblingsAt : List Node → Place → List Node
  | nodes, [] => nodes
  | nodes, k :: parent =>
    match nodes[k]? with
    | some node => if node.kind.role.isFrame then siblingsAt node.children parent else []
    | none => []

theorem getElem?_removeAt_nil (nodes : List Node) (i j : Nat) :
    (removeAt nodes [] i)[j]? = nodes[if j < i then j else j + 1]? := by
  rw [removeAt, List.getElem?_eraseIdx]
  split <;> rfl

theorem getElem?_removeAt_self {nodes : List Node} {k : Nat} {node : Node}
    (h : nodes[k]? = some node) (parent : Place) (i : Nat) :
    (removeAt nodes (k :: parent) i)[k]?
      = some { node with children := removeAt node.children parent i } := by
  rw [removeAt, List.getElem?_modify_eq, h]
  rfl

theorem getElem?_removeAt_ne {j k : Nat} (h : j ≠ k) (nodes : List Node) (parent : Place)
    (i : Nat) : (removeAt nodes (k :: parent) i)[j]? = nodes[j]? :=
  List.getElem?_modify_ne _ _ h.symm

/-- Above the list that the component is removed from, the ids stay. -/
theorem map_id_removeAt (nodes : List Node) (k : Nat) (parent : Place) (i : Nat) :
    (removeAt nodes (k :: parent) i).map Node.id = nodes.map Node.id := by
  apply List.ext_getElem?
  intro j
  by_cases same : j = k
  · subst same
    cases found : nodes[j]? with
    | none => simp [removeAt, found]
    | some node => simp [getElem?_removeAt_self found, found]
  · simp [getElem?_removeAt_ne same]

/-- **The boundaries that remain are at the places that they moved to.** -/
theorem holdsForm_removeAt {nodes : List Node} {parent : Place} {i : Nat} {place : Place} :
    HoldsForm (removeAt nodes parent i) place ↔ HoldsForm nodes (Place.before parent i place) := by
  induction parent generalizing nodes place with
  | nil =>
    cases place with
    | nil => exact Iff.rfl
    | cons j place => simp only [HoldsForm, Place.before, getElem?_removeAt_nil]
  | cons k parent ih =>
    cases place with
    | nil => exact Iff.rfl
    | cons j place =>
      by_cases same : j = k
      · subst same
        rw [Place.before, if_pos rfl]
        cases found : nodes[j]? with
        | none => simp [HoldsForm, removeAt, found]
        | some node =>
          rw [holdsForm_cons_iff found, holdsForm_cons_iff (getElem?_removeAt_self found parent i),
            ih, Place.before_eq_nil_iff]
      · rw [Place.before, if_neg same]
        simp only [HoldsForm, getElem?_removeAt_ne same]

/-! ## 2. Segments before and after -/

/-- Whether no boundary comes to have the segments that another one had. -/
def SegmentsApart (nodes : List Node) (parent : Place) (i : Nat) : Prop :=
  ∀ p q, HoldsForm (removeAt nodes parent i) p → HoldsForm nodes q →
    segmentsTo nodes q = segmentsTo (removeAt nodes parent i) p → q = Place.before parent i p

/-- Whether a boundary at or in the sibling at `m + 1` inherits the segments of one at or in the
sibling at `m` when the sibling at `i` is removed.  Both have one id, which is shared even then, and
inside them the segments of the two boundaries are equal. -/
def Inherits (siblings : List Node) (i m : Nat) : Prop :=
  ∃ former heir q p, i ≤ m ∧ siblings[m]? = some former ∧ siblings[m + 1]? = some heir
    ∧ former.id = heir.id ∧ 1 < ((siblings.eraseIdx i).map Node.id).count heir.id
    ∧ HoldsForm siblings (m :: q) ∧ HoldsForm siblings ((m + 1) :: p)
    ∧ segmentsTo former.children q = segmentsTo heir.children p

/-- Inside one component the segments determine the place. -/
theorem place_eq_of_children {nodes : List Node}
    (plain : ∀ node ∈ preorderAll nodes, '@' ∉ node.id.toList) {m : Nat} {node : Node} {p q : Place}
    (found : nodes[m]? = some node) (hp : HoldsForm nodes (m :: p)) (hq : HoldsForm nodes (m :: q))
    (h : segmentsTo node.children p = segmentsTo node.children q) : p = q := by
  have all : segmentsTo nodes (m :: p) = segmentsTo nodes (m :: q) := by
    rw [segmentsTo_cons found, segmentsTo_cons found, h]
  exact (List.cons.inj (place_eq_of_segmentsTo_eq plain hp hq all)).2

/-- A boundary that inherits segments has those of another one afterwards. -/
theorem Inherits.not_segmentsApart {nodes : List Node} {i m : Nat} (h : Inherits nodes i m) :
    ¬ SegmentsApart nodes [] i := by
  obtain ⟨former, heir, q, p, le, foundF, foundH, same, shared, hq, hp, inside⟩ := h
  have moves : Place.before [] i (m :: p) = (m + 1) :: p := by
    rw [Place.before, if_neg (Nat.not_lt.2 le)]
  have found : (removeAt nodes [] i)[m]? = some heir := by
    rw [getElem?_removeAt_nil, if_neg (Nat.not_lt.2 le), foundH]
  have sharedBefore : 1 < (nodes.map Node.id).count former.id :=
    one_lt_count (i := m) (j := m + 1) (by simp [foundF]) (by simp [foundH, same]) (by omega)
  have eq : segmentsTo nodes (m :: q) = segmentsTo (removeAt nodes [] i) (m :: p) := by
    rw [segmentsTo_cons foundF, segmentsTo_cons found, inside, removeAt, segment, segment,
      if_pos sharedBefore, if_pos shared, same]
  intro apart
  have := apart (m :: p) (m :: q) (holdsForm_removeAt.2 (moves ▸ hp)) hq eq
  rw [moves] at this
  have := (List.cons.inj this).1
  omega

/-- **Among the siblings of the removed component, segments are inherited from the sibling
before.** -/
theorem segmentsApart_nil_iff {nodes : List Node} {i : Nat}
    (plain : ∀ node ∈ preorderAll nodes, '@' ∉ node.id.toList) :
    SegmentsApart nodes [] i ↔ ∀ m, ¬ Inherits nodes i m := by
  refine ⟨fun apart m inherits => inherits.not_segmentsApart apart, ?_⟩
  rintro none (_ | ⟨j, p⟩) (_ | ⟨m, q⟩) hp hq eq
  · exact hp.elim
  · exact hp.elim
  · exact hq.elim
  rw [holdsForm_removeAt, Place.before] at hp
  rw [Place.before]
  obtain ⟨heir, foundH⟩ := exists_of_holdsForm hp
  obtain ⟨former, foundF⟩ := exists_of_holdsForm hq
  have found : (removeAt nodes [] i)[j]? = some heir := by rw [getElem?_removeAt_nil, foundH]
  rw [segmentsTo_cons foundF, segmentsTo_cons found, List.cons.injEq] at eq
  obtain ⟨first, inside⟩ := eq
  obtain ⟨same, shared⟩ := (segment_eq_segment_iff (forall_of_getElem? plain foundF).1
    (forall_of_getElem? plain foundH).1).1 first
  -- the two components are one, or the second one moves into the position of the first one
  have position : m = if j < i then j else j + 1 := by
    rcases shared with ⟨-, shared, rfl⟩ | ⟨alone, -⟩
    · by_cases less : m < i
      · rw [if_pos less]
      · rw [if_neg less] at hp foundH
        exact absurd ⟨former, heir, q, p, Nat.not_lt.1 less, foundF, foundH, same, shared, hq, hp,
          inside⟩ (none m)
    · refine Classical.byContradiction fun ne => absurd ?_ (Nat.not_lt.2 alone)
      exact one_lt_count (by simp [foundF]) (by simp [foundH, same]) ne
  subst position
  obtain rfl : former = heir := Option.some.inj (foundF.symm.trans foundH)
  rw [place_eq_of_children plain foundF hq hp inside]

theorem segmentsTo_removeAt_self {nodes : List Node} {k : Nat} {node : Node}
    (h : nodes[k]? = some node) (parent : Place) (i : Nat) (place : Place) :
    segmentsTo (removeAt nodes (k :: parent) i) (k :: place)
      = segment (nodes.map Node.id) k node.id
        :: segmentsTo (removeAt node.children parent i) place := by
  rw [segmentsTo_cons (getElem?_removeAt_self h parent i), map_id_removeAt]

theorem segmentsTo_removeAt_ne {j k : Nat} (h : j ≠ k) (nodes : List Node) (parent : Place)
    (i : Nat) (place : Place) :
    segmentsTo (removeAt nodes (k :: parent) i) (j :: place) = segmentsTo nodes (j :: place) := by
  simp only [segmentsTo, labels, getElem?_removeAt_ne h, map_id_removeAt]

/-- Further up, nothing changes but inside the component on the way. -/
theorem segmentsApart_cons_iff {nodes : List Node} {k i : Nat} {parent : Place}
    (plain : ∀ node ∈ preorderAll nodes, '@' ∉ node.id.toList) :
    SegmentsApart nodes (k :: parent) i ↔ ∀ node, nodes[k]? = some node →
      node.kind.role.isFrame = true → SegmentsApart node.children parent i := by
  constructor
  · intro apart node found frame p q hp hq inside
    have after := getElem?_removeAt_self found parent i
    have eq : segmentsTo nodes (k :: q) = segmentsTo (removeAt nodes (k :: parent) i) (k :: p) := by
      rw [segmentsTo_cons found, segmentsTo_removeAt_self found, inside]
    have := apart (k :: p) (k :: q) ((holdsForm_cons_iff after).2 (.inr ⟨frame, hp⟩))
      ((holdsForm_cons_iff found).2 (.inr ⟨frame, hq⟩)) eq
    rw [Place.before, if_pos rfl] at this
    exact (List.cons.inj this).2
  · rintro inner (_ | ⟨j, p⟩) (_ | ⟨m, q⟩) hp hq eq
    · exact hp.elim
    · exact hp.elim
    · exact hq.elim
    by_cases here : j = k
    · subst here
      have lengths : q.length = p.length := by
        have := congrArg List.length eq
        rw [segmentsTo, segmentsTo, length_labels hq, length_labels hp] at this
        exact Nat.succ.inj this
      obtain ⟨former, foundF⟩ := exists_of_holdsForm hq
      obtain ⟨node, found⟩ : ∃ node, nodes[j]? = some node := by
        rw [holdsForm_removeAt, Place.before, if_pos rfl] at hp
        exact exists_of_holdsForm hp
      rw [segmentsTo_cons foundF, segmentsTo_removeAt_self found, List.cons.injEq] at eq
      obtain rfl : m = j := position_eq_of_segment_eq (by simp [foundF]) (by simp [found])
        (forall_of_getElem? plain foundF).1 (forall_of_getElem? plain found).1 eq.1
      obtain rfl : former = node := Option.some.inj (foundF.symm.trans found)
      rw [Place.before, if_pos rfl]
      rw [holdsForm_cons_iff (getElem?_removeAt_self found parent i)] at hp
      rw [holdsForm_cons_iff found] at hq
      rcases hp with ⟨rfl, -⟩ | ⟨frame, below⟩
      · rw [List.length_eq_zero_iff.1 lengths, Place.before_nil]
      · rcases hq with ⟨rfl, -⟩ | ⟨-, belowF⟩
        · rw [List.length_eq_zero_iff.1 lengths.symm] at below
          exact below.elim
        · rw [inner former found frame p q below belowF eq.2]
    · have stays : HoldsForm nodes (j :: p) := by
        rwa [holdsForm_removeAt, Place.before, if_neg here] at hp
      rw [Place.before, if_neg here]
      exact place_eq_of_segmentsTo_eq plain hq stays
        (eq.trans (segmentsTo_removeAt_ne here nodes parent i p))

/-- **Segments are inherited only among the siblings of the removed component,** each from the
sibling before. -/
theorem segmentsApart_iff {nodes : List Node} {parent : Place} {i : Nat}
    (plain : ∀ node ∈ preorderAll nodes, '@' ∉ node.id.toList) :
    SegmentsApart nodes parent i ↔ ∀ m, ¬ Inherits (siblingsAt nodes parent) i m := by
  induction parent generalizing nodes with
  | nil => exact segmentsApart_nil_iff plain
  | cons k parent ih =>
    have nothing (m : Nat) : ¬ Inherits [] i m := by
      rintro ⟨former, heir, q, p, -, found, -⟩
      simp at found
    rw [segmentsApart_cons_iff plain]
    cases found : nodes[k]? with
    | none => simp [siblingsAt, found, nothing]
    | some node =>
      cases frame : node.kind.role.isFrame with
      | false => simp [siblingsAt, found, frame, nothing]
      | true => simp [siblingsAt, found, frame, ih (forall_of_getElem? plain found).2]

/-! ## 3. Ids after a removal -/

/-- **A removal brings no new ids.** -/
theorem forall_id_removeAt {Q : String → Prop} {nodes : List Node} (parent : Place) (i : Nat)
    (all : ∀ node ∈ preorderAll nodes, Q node.id) :
    ∀ node ∈ preorderAll (removeAt nodes parent i), Q node.id := by
  induction parent generalizing nodes with
  | nil =>
    intro node mem
    obtain ⟨tree, inTrees, own⟩ := mem_preorderAll_iff.1 mem
    exact all node (mem_preorderAll_iff.2 ⟨tree, List.mem_of_mem_eraseIdx inTrees, own⟩)
  | cons k parent ih =>
    intro node mem
    obtain ⟨tree, inTrees, own⟩ := mem_preorderAll_iff.1 mem
    obtain ⟨j, found⟩ := List.mem_iff_getElem?.1 inTrees
    by_cases here : j = k
    · subst here
      cases before : nodes[j]? with
      | none => simp [removeAt, before] at found
      | some former =>
        obtain rfl := Option.some.inj ((getElem?_removeAt_self before parent i).symm.trans found)
        have children := forall_of_getElem? (Q := fun other => Q other.id) all before
        rw [preorder_eq] at own
        rcases List.mem_cons.1 own with rfl | own
        · exact children.1
        · exact ih children.2 node own
    · rw [getElem?_removeAt_ne here] at found
      exact all node (mem_preorderAll_iff.2 ⟨tree, List.mem_of_getElem? found, own⟩)

/-- The ids at the root are still ids at the root. -/
theorem map_id_removeAt_subset (nodes : List Node) (parent : Place) (i : Nat) :
    (removeAt nodes parent i).map Node.id ⊆ nodes.map Node.id := by
  cases parent with
  | nil => exact List.map_subset _ fun _ mem => List.mem_of_mem_eraseIdx mem
  | cons k parent => exact map_id_removeAt nodes k parent i ▸ List.Subset.refl _

end Node

/-! ## 4. Keys after a removal -/

namespace Card

def removeAt (card : Card) (parent : Place) (i : Nat) : Card :=
  { card with body := Node.removeAt card.body parent i }

/-- **The boundaries that remain are at the places that they moved to.** -/
theorem holdsForm_removeAt {card : Card} {parent : Place} {i : Nat} {place : Place} :
    (card.removeAt parent i).HoldsForm place ↔ card.HoldsForm (Place.before parent i place) :=
  Node.holdsForm_removeAt

/-- Whether a form that remains has the key of a former form only if it is that form. -/
def KeysApart (card : Card) (parent : Place) (i : Nat) : Prop :=
  ∀ form ∈ (card.removeAt parent i).forms, ∀ former ∈ card.forms, former.item = form.item →
    former.place = Place.before parent i form.place

/-- A removal brings neither slashes nor at signs. -/
theorem PlainIds.removeAt {card : Card} (plain : card.PlainIds) (parent : Place) (i : Nat) :
    (card.removeAt parent i).PlainIds := by
  intro node mem
  rw [walk_eq_preorder] at mem
  exact Node.forall_id_removeAt (Q := fun id => '/' ∉ id.toList ∧ '@' ∉ id.toList) parent i
    (forall_mem_preorderAll plain) node mem

/-- A card without empty ids at the root does not have exactly one there. -/
theorem count_empty_ne_one {card : Card} (ids : "" ∉ card.body.map Node.id) :
    (card.body.map Node.id).count "" ≠ 1 := by
  rw [List.count_eq_zero.2 ids]
  exact Nat.zero_ne_one

theorem PlainIds.item_eq_pathTo {card : Card} (plain : card.PlainIds)
    (ids : "" ∉ card.body.map Node.id) {form : Placed FormKey} (mem : form ∈ card.forms) :
    form.item = card.pathTo form.place :=
  forms_eq_boundaries_iff_forall.1 (plain.forms_eq_boundaries_iff.2
    (namedApart_of_count_ne_one plain (count_empty_ne_one ids))) form mem

/-- **Forms of plain cards have the same key exactly if the segments on the way to them are the
same,** as long as no id at the root is empty. -/
theorem PlainIds.item_eq_iff {card other : Card} (plain : card.PlainIds) (plain' : other.PlainIds)
    (ids : "" ∉ card.body.map Node.id) (ids' : "" ∉ other.body.map Node.id)
    {form form' : Placed FormKey} (mem : form ∈ card.forms) (mem' : form' ∈ other.forms) :
    form.item = form'.item ↔ card.segmentsTo form.place = other.segmentsTo form'.place := by
  rw [plain.item_eq_pathTo ids mem, plain'.item_eq_pathTo ids' mem',
    ← named_segmentsTo (count_empty_ne_one ids) (exists_form_iff.1 ⟨form, mem, rfl⟩),
    ← named_segmentsTo (count_empty_ne_one ids') (exists_form_iff.1 ⟨form', mem', rfl⟩)]
  exact foldl_childPath_eq_iff (Node.slash_not_mem_segmentsTo plain.slash_not_mem form.place)
    (Node.slash_not_mem_segmentsTo plain'.slash_not_mem form'.place)

/-- **In plain cards keys are apart exactly if no segments are inherited.** -/
theorem PlainIds.keysApart_iff {card : Card} (plain : card.PlainIds)
    (ids : "" ∉ card.body.map Node.id) (parent : Place) (i : Nat) :
    card.KeysApart parent i ↔ ∀ m, ¬ Node.Inherits (Node.siblingsAt card.body parent) i m := by
  have ids' : "" ∉ (card.removeAt parent i).body.map Node.id :=
    fun mem => ids (Node.map_id_removeAt_subset card.body parent i mem)
  rw [← Node.segmentsApart_iff plain.at_not_mem]
  constructor
  · intro apart p q hp hq eq
    obtain ⟨form, mem, rfl⟩ :=
      exists_form_iff.2 (show (card.removeAt parent i).HoldsForm p from hp)
    obtain ⟨former, mem', rfl⟩ := exists_form_iff.2 (show card.HoldsForm q from hq)
    exact apart form mem former mem'
      ((plain.item_eq_iff (plain.removeAt parent i) ids ids' mem' mem).2 eq)
  · intro apart form mem former mem' key
    exact apart form.place former.place (exists_form_iff.1 ⟨form, mem, rfl⟩)
      (exists_form_iff.1 ⟨former, mem', rfl⟩)
      ((plain.item_eq_iff (plain.removeAt parent i) ids ids' mem' mem).1 key)

end Card

end FormCard
