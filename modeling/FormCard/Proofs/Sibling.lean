import FormCard.Proofs.Path

/-!
# Siblings and their paths

The form that a component opens is known by the path of the component, so what a user entered stays
with the component only as far as its path does.  The renderer makes the paths of siblings together,
since a sibling gets its position in its segment if it shares its id.  This module is about one such
call, for any list of siblings and any path of their parent.

A sibling whose id no other sibling has keeps its path wherever it is moved among them and whatever
else is added or removed; those that share an id are told apart by their positions.  So the path of
the former is its own, and the paths of the latter belong to places.

* `nodup_siblingPaths`: no two siblings get the same path, as long as no id holds an at sign.  With
  at signs they might: an id can look like another one with a position.
* `filter_zip_siblingPaths`: with the paths of the siblings that share an id set aside, what is left
  is known from each component alone.
* `siblings_are_told_apart` puts both together, and adds that a permutation of the siblings permutes
  the pairs that are left.
-/

namespace FormCard

/-! ## 1. Different paths -/

/-- Below one parent, different segments make different paths. -/
theorem childPath_injective (parent : String) : Function.Injective (childPath parent) := by
  intro segment other same
  unfold childPath at same
  split at same
  · exact same
  · have same := congrArg String.toList same
    simp only [String.toList_append, List.append_cancel_left_eq] at same
    exact String.toList_inj.1 same

/-- **No two siblings get the same path,** as long as no id holds an at sign. -/
theorem nodup_siblingPaths (parent : String) {ids : List String}
    (plain : ∀ id ∈ ids, '@' ∉ id.toList) : (siblingPaths parent ids).Nodup := by
  rw [List.nodup_iff_getElem?_ne_getElem?]
  intro i j less bound same
  rw [length_siblingPaths] at bound
  have foundI : ids[i]? = some ids[i] := List.getElem?_eq_getElem (by omega)
  have foundJ : ids[j]? = some ids[j] := List.getElem?_eq_getElem bound
  simp only [siblingPaths, List.getElem?_mapIdx, foundI, foundJ, Option.map_some,
    Option.some.injEq] at same
  have segments := childPath_injective parent same
  have := Node.distinguishes_segment plain i j _ _ foundI foundJ segments
  omega

/-! ## 2. Siblings with ids of their own -/

/-- Whether a component is the only one of its id among siblings. -/
def Node.isAlone (siblings : List Node) (node : Node) : Bool :=
  (siblings.map Node.id).count node.id = 1

/-- A component that is alone with its id has a path that is told by its id. -/
theorem getElem?_siblingPaths_of_isAlone (parent : String) {siblings : List Node} {node : Node}
    {position : Nat} (found : siblings[position]? = some node) (alone : node.isAlone siblings) :
    (siblingPaths parent (siblings.map Node.id))[position]? = some (childPath parent node.id) := by
  have one : (siblings.map Node.id).count node.id ≤ 1 := by
    have := of_decide_eq_true alone
    omega
  rw [Node.getElem?_siblingPaths found, segment_of_count_le_one one]

/-- The order of siblings does not decide who is alone with an id. -/
theorem isAlone_congr {siblings others : List Node} (same : others.Perm siblings) :
    Node.isAlone others = Node.isAlone siblings := by
  funext node
  simp only [Node.isAlone, (same.map Node.id).count_eq]

/-- Where each item that is kept stands beside a value of its own, position does not matter. -/
theorem filter_zip_eq_map {α β : Type} {keep : α → Bool} {value : α → β} {items : List α}
    {values : List β} (lengths : items.length = values.length)
    (own : ∀ (i : Nat) item, items[i]? = some item → keep item = true →
      values[i]? = some (value item)) :
    (items.zip values).filter (fun pair => keep pair.1)
      = (items.filter keep).map fun item => (item, value item) := by
  induction items generalizing values with
  | nil => rfl
  | cons item items ih =>
    cases values with
    | nil => simp at lengths
    | cons first values =>
      have later := ih (Nat.succ.inj lengths) fun i => own (i + 1)
      rw [List.zip_cons_cons]
      by_cases kept : keep item = true
      · have here : first = value item := Option.some.inj (own 0 item rfl kept)
        rw [List.filter_cons_of_pos (by exact kept), List.filter_cons_of_pos kept, later, here,
          List.map_cons]
      · rw [List.filter_cons_of_neg (by exact kept), List.filter_cons_of_neg kept, later]

/-- **The paths of the siblings with ids of their own are known from these siblings alone.** -/
theorem filter_zip_siblingPaths (parent : String) (siblings : List Node) :
    (siblings.zip (siblingPaths parent (siblings.map Node.id))).filter
        (fun pair => pair.1.isAlone siblings)
      = (siblings.filter (Node.isAlone siblings)).map
          fun node => (node, childPath parent node.id) :=
  filter_zip_eq_map (by simp) fun _ _ found alone =>
    getElem?_siblingPaths_of_isAlone parent found alone

/-! ## 3. Main statement -/

/-- **Siblings are told apart.**  Take siblings of which no id holds an at sign; ids may be shared,
empty, or hold slashes and number signs.  There is one path for each of them, in their order: the
path of its id below the parent, with its position behind an at sign where the id is shared.  No two
paths are equal.  A component that is alone with its id has the same path among any other siblings
where it is alone with it, whatever position it has there; so when the siblings are put in another
order, the paths of such components move along with them. -/
theorem siblings_are_told_apart (parent : String) (siblings : List Node)
    (plain : ∀ node ∈ siblings, '@' ∉ node.id.toList) :
    let paths := siblingPaths parent (siblings.map Node.id)
    paths.length = siblings.length
    ∧ (∀ (i : Nat) node, siblings[i]? = some node → paths[i]? = some (childPath parent
        (if node.isAlone siblings then node.id else node.id ++ "@" ++ Decimal.text i)))
    ∧ paths.Nodup
    ∧ (∀ (others : List Node) (i j : Nat) (node other : Node), siblings[i]? = some node →
        others[j]? = some other → node.id = other.id → node.isAlone siblings →
        other.isAlone others →
        (siblingPaths parent (others.map Node.id))[j]? = paths[i]?)
    ∧ ∀ others : List Node, others.Perm siblings →
        ((others.zip (siblingPaths parent (others.map Node.id))).filter
            fun pair => pair.1.isAlone others).Perm
          ((siblings.zip paths).filter fun pair => pair.1.isAlone siblings) := by
  intro paths
  refine ⟨by simp [paths], ?_, ?_, ?_, ?_⟩
  · intro i node found
    cases alone : node.isAlone siblings with
    | true =>
      rw [if_pos rfl]
      exact getElem?_siblingPaths_of_isAlone parent found alone
    | false =>
      have several : 1 < (siblings.map Node.id).count node.id := by
        have present : node.id ∈ siblings.map Node.id :=
          List.mem_map_of_mem (List.mem_of_getElem? found)
        have := List.count_pos_iff.2 present
        have := of_decide_eq_false alone
        omega
      rw [if_neg Bool.false_ne_true, Node.getElem?_siblingPaths found, segment, if_pos several]
  · exact nodup_siblingPaths parent (List.forall_mem_map.2 plain)
  · intro others i j node other found foundOther same alone aloneOther
    rw [getElem?_siblingPaths_of_isAlone parent found alone, same]
    exact getElem?_siblingPaths_of_isAlone parent foundOther aloneOther
  · intro others same
    rw [filter_zip_siblingPaths, filter_zip_siblingPaths parent siblings, isAlone_congr same]
    exact (same.filter _).map _

/-- Ids that are shared, empty, or hold slashes and number signs. -/
theorem siblings_with_odd_ids_told_apart :
    let siblings := ["a", "", "a", "b/c", "", "a#2"].map fun id => Node.formOf id []
    (∀ node ∈ siblings, '@' ∉ node.id.toList)
    ∧ siblingPaths "p" (siblings.map Node.id) = ["p/a@0", "p/@1", "p/a@2", "p/b/c", "p/@4", "p/a#2"]
    ∧ (siblingPaths "p" (siblings.map Node.id)).Nodup
    ∧ ((siblings.reverse.zip (siblingPaths "p" (siblings.reverse.map Node.id))).filter
          fun pair => pair.1.isAlone siblings.reverse).Perm
        ((siblings.zip (siblingPaths "p" (siblings.map Node.id))).filter
          fun pair => pair.1.isAlone siblings) := by
  intro siblings
  have plain : ∀ node ∈ siblings, '@' ∉ node.id.toList := by decide
  obtain ⟨-, -, nodup, -, moves⟩ := siblings_are_told_apart "p" siblings plain
  exact ⟨plain, by decide, nodup, moves siblings.reverse siblings.reverse_perm⟩

end FormCard
