import FormCard.Proofs.Place
import Mathlib.Data.List.NodupEquivFin

/-!
# When paths tell boundaries apart

The renderer makes the path of a component by joining segments with slashes, and a segment may hold
the position of its component behind an at sign.  The path is all that is left of the way to the
component, and forms are recognized by it.  So it matters what can be read off a path again.

As long as ids hold neither character, nothing in a path is ambiguous but one thing.  The root has
the empty path, so a component at the root whose segment is empty has it too, and what is inside
that component looks as if it stood at the root.

* `foldl_childPath_eq_iff`: two lists of segments without slashes join to the same path exactly if
  they agree behind the empty segments at their fronts (`named`).
* `segment_eq_segment_iff`: segments without further at signs are equal only with equal ids, and
  then either both carry the same position or neither carries one.
* `place_eq_of_segmentsTo_eq`: the segments on the way to a place determine it.

The last one goes by way of `place_eq_of_labels_eq`, which asks of labels only that they tell
siblings apart.  It is used with segments here and with ids in `FormCard.Proofs.Replacement`.
Digits hold no at sign and no slash, and that is why positions do no harm.
-/

namespace FormCard

/-! ## 1. Joining segments -/

theorem foldl_childPath_of_ne {parent : String} (h : parent ≠ "") (segments : List String) :
    segments.foldl childPath parent = "/".intercalate (parent :: segments) := by
  induction segments generalizing parent with
  | nil => simp
  | cons segment segments ih =>
    have ne : parent ++ "/" ++ segment ≠ "" := by
      simp [String.append_eq_empty_iff]
    rw [List.foldl_cons, childPath, if_neg h, ih ne, String.intercalate_cons_append,
      String.intercalate_cons_cons]

/-- The segments behind the empty ones at the front. -/
def named (segments : List String) : List String := segments.dropWhile (· = "")

/-- **Empty segments at the front leave no trace in a path.** -/
theorem foldl_childPath_empty (segments : List String) :
    segments.foldl childPath "" = "/".intercalate (named segments) := by
  induction segments with
  | nil => simp [named]
  | cons segment segments ih =>
    by_cases h : segment = ""
    · subst h
      simpa [named, childPath] using ih
    · rw [List.foldl_cons, childPath, if_pos rfl, foldl_childPath_of_ne h, named,
        List.dropWhile_cons_of_neg (by simpa using h)]

/-- A text joined with slashes splits at them into what was joined. -/
theorem split_intercalate {segments : List String} (h : ∀ s ∈ segments, '/' ∉ s.toList)
    (ne : segments ≠ []) :
    (("/".intercalate segments).split '/').toList.map (·.copy) = segments := by
  have sep : "/" = String.singleton '/' := rfl
  rw [sep, String.toList_split_intercalate h, if_neg ne]

theorem named_eq_nil_or_cons (segments : List String) :
    named segments = [] ∨ ∃ first others, named segments = first :: others ∧ first ≠ "" := by
  induction segments with
  | nil => exact .inl rfl
  | cons segment segments ih =>
    by_cases h : segment = ""
    · simpa [named, h] using ih
    · exact .inr ⟨segment, segments, by simp [named, h], h⟩

theorem mem_of_mem_named {segment : String} {segments : List String}
    (h : segment ∈ named segments) : segment ∈ segments :=
  (List.dropWhile_sublist _).subset h

/-- No join of segments is empty that starts with one that is not. -/
theorem intercalate_cons_ne_empty {first : String} (h : first ≠ "") (others : List String) :
    "/".intercalate (first :: others) ≠ "" := by
  cases others with
  | nil => simpa using h
  | cons second others => simp [String.append_eq_empty_iff, h]

/-- **Paths of segments without slashes agree exactly if the segments do,** up to empty ones at the
front. -/
theorem foldl_childPath_eq_iff {l m : List String} (hl : ∀ s ∈ l, '/' ∉ s.toList)
    (hm : ∀ s ∈ m, '/' ∉ s.toList) :
    l.foldl childPath "" = m.foldl childPath "" ↔ named l = named m := by
  rw [foldl_childPath_empty, foldl_childPath_empty]
  constructor
  · intro h
    rcases named_eq_nil_or_cons l with nil | ⟨first, others, cons, ne⟩
    · rcases named_eq_nil_or_cons m with nil' | ⟨first', others', cons', ne'⟩
      · rw [nil, nil']
      · rw [nil, cons', String.intercalate_nil] at h
        exact absurd h.symm (intercalate_cons_ne_empty ne' others')
    · rcases named_eq_nil_or_cons m with nil' | ⟨first', others', cons', ne'⟩
      · rw [nil', cons, String.intercalate_nil] at h
        exact absurd h (intercalate_cons_ne_empty ne others)
      · rw [← split_intercalate (fun s mem => hl s (mem_of_mem_named mem)) (by simp [cons]), h,
          split_intercalate (fun s mem => hm s (mem_of_mem_named mem)) (by simp [cons'])]
  · exact congrArg _

/-! ## 2. Segments of siblings -/

/-- A character that is no digit occurs in no number. -/
theorem not_mem_text {c : Char} (h : c.isDigit = false) (n : Nat) :
    c ∉ (Decimal.text n).toList := by
  intro mem
  have := Nat.isDigit_of_mem_toDigits (by decide) (by decide)
    (by simpa [Decimal.text, Decimal.digits] using mem : c ∈ Nat.toDigits 10 n)
  simp [this] at h

/-- Two siblings with one id make it occur more than once. -/
theorem one_lt_count {ids : List String} {i j : Nat} {id : String} (hi : ids[i]? = some id)
    (hj : ids[j]? = some id) (ne : i ≠ j) : 1 < ids.count id := by
  obtain ⟨insideI, rfl⟩ := List.getElem?_eq_some_iff.1 hi
  obtain ⟨insideJ, same⟩ := List.getElem?_eq_some_iff.1 hj
  apply List.duplicate_iff_two_le_count.1
  rw [List.duplicate_iff_exists_distinct_get]
  rcases Nat.lt_or_gt_of_ne ne with before | after
  · exact ⟨⟨i, insideI⟩, ⟨j, insideJ⟩, before, rfl, same.symm⟩
  · exact ⟨⟨j, insideJ⟩, ⟨i, insideI⟩, after, same.symm, rfl⟩

/-- A segment holds a slash only if the id does. -/
theorem slash_not_mem_segment {ids : List String} {id : String} (h : '/' ∉ id.toList)
    (position : Nat) : '/' ∉ (segment ids position id).toList := by
  unfold segment
  split
  · simp [h, not_mem_text (c := '/') rfl position]
  · exact h

/-- **Segments are equal only with equal ids,** as long as these hold no at sign; and then either
both ids are shared and the positions are equal, or neither id is shared. -/
theorem segment_eq_segment_iff {ids ids' : List String} {i j : Nat} {a b : String}
    (ha : '@' ∉ a.toList) (hb : '@' ∉ b.toList) :
    segment ids i a = segment ids' j b
      ↔ a = b ∧ (1 < ids.count a ∧ 1 < ids'.count b ∧ i = j
        ∨ ids.count a ≤ 1 ∧ ids'.count b ≤ 1) := by
  constructor
  · intro h
    have chars := congrArg String.toList h
    unfold segment at chars
    by_cases sharedA : 1 < ids.count a <;> by_cases sharedB : 1 < ids'.count b
    · -- both carry their positions, behind the only at sign
      simp only [if_pos sharedA, if_pos sharedB, String.toList_append] at chars
      obtain ⟨same, -, number⟩ := (List.append_cons_inj_of_notMem ha (not_mem_text rfl i)).1
        (by simpa [List.append_assoc] using chars)
      exact ⟨String.toList_inj.1 same, .inl ⟨sharedA, sharedB,
        Decimal.text_injective (String.toList_inj.1 number)⟩⟩
    · simp only [if_pos sharedA, if_neg sharedB] at chars
      exact absurd (chars ▸ by simp : '@' ∈ b.toList) hb
    · simp only [if_neg sharedA, if_pos sharedB] at chars
      exact absurd (chars ▸ by simp : '@' ∈ a.toList) ha
    · simp only [if_neg sharedA, if_neg sharedB] at chars
      exact ⟨String.toList_inj.1 chars, .inr ⟨Nat.not_lt.1 sharedA, Nat.not_lt.1 sharedB⟩⟩
  · rintro ⟨rfl, ⟨sharedA, sharedB, rfl⟩ | ⟨aloneA, aloneB⟩⟩
    · rw [segment, segment, if_pos sharedA, if_pos sharedB]
    · rw [segment_of_count_le_one aloneA, segment_of_count_le_one aloneB]

/-- **Siblings have different segments,** as long as their ids hold no at sign. -/
theorem position_eq_of_segment_eq {ids : List String} {i j : Nat} {a b : String}
    (hi : ids[i]? = some a) (hj : ids[j]? = some b) (ha : '@' ∉ a.toList) (hb : '@' ∉ b.toList)
    (h : segment ids i a = segment ids j b) : i = j := by
  obtain ⟨rfl, ⟨-, -, same⟩ | ⟨alone, -⟩⟩ := (segment_eq_segment_iff ha hb).1 h
  · exact same
  · exact Classical.byContradiction fun ne => absurd (one_lt_count hi hj ne) (Nat.not_lt.2 alone)

/-! ## 3. Places by their labels -/

namespace Node

theorem mem_preorderAll_iff {node : Node} {nodes : List Node} :
    node ∈ preorderAll nodes ↔ ∃ tree ∈ nodes, node ∈ tree.preorder := by
  induction nodes with
  | nil => simp [preorderAll]
  | cons first nodes ih => simp [preorderAll, ih]

theorem preorder_subset {node : Node} {nodes : List Node} (h : node ∈ nodes) :
    node.preorder ⊆ preorderAll nodes :=
  fun _ mem => mem_preorderAll_iff.2 ⟨node, h, mem⟩

mutual

theorem children_subset_preorder :
    (tree : Node) → ∀ node ∈ tree.preorder, preorderAll node.children ⊆ tree.preorder
  | ⟨id, kind, props, style, children, field⟩ => by
    intro node mem
    rw [preorder] at mem ⊢
    rcases List.mem_cons.1 mem with rfl | mem
    · exact List.subset_cons_self _ _
    · exact List.Subset.trans (children_subset_preorderAll children node mem)
        (List.subset_cons_self _ _)

/-- The components of siblings are closed under children. -/
theorem children_subset_preorderAll :
    (trees : List Node) → ∀ node ∈ preorderAll trees, preorderAll node.children ⊆ preorderAll trees
  | [] => by simp [preorderAll]
  | tree :: trees => by
    intro node mem
    rw [preorderAll] at mem ⊢
    rcases List.mem_append.1 mem with mem | mem
    · exact List.Subset.trans (children_subset_preorder tree node mem) (List.subset_append_left _ _)
    · exact List.Subset.trans (children_subset_preorderAll trees node mem)
        (List.subset_append_right _ _)

end

theorem mem_preorderAll_of_mem {node : Node} {nodes : List Node} (h : node ∈ nodes) :
    node ∈ preorderAll nodes :=
  preorder_subset h (node.preorder_eq ▸ List.mem_cons_self)

/-- What holds of all components of siblings holds of each sibling and of all components in it. -/
theorem forall_of_getElem? {Q : Node → Prop} {nodes : List Node} {i : Nat} {node : Node}
    (all : ∀ other ∈ preorderAll nodes, Q other) (found : nodes[i]? = some node) :
    Q node ∧ ∀ other ∈ preorderAll node.children, Q other := by
  have subset : node :: preorderAll node.children ⊆ preorderAll nodes :=
    node.preorder_eq ▸ preorder_subset (List.mem_of_getElem? found)
  exact ⟨all node (subset List.mem_cons_self),
    fun other mem => all other (subset (List.mem_cons_of_mem _ mem))⟩

/-- Whether labels tell siblings with these ids apart. -/
def Distinguishes (label : List String → Nat → String → String) (ids : List String) : Prop :=
  ∀ i j a b, ids[i]? = some a → ids[j]? = some b → label ids i a = label ids j b → i = j

/-- **Labels that tell siblings apart tell places apart.** -/
theorem place_eq_of_labels_eq {label : List String → Nat → String → String} {nodes : List Node}
    {p q : Place} (here : Distinguishes label (nodes.map Node.id))
    (inside : ∀ node ∈ preorderAll nodes, Distinguishes label (node.children.map Node.id))
    (hp : HoldsForm nodes p) (hq : HoldsForm nodes q)
    (h : labels label nodes p = labels label nodes q) : p = q := by
  induction p generalizing nodes q with
  | nil => exact hp.elim
  | cons i p ih =>
    cases q with
    | nil => exact hq.elim
    | cons j q =>
      have lengths : p.length = q.length := by
        simpa [length_labels hp, length_labels hq] using congrArg List.length h
      obtain ⟨a, foundA, atA⟩ := hp
      obtain ⟨b, foundB, atB⟩ := hq
      rw [labels_cons foundA, labels_cons foundB, List.cons.injEq] at h
      obtain rfl : i = j :=
        here i j a.id b.id (by simp [foundA]) (by simp [foundB]) h.1
      obtain rfl : a = b := Option.some.inj (foundA.symm.trans foundB)
      rcases atA with ⟨rfl, -⟩ | ⟨-, belowA⟩
      · rw [List.length_eq_zero_iff.1 lengths.symm]
      · rcases atB with ⟨rfl, -⟩ | ⟨-, belowB⟩
        · rw [List.length_eq_zero_iff.1 lengths]
        · have children := forall_of_getElem? inside foundA
          rw [ih children.1 children.2 belowA belowB h.2]

/-- **Segments tell siblings apart,** as long as no id holds an at sign. -/
theorem distinguishes_segment {ids : List String} (h : ∀ id ∈ ids, '@' ∉ id.toList) :
    Distinguishes segment ids :=
  fun _ _ a b ha hb => position_eq_of_segment_eq ha hb (h a (List.mem_of_getElem? ha))
    (h b (List.mem_of_getElem? hb))

/-- **The segments on the way to a place determine it,** as long as no id holds an at sign. -/
theorem place_eq_of_segmentsTo_eq {nodes : List Node} {p q : Place}
    (plain : ∀ node ∈ preorderAll nodes, '@' ∉ node.id.toList) (hp : HoldsForm nodes p)
    (hq : HoldsForm nodes q) (h : segmentsTo nodes p = segmentsTo nodes q) : p = q := by
  have apart (siblings : List Node) (subset : preorderAll siblings ⊆ preorderAll nodes) :
      Distinguishes segment (siblings.map Node.id) := by
    apply distinguishes_segment
    intro id mem
    obtain ⟨node, inSiblings, rfl⟩ := List.mem_map.1 mem
    exact plain node (subset (mem_preorderAll_of_mem inSiblings))
  exact place_eq_of_labels_eq (apart nodes (List.Subset.refl _))
    (fun node mem => apart node.children (children_subset_preorderAll nodes node mem)) hp hq h

theorem slash_not_mem_segmentsTo {nodes : List Node}
    (plain : ∀ node ∈ preorderAll nodes, '/' ∉ node.id.toList) (place : Place) :
    ∀ s ∈ segmentsTo nodes place, '/' ∉ s.toList := by
  induction place generalizing nodes with
  | nil => simp [segmentsTo, labels]
  | cons position place ih =>
    cases found : nodes[position]? with
    | none => simp [segmentsTo, labels, found]
    | some node =>
      have children := forall_of_getElem? plain found
      rw [segmentsTo_cons found]
      exact List.forall_mem_cons.2 ⟨slash_not_mem_segment children.1 position, ih children.2⟩

end Node

end FormCard
