import FormCard.Form.Arena
import Mathlib.Data.List.Nodup
import Mathlib.Data.List.Perm.Subperm

/-!
# Opening forms one after the other

A pass opens forms in the order of the document, and the arena hands out a key for each.  This
module says what comes of a whole list of such calls, for a pass is known by the paths that it opens
and by nothing else.

The keys depend on the paths alone: `keysFor` computes them from the keys opened so far, without
looking at any store.  So what is said about keys needs no arena, and what is said about the arena
(`openAll`) needs the keys only.

First the search for a number has to be justified.  It tries one candidate more than there are
opened keys.  Different numbers make different keys, so not all of the candidates can be taken, and
the search ends with the least one that is free (`freeNumber_spec`).

Main statements: keys handed out in one pass are distinct (`nodup_keysFor`) and are the paths
themselves exactly if the paths are distinct (`keysFor_nil_eq_self_iff`); and opening forms keeps
every store that is there and adds an empty one where there is none (`get?_openAll`).  All of them
are inductions along the list of paths, with the keys opened so far as a parameter.
-/

namespace FormCard.Arena

/-! ## 1. Free keys -/

theorem numbered_injective {path : String} {m n : Nat} (h : numbered path m = numbered path n) :
    m = n := by
  have h := congrArg String.toList h
  simp only [numbered, String.toList_append, List.append_cancel_left_eq] at h
  exact Decimal.text_injective (String.toList_inj.1 h)

/-- Among one more numbers than there are opened keys, one is free. -/
theorem exists_free (opened : List FormKey) (path : String) :
    ∃ n ∈ (List.range (opened.length + 1)).map (· + 2), numbered path n ∉ opened := by
  by_contra none
  have all : ∀ n ∈ (List.range (opened.length + 1)).map (· + 2), numbered path n ∈ opened :=
    fun n mem => by_contra fun free => none ⟨n, mem, free⟩
  have nodup : (((List.range (opened.length + 1)).map (· + 2)).map (numbered path)).Nodup :=
    (List.nodup_range.map fun _ _ => Nat.add_right_cancel).map fun _ _ => numbered_injective
  have := (List.subperm_of_subset nodup (List.forall_mem_map.2 all)).length_le
  simp only [List.length_map, List.length_range] at this
  omega

/-- **The number that is found is the least one from two on that is free.** -/
theorem freeNumber_spec (opened : List FormKey) (path : String) :
    2 ≤ freeNumber opened path ∧ numbered path (freeNumber opened path) ∉ opened
    ∧ ∀ m, 2 ≤ m → m < freeNumber opened path → numbered path m ∈ opened := by
  obtain ⟨n, mem, free⟩ := exists_free opened path
  cases found : ((List.range (opened.length + 1)).map (· + 2)).find?
      fun n => decide (numbered path n ∉ opened) with
  | none => exact absurd free (by simpa using List.find?_eq_none.1 found n mem)
  | some least =>
    have eq : freeNumber opened path = least := by rw [freeNumber, found, Option.getD_some]
    rw [List.find?_map, Option.map_eq_some_iff] at found
    obtain ⟨k, found, rfl⟩ := found
    obtain ⟨good, -, before⟩ := List.find?_range_eq_some.1 found
    rw [eq]
    refine ⟨Nat.le_add_left 2 k, by simpa using good, fun m le less => ?_⟩
    have := before (m - 2) (by omega)
    rw [Function.comp_apply, Nat.sub_add_cancel le] at this
    simpa using this

/-- **A form never gets a key that was opened before in the pass.** -/
theorem freshKey_not_mem (opened : List FormKey) (path : String) :
    freshKey opened path ∉ opened := by
  unfold freshKey
  split
  · exact (freeNumber_spec opened path).2.1
  · assumption

theorem freshKey_of_not_mem {opened : List FormKey} {path : String} (h : path ∉ opened) :
    freshKey opened path = path := if_neg h

/-! ## 2. Keys for a list of paths -/

/-- The keys of forms that are opened one after the other, behind those that were opened before. -/
def keysFor (opened : List FormKey) : List String → List FormKey
  | [] => []
  | path :: paths => freshKey opened path :: keysFor (freshKey opened path :: opened) paths

/-- No key is handed out that was opened before. -/
theorem not_mem_of_mem_keysFor {opened : List FormKey} {paths : List String} {key : FormKey}
    (h : key ∈ keysFor opened paths) : key ∉ opened := by
  induction paths generalizing opened with
  | nil => exact absurd h (List.not_mem_nil)
  | cons path paths ih =>
    rcases List.mem_cons.1 h with rfl | h
    · exact freshKey_not_mem opened path
    · exact fun again => ih h (List.mem_cons_of_mem _ again)

/-- **No key is handed out twice.** -/
theorem nodup_keysFor (opened : List FormKey) (paths : List String) :
    (keysFor opened paths).Nodup := by
  induction paths generalizing opened with
  | nil => exact List.nodup_nil
  | cons path paths ih =>
    exact List.nodup_cons.2 ⟨fun h => not_mem_of_mem_keysFor h List.mem_cons_self, ih _⟩

/-- **The last of some forms gets its key behind the keys of the others.** -/
theorem keysFor_concat (opened : List FormKey) (paths : List String) (path : String) :
    keysFor opened (paths ++ [path])
      = keysFor opened paths ++ [freshKey ((keysFor opened paths).reverse ++ opened) path] := by
  induction paths generalizing opened with
  | nil => rfl
  | cons first paths ih => simp [keysFor, ih]

/-! ## 3. When keys are paths -/

theorem keysFor_eq_self {opened : List FormKey} {paths : List String} (nodup : paths.Nodup)
    (apart : ∀ path ∈ paths, path ∉ opened) : keysFor opened paths = paths := by
  induction paths generalizing opened with
  | nil => rfl
  | cons path paths ih =>
    have fresh : freshKey opened path = path := freshKey_of_not_mem (apart path List.mem_cons_self)
    have later : ∀ other ∈ paths, other ∉ path :: opened := by
      intro other mem again
      rcases List.mem_cons.1 again with rfl | again
      · exact (List.nodup_cons.1 nodup).1 mem
      · exact apart other (List.mem_cons_of_mem _ mem) again
    rw [keysFor, fresh, ih (List.nodup_cons.1 nodup).2 later]

/-- **A pass numbers no key exactly if the paths that it opens are distinct.** -/
theorem keysFor_nil_eq_self_iff {paths : List String} : keysFor [] paths = paths ↔ paths.Nodup :=
  ⟨fun h => h ▸ nodup_keysFor [] paths,
    fun nodup => keysFor_eq_self nodup fun _ _ => List.not_mem_nil⟩

/-! ## 4. The arena after a list of paths -/

/-- Opens forms one after the other. -/
def openAll (arena : Arena) (paths : List String) : Arena :=
  paths.foldl (fun arena path => (arena.openForm path).2) arena

@[simp] theorem openAll_nil (arena : Arena) : arena.openAll [] = arena := rfl

@[simp] theorem openAll_cons (arena : Arena) (path : String) (paths : List String) :
    arena.openAll (path :: paths) = (arena.openForm path).2.openAll paths := rfl

theorem openAll_append (arena : Arena) (paths more : List String) :
    arena.openAll (paths ++ more) = (arena.openAll paths).openAll more :=
  List.foldl_append

@[simp] theorem openForm_key (arena : Arena) (path : String) :
    (arena.openForm path).1 = freshKey arena.opened path := rfl

@[simp] theorem opened_openForm (arena : Arena) (path : String) :
    (arena.openForm path).2.opened = freshKey arena.opened path :: arena.opened := rfl

/-- The keys that count as opened are the ones handed out, the last one first. -/
theorem opened_openAll (arena : Arena) (paths : List String) :
    (arena.openAll paths).opened = (keysFor arena.opened paths).reverse ++ arena.opened := by
  induction paths generalizing arena with
  | nil => rfl
  | cons path paths ih => simp [keysFor, ih]

/-- **Opening a form keeps the store under its key,** and makes an empty one if there is none. -/
theorem get?_openForm (arena : Arena) (path : String) (key : FormKey) :
    (arena.openForm path).2.stores.get? key
      = if key = freshKey arena.opened path then some ((arena.stores.get? key).getD .empty)
        else arena.stores.get? key := by
  by_cases own : key = freshKey arena.opened path
  · subst own
    cases found : arena.stores.get? (freshKey arena.opened path) with
    | none => simp [openForm, Dict.contains, found]
    | some store => simp [openForm, Dict.contains, found]
  · rw [if_neg own]
    simp only [openForm]
    split
    · rfl
    · exact Dict.get?_insert_ne _ (Ne.symm own) _

/-- **Opening forms keeps the stores under their keys,** and makes empty ones where there are
none. -/
theorem get?_openAll (arena : Arena) (paths : List String) (key : FormKey) :
    (arena.openAll paths).stores.get? key
      = if key ∈ keysFor arena.opened paths then some ((arena.stores.get? key).getD .empty)
        else arena.stores.get? key := by
  induction paths generalizing arena with
  | nil => simp [keysFor]
  | cons path paths ih =>
    rw [openAll_cons, ih, opened_openForm, get?_openForm, keysFor]
    by_cases first : key = freshKey arena.opened path
    · -- its key is not handed out again, and the store it has by then stays
      simp [first]
    · simp [first]

end FormCard.Arena
