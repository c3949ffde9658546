/-!
# Members

The members of a JSON object, the properties of a component and the entries of a table of settings
are values under keys, in an order that counts, for what is printed comes in the order in which it
was read.  They are lists of pairs, and they are looked up as lists are: the first member with a key
is found.

An object is read by setting one member after the other.  A key that comes again keeps its first
place and gets its last value (`set`), which is what the program's maps do.
-/

namespace FormCard.Members

variable {α : Type}

/-- Gives the member `key` a value: in place if there is one, and at the end otherwise. -/
def set (key : String) (value : α) : List (String × α) → List (String × α)
  | [] => [(key, value)]
  | (k, v) :: rest => if k = key then (k, value) :: rest else (k, v) :: set key value rest

/-- Removes the members called `key`. -/
def erase (key : String) (members : List (String × α)) : List (String × α) :=
  members.filter fun member => member.1 != key

/-- The first member decides, if it has the key that is looked up. -/
theorem lookup_cons (key own : String) (value : α) (members : List (String × α)) :
    ((own, value) :: members).lookup key
      = if own = key then some value else members.lookup key := by
  by_cases same : own = key
  · simp [same]
  · rw [List.lookup_cons, if_neg same, beq_eq_false_iff_ne.2 (Ne.symm same)]

/-- A key that no member has is not found. -/
theorem lookup_eq_none {key : String} {members : List (String × α)}
    (free : key ∉ members.map Prod.fst) : members.lookup key = none :=
  List.lookup_eq_none_iff.2 fun member mem =>
    bne_iff_ne.2 fun same => free (List.mem_map.2 ⟨member, mem, same.symm⟩)

end FormCard.Members
