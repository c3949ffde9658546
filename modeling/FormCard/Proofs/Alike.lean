import FormCard.View.Encode
import Mathlib.Data.List.Forall2

/-!
# JSON values that say the same

Two values of JSON may be different and yet say the same to whoever reads them.  Two JSON values say
the same if they differ at most in the order of the members of objects, and in numbers that a
comparison takes for the same.  Objects are compared by what is found under each key, so a member
that is hidden behind another one of its key does not count.  What is said here is about values
only, and `FormCard.Proofs.Lossless` uses it for those of outputs.

* `Json.alike_object_cons` and `Json.alike_object_member?` compare objects member by member, where
  the members have keys of their own.  They turn the definition, which speaks of all keys, into one
  condition for each member.
* `Json.Keyed` says of a value that this is so in every object inside: no key is there twice.
* `Json.Telling` is a way to write values as JSON values that say the same only for the same value.
  It passes from a writer to lists and to options of what it writes.
-/

namespace FormCard.Json

/-! ## 1. Values that say the same -/

/-- A way to compare numbers, such as by their texts, or by their values so that both zeros are the
same.  It may take different numbers for the same, but no two natural numbers. -/
structure Comparison where
  Same : Number → Number → Prop
  natural_iff : ∀ m n, Same (.natural m) (.natural n) ↔ m = n

/-- Numbers compared for identity. -/
def Comparison.exact : Comparison := ⟨Eq, fun _ _ => by rw [Number.natural.injEq]⟩

/-- Two values say the same. -/
inductive Alike (comparison : Comparison) : Json → Json → Prop
  | null : Alike comparison null null
  | bool (b : Bool) : Alike comparison (bool b) (bool b)
  | number {m n : Number} (same : comparison.Same m n) : Alike comparison (number m) (number n)
  | string (s : String) : Alike comparison (string s) (string s)
  | array {items others : List Json} (each : List.Forall₂ (Alike comparison) items others) :
    Alike comparison (array items) (array others)
  | object {members others : List (String × Json)}
      (each : ∀ key, Option.Rel (Alike comparison) (members.lookup key) (others.lookup key)) :
    Alike comparison (object members) (object others)

variable {comparison : Comparison}

@[simp] theorem alike_bool {b b' : Bool} : Alike comparison (.bool b) (.bool b') ↔ b = b' := by
  constructor
  · rintro ⟨⟩
    rfl
  · rintro rfl
    exact .bool b

@[simp] theorem alike_number {m n : Number} :
    Alike comparison (.number m) (.number n) ↔ comparison.Same m n := by
  constructor
  · rintro ⟨⟩
    assumption
  · exact .number

@[simp] theorem alike_string {s t : String} :
    Alike comparison (.string s) (.string t) ↔ s = t := by
  constructor
  · rintro ⟨⟩
    rfl
  · rintro rfl
    exact .string s

@[simp] theorem alike_array {items others : List Json} :
    Alike comparison (.array items) (.array others)
      ↔ List.Forall₂ (Alike comparison) items others := by
  constructor
  · rintro ⟨⟩
    assumption
  · exact .array

theorem alike_object {members others : List (String × Json)} :
    Alike comparison (.object members) (.object others)
      ↔ ∀ key, Option.Rel (Alike comparison) (members.lookup key) (others.lookup key) := by
  constructor
  · rintro ⟨⟩
    assumption
  · exact .object

/-! ## 2. Objects, member by member -/

section Members

variable {key : String} {members others : List (String × Json)}

@[simp] theorem mem_keys_member? {own : String} {value : Option Json} :
    key ∈ (member? own value).map Prod.fst ↔ key = own ∧ value.isSome = true := by
  cases value <;> simp [member?]

@[simp] theorem alike_object_nil : Alike comparison (.object []) (.object []) :=
  .object fun _ => .none

/-- **Objects are compared member by member,** also where a member may be left out: that it is there
in one object only tells the objects apart, because no other member has its key. -/
@[simp] theorem alike_object_member? {value value' : Option Json}
    (free : key ∉ members.map Prod.fst) (free' : key ∉ others.map Prod.fst) :
    Alike comparison (.object (member? key value ++ members))
        (.object (member? key value' ++ others))
      ↔ Option.Rel (Alike comparison) value value'
        ∧ Alike comparison (.object members) (.object others) := by
  have free := Members.lookup_eq_none free
  have free' := Members.lookup_eq_none free'
  simp only [alike_object, List.lookup_append, lookup_member?]
  constructor
  · intro each
    refine ⟨?_, fun other => ?_⟩
    · simpa [free, free'] using each key
    · by_cases own : key = other
      · rw [← own, free, free']
        exact .none
      · simpa [own] using each other
  · rintro ⟨first, each⟩ other
    by_cases own : key = other
    · simpa [← own, free, free'] using first
    · simpa [own] using each other

@[simp] theorem alike_object_single? {value value' : Option Json} :
    Alike comparison (.object (member? key value)) (.object (member? key value'))
      ↔ Option.Rel (Alike comparison) value value' := by
  have single := @alike_object_member? comparison key [] [] value value' List.not_mem_nil
    List.not_mem_nil
  rwa [List.append_nil, List.append_nil, and_iff_left alike_object_nil] at single

@[simp] theorem alike_object_cons {value value' : Json} (free : key ∉ members.map Prod.fst)
    (free' : key ∉ others.map Prod.fst) :
    Alike comparison (.object ((key, value) :: members)) (.object ((key, value') :: others))
      ↔ Alike comparison value value' ∧ Alike comparison (.object members) (.object others) := by
  have single := @alike_object_member? comparison key members others (some value) (some value')
    free free'
  rw [Option.rel_some_some] at single
  exact single

end Members

/-! ## 3. Objects without repeated keys -/

/-- A value in which no object has a key twice, however deep it stands. -/
inductive Keyed : Json → Prop
  | null : Keyed null
  | bool (b : Bool) : Keyed (bool b)
  | number (n : Number) : Keyed (number n)
  | string (s : String) : Keyed (string s)
  | array {items : List Json} (each : ∀ item ∈ items, Keyed item) : Keyed (array items)
  | object {members : List (String × Json)} (once : (members.map Prod.fst).Nodup)
      (each : ∀ member ∈ members, Keyed member.2) : Keyed (object members)

attribute [simp] Keyed.bool Keyed.number Keyed.string

@[simp] theorem keyed_array {items : List Json} :
    Keyed (.array items) ↔ ∀ item ∈ items, Keyed item := by
  constructor
  · rintro ⟨⟩
    assumption
  · exact .array

section Members

variable {key : String} {members : List (String × Json)}

@[simp] theorem keyed_object_nil : Keyed (.object []) := .object .nil (by simp)

@[simp] theorem keyed_object_cons {value : Json} (free : key ∉ members.map Prod.fst) :
    Keyed (.object ((key, value) :: members)) ↔ Keyed value ∧ Keyed (.object members) := by
  constructor
  · rintro ⟨⟩
    rename_i once each
    have others := List.forall_mem_cons.1 each
    exact ⟨others.1, .object once.of_cons others.2⟩
  · rintro ⟨first, ⟨⟩⟩
    rename_i once each
    exact .object (List.nodup_cons.2 ⟨free, once⟩) (List.forall_mem_cons.2 ⟨first, each⟩)

@[simp] theorem keyed_object_member? {value : Option Json} (free : key ∉ members.map Prod.fst) :
    Keyed (.object (member? key value ++ members))
      ↔ (∀ own ∈ value, Keyed own) ∧ Keyed (.object members) := by
  cases value with
  | none => simp [member?]
  | some value => simp [member?, keyed_object_cons free]

@[simp] theorem keyed_object_single? {value : Option Json} :
    Keyed (.object (member? key value)) ↔ ∀ own ∈ value, Keyed own := by
  have single := @keyed_object_member? key [] value List.not_mem_nil
  rwa [List.append_nil, and_iff_left keyed_object_nil] at single

end Members

/-! ## 4. Ways to write values -/

/-- A way to write values as JSON values that say the same for the same value only. -/
def Telling {α : Type} (write : α → Json) : Prop :=
  ∀ comparison a b, Alike comparison (write a) (write b) ↔ a = b

namespace Telling

variable {α : Type} {write : α → Json}

/-- An option of such a value, written as a member that is left out or not. -/
theorem option (tells : Telling write) {a b : Option α} :
    Option.Rel (Alike comparison) (a.map write) (b.map write) ↔ a = b := by
  cases a <;> cases b <;> simp [tells comparison]

theorem text : Telling Json.string := fun _ _ _ => alike_string

end Telling

theorem alike_ofNat {m n : Nat} (small : m < UInt64.size) (small' : n < UInt64.size) :
    Alike comparison (.ofNat m) (.ofNat n) ↔ m = n := by
  rw [ofNat, ofNat, alike_number, comparison.natural_iff]
  constructor
  · intro same
    have held := congrArg UInt64.toNat same
    rwa [Nat.toUInt64_eq, Nat.toUInt64_eq, UInt64.toNat_ofNat_of_lt' small,
      UInt64.toNat_ofNat_of_lt' small'] at held
  · exact congrArg Nat.toUInt64

end FormCard.Json
