import FormCard.Proofs.Opening
import Mathlib.Data.List.Induction
import Mathlib.Data.List.Nodup
import Mathlib.Data.Nat.Init

/-!
# Keys and stores over any calls

The renderer calls its arena in good order: a pass begins, opens forms, and ends.  But the arena is
a part of its own, and whoever owns one may call it in any order, open forms before any pass begins,
begin a pass twice, or end one that never began.  This module says what holds then, after any calls
whatever.

An observer of the calls writes down which keys were returned since a pass began last (`Watch`).
That is all the arena goes by.  The observer is a ghost: it has its own record and never looks into
the arena, so that what is said in its terms says something about the arena.

* `Arena.freeNumber_le`: the number that tells a form apart is not far off, since different numbers
  make different keys; `Search` says besides which candidates are tried, in what order.
* `Arena.Watch.Sound` is the invariant: what counts as opened are the keys that were returned, and
  each of them has a store.  One call keeps it (`Sound.step`), so any calls do.
* `Arena.mem_keys_after` and `Arena.eq_of_get?_after` say what one call does to the stores: which
  ones there are afterwards, and that those which were there before are as they were, unless the
  call entered a value.
* `Arena.arena_goes_by_returned_keys`: a key depends on the paths that were opened since a pass
  began, the store under it stays until a pass ends that has not returned it, and nothing but
  entering a value changes a store.

Numbers are natural numbers here, without an upper end.  The bound on the search says how large they
get: at most one more than the number of keys that were returned.
-/

namespace FormCard

namespace Arena

/-! ## 1. Free numbers -/

/-- A search that tries one number after the other, from the first of two numbers on, ends with the
second. -/
inductive Search (opened : List FormKey) (path : String) : Nat → Nat → Prop
  | stop {n : Nat} (free : numbered path n ∉ opened) : Search opened path n n
  | next {n found : Nat} (taken : numbered path n ∈ opened)
    (later : Search opened path (n + 1) found) : Search opened path n found

/-- A search ends with a number that is free if all before it are taken. -/
theorem search_of_taken {opened : List FormKey} {path : String} {start found : Nat}
    (le : start ≤ found) (free : numbered path found ∉ opened)
    (taken : ∀ m, start ≤ m → m < found → numbered path m ∈ opened) :
    Search opened path start found := by
  induction le using Nat.decreasingInduction with
  | self => exact .stop free
  | of_succ n less ih =>
    exact .next (taken n (Nat.le_refl n) less) (ih fun m le => taken m (Nat.le_of_succ_le le))

/-- A number makes a path longer. -/
theorem numbered_ne (path : String) (n : Nat) : path ≠ numbered path n := by
  intro same
  have same := congrArg String.toList same
  simp [numbered] at same

/-- **A path that was opened itself needs no number beyond one more than there are keys,** since the
keys by all numbers before are other keys than the path. -/
theorem freeNumber_le {opened : List FormKey} {path : String} (again : path ∈ opened) :
    freeNumber opened path ≤ opened.length + 1 := by
  obtain ⟨two, -, taken⟩ := freeNumber_spec opened path
  let before := (List.range (freeNumber opened path - 2)).map fun k => numbered path (k + 2)
  have nodup : (path :: before).Nodup := by
    refine List.nodup_cons.2 ⟨fun mem => ?_, List.Nodup.map (fun j k same => ?_) List.nodup_range⟩
    · obtain ⟨k, -, same⟩ := List.mem_map.1 mem
      exact numbered_ne path (k + 2) same.symm
    · exact Nat.add_right_cancel (numbered_injective same)
  have subset : ∀ key ∈ path :: before, key ∈ opened := by
    refine List.forall_mem_cons.2 ⟨again, List.forall_mem_map.2 fun k mem => ?_⟩
    have := List.mem_range.1 mem
    exact taken (k + 2) (Nat.le_add_left 2 k) (by omega)
  have := (List.subperm_of_subset nodup subset).length_le
  rw [List.length_cons, List.length_map, List.length_range] at this
  omega

/-! ## 2. Calls and their observer -/

/-- What an owner may call. -/
inductive Call where
  | beginPass
  | openForm (path : String)
  | writeField (form : Option FormKey) (field : Option String) (value : Json)
  | endPass

/-- The arena after a call. -/
def after (arena : Arena) : Call → Arena
  | .beginPass => arena.beginPass
  | .openForm path => (arena.openForm path).2
  | .writeField form field value => (arena.writeField? form field value).getD arena
  | .endPass => arena.endPass

/-- The paths that were opened since a pass began last, or ever if none did, the first one first. -/
def pathsSince (calls : List Call) : List String :=
  calls.foldl (fun paths call => match call with
    | .beginPass => []
    | .openForm path => paths ++ [path]
    | _ => paths) []

/-- An arena, and what an observer writes down. -/
structure Watch where
  arena : Arena
  /-- The keys that were returned since a pass began last, the first one first. -/
  returned : List FormKey

/-! ## 3. What one call does -/

/-- A value that is entered goes into a store that is there. -/
theorem after_writeField (arena : Arena) (form : Option FormKey) (field : Option String)
    (value : Json) :
    arena.after (.writeField form field value) = arena
    ∨ ∃ key store name, arena.stores.get? key = some store
      ∧ arena.after (.writeField form field value)
        = { arena with stores := arena.stores.insert key (store.update name value) } := by
  cases form with
  | none => exact .inl rfl
  | some key =>
    cases found : arena.stores.get? key with
    | none => exact .inl (by simp [after, writeField?, found])
    | some store =>
      cases field with
      | none => exact .inl (by simp [after, writeField?])
      | some name => exact .inr ⟨key, store, name, found, by simp [after, writeField?, found]⟩

theorem opened_writeField (arena : Arena) (form : Option FormKey) (field : Option String)
    (value : Json) : (arena.after (.writeField form field value)).opened = arena.opened := by
  rcases arena.after_writeField form field value with eq | ⟨key, store, name, -, eq⟩
  · rw [eq]
  · rw [eq]

/-- **A store comes with an opened form, and goes at the end of a pass that did not open it.** -/
theorem mem_keys_after (arena : Arena) (call : Call) (key : FormKey) :
    key ∈ (arena.after call).stores.keys
      ↔ (∃ path, call = .openForm path ∧ (arena.openForm path).1 = key)
        ∨ key ∈ arena.stores.keys ∧ (call = .endPass → key ∈ arena.opened) := by
  simp only [Dict.mem_keys]
  cases call with
  | beginPass => simp [after, beginPass]
  | openForm path =>
    rw [after, get?_openForm]
    by_cases own : key = freshKey arena.opened path
    · simp [own]
    · simp [own, Ne.symm own]
  | writeField form field value =>
    rcases arena.after_writeField form field value with eq | ⟨other, store, name, found, eq⟩
    · simp [eq]
    · rw [eq, Dict.get?_insert]
      by_cases same : other = key
      · simp [← same, found]
      · simp [same]
  | endPass =>
    rw [after, get?_endPass]
    by_cases opened : key ∈ arena.opened
    · simp [opened]
    · simp [opened]

/-- **No call but entering a value changes a store.** -/
theorem eq_of_get?_after {arena : Arena} {call : Call}
    (quiet : ∀ form field value, call ≠ .writeField form field value) {key : FormKey}
    {store store' : Store} (before : arena.stores.get? key = some store)
    (later : (arena.after call).stores.get? key = some store') : store' = store := by
  cases call with
  | beginPass => exact Option.some.inj (later.symm.trans before)
  | openForm path =>
    rw [after, get?_openForm, before] at later
    split at later
    · exact (Option.some.inj later).symm
    · exact (Option.some.inj later).symm
  | writeField form field value => exact absurd rfl (quiet form field value)
  | endPass =>
    rw [after, get?_endPass] at later
    split at later
    · exact Option.some.inj (later.symm.trans before)
    · exact absurd later (Option.some_ne_none store').symm

namespace Watch

/-- One call further. -/
def step (watch : Watch) (call : Call) : Watch where
  arena := watch.arena.after call
  returned := match call with
    | .beginPass => []
    | .openForm path => watch.returned ++ [(watch.arena.openForm path).1]
    | _ => watch.returned

/-- A new arena after calls. -/
def play (calls : List Call) : Watch := calls.foldl step ⟨.empty, []⟩

theorem play_concat (calls : List Call) (call : Call) :
    play (calls ++ [call]) = (play calls).step call := by
  rw [play, List.foldl_append]
  rfl

/-- The arena goes by the keys that were returned. -/
structure Sound (watch : Watch) : Prop where
  opened : watch.arena.opened = watch.returned.reverse
  stored : ∀ key ∈ watch.returned, key ∈ watch.arena.stores.keys

theorem Sound.mem_opened {watch : Watch} (h : watch.Sound) {key : FormKey} :
    key ∈ watch.arena.opened ↔ key ∈ watch.returned := by
  rw [h.opened, List.mem_reverse]

/-- **Each call leaves what counts as opened in step with what was returned.** -/
theorem Sound.step {watch : Watch} (h : watch.Sound) (call : Call) : (watch.step call).Sound := by
  have kept (key : FormKey) (mem : key ∈ watch.returned) :
      key ∈ (watch.arena.after call).stores.keys :=
    (mem_keys_after _ _ _).2 (.inr ⟨h.stored key mem, fun _ => h.mem_opened.2 mem⟩)
  cases call with
  | beginPass => exact ⟨rfl, fun key mem => absurd mem List.not_mem_nil⟩
  | openForm path =>
    constructor
    · change freshKey watch.arena.opened path :: watch.arena.opened
        = (watch.returned ++ [freshKey watch.arena.opened path]).reverse
      rw [List.reverse_append, ← h.opened]
      rfl
    · intro key mem
      rcases List.mem_append.1 mem with earlier | own
      · exact kept key earlier
      · exact (mem_keys_after _ _ _).2 (.inl ⟨path, rfl, (List.mem_singleton.1 own).symm⟩)
  | writeField form field value =>
    exact ⟨(watch.arena.opened_writeField form field value).trans h.opened, kept⟩
  | endPass => exact ⟨h.opened, kept⟩

/-- **When a pass ends, the stores are those of the keys that were returned.** -/
theorem Sound.mem_keys_endPass {watch : Watch} (h : watch.Sound) {key : FormKey} :
    key ∈ (watch.step .endPass).arena.stores.keys ↔ key ∈ watch.returned := by
  refine (mem_keys_after _ _ _).trans ⟨?_, fun mem => .inr ⟨h.stored key mem, fun _ => ?_⟩⟩
  · rintro (⟨path, other, -⟩ | ⟨-, ends⟩)
    · cases other
    · exact h.mem_opened.1 (ends rfl)
  · exact h.mem_opened.2 mem

/-! ## 4. What all calls do -/

theorem sound_play (calls : List Call) : (play calls).Sound := by
  induction calls using List.reverseRecOn with
  | nil => exact ⟨rfl, fun key mem => absurd mem List.not_mem_nil⟩
  | append_singleton calls call ih =>
    rw [play_concat]
    exact ih.step call

/-- **The keys that were returned are known from the paths,** whatever stores were there. -/
theorem returned_play (calls : List Call) :
    (play calls).returned = keysFor [] (pathsSince calls) := by
  induction calls using List.reverseRecOn with
  | nil => rfl
  | append_singleton calls call ih =>
    rw [play_concat, pathsSince, List.foldl_append]
    cases call with
    | beginPass => rfl
    | openForm path =>
      change (play calls).returned ++ [freshKey (play calls).arena.opened path]
        = keysFor [] (pathsSince calls ++ [path])
      rw [(sound_play calls).opened, keysFor_concat, ← ih, List.append_nil]
    | writeField form field value => exact ih
    | endPass => exact ih

/-- A key was returned, and each pass that ended since then has returned it. -/
def Outlasts (calls : List Call) (key : FormKey) : Prop :=
  ∃ before path behind, calls = before ++ .openForm path :: behind
    ∧ ((play before).arena.openForm path).1 = key
    ∧ ∀ inner outer, behind = inner ++ .endPass :: outer →
      key ∈ (play (before ++ .openForm path :: inner)).returned

theorem outlasts_concat_iff {calls : List Call} {call : Call} {key : FormKey} :
    Outlasts (calls ++ [call]) key
      ↔ (∃ path, call = .openForm path ∧ ((play calls).arena.openForm path).1 = key)
        ∨ Outlasts calls key ∧ (call = .endPass → key ∈ (play calls).returned) := by
  constructor
  · rintro ⟨before, path, behind, split, own, ends⟩
    rcases List.eq_nil_or_concat behind with rfl | ⟨behind, last, rfl⟩
    · obtain ⟨rfl, same⟩ := List.append_inj' split rfl
      exact .inl ⟨path, List.singleton_inj.1 same, own⟩
    · rw [List.concat_eq_append, ← List.cons_append, ← List.append_assoc] at split
      obtain ⟨rfl, same⟩ := List.append_inj' split rfl
      obtain rfl : call = last := List.singleton_inj.1 same
      refine .inr ⟨⟨before, path, behind, rfl, own, fun inner outer eq => ?_⟩, ?_⟩
      · exact ends inner (outer ++ [call]) (by simp [eq])
      · rintro rfl
        exact ends behind [] (by simp)
  · rintro (⟨path, rfl, own⟩ | ⟨⟨before, path, behind, rfl, own, ends⟩, last⟩)
    · exact ⟨calls, path, [], rfl, own, fun inner outer eq => by simp at eq⟩
    · refine ⟨before, path, behind ++ [call], by simp, own, fun inner outer eq => ?_⟩
      rcases List.eq_nil_or_concat outer with rfl | ⟨outer, other, rfl⟩
      · obtain ⟨rfl, same⟩ := List.append_inj' eq rfl
        exact last (List.singleton_inj.1 same)
      · rw [List.concat_eq_append, ← List.cons_append, ← List.append_assoc] at eq
        exact ends inner outer (List.append_inj' eq rfl).1

/-- **The stores are those of the keys that outlast the calls.** -/
theorem mem_keys_play (calls : List Call) (key : FormKey) :
    key ∈ (play calls).arena.stores.keys ↔ Outlasts calls key := by
  induction calls using List.reverseRecOn with
  | nil =>
    refine iff_of_false List.not_mem_nil ?_
    rintro ⟨before, path, behind, split, -⟩
    simp at split
  | append_singleton calls call ih =>
    rw [outlasts_concat_iff, ← ih, play_concat, ← (sound_play calls).mem_opened]
    exact mem_keys_after _ _ _

end Watch

/-! ## 5. Main statement -/

open Watch in
/-- **An arena goes by the keys that it returned since a pass began.**  Whatever was called and in
which order, a path is its own key if that key was not returned since then.  Otherwise a search that
tries the numbers from two on ends, within one more than there are such keys, with the least number
whose key was not returned.  So the keys are distinct, and they depend on nothing but the paths that
were opened since the pass began.

There is a store under a key exactly if the key was returned and no pass ended since then without
returning it.  When a pass ends, the stores are those of the keys that were returned, and no call
but entering a value changes a store that remains. -/
theorem arena_goes_by_returned_keys (calls : List Call) :
    let watch := play calls
    (∀ path, let key := (watch.arena.openForm path).1
      (path ∉ watch.returned → key = path)
      ∧ (path ∈ watch.returned → ∃ n, Search watch.returned path 2 n
        ∧ n ≤ watch.returned.length + 1 ∧ key = numbered path n ∧ key ∉ watch.returned
        ∧ ∀ m, 2 ≤ m → m < n → numbered path m ∈ watch.returned))
    ∧ watch.returned.Nodup
    ∧ (∀ others, pathsSince others = pathsSince calls → (play others).returned = watch.returned)
    ∧ (∀ key, key ∈ watch.arena.stores.keys ↔ Outlasts calls key)
    ∧ (play (calls ++ [.endPass])).arena.stores.keys.Perm watch.returned
    ∧ ∀ call, (∀ form field value, call ≠ .writeField form field value) →
      ∀ key store store', watch.arena.stores.get? key = some store →
        (play (calls ++ [call])).arena.stores.get? key = some store' → store' = store := by
  intro watch
  have sound : watch.Sound := sound_play calls
  have returned : watch.returned = keysFor [] (pathsSince calls) := returned_play calls
  have nodup : watch.returned.Nodup := returned ▸ nodup_keysFor [] _
  refine ⟨fun path => ⟨fun new => ?_, fun again => ?_⟩, nodup, fun others same => ?_,
    mem_keys_play calls, ?_, fun call quiet key store store' before later => ?_⟩
  · exact freshKey_of_not_mem (mt sound.mem_opened.1 new)
  · obtain ⟨two, free, taken⟩ := freeNumber_spec watch.arena.opened path
    have bound := freeNumber_le (sound.mem_opened.2 again)
    have length : watch.arena.opened.length = watch.returned.length := by
      rw [sound.opened, List.length_reverse]
    simp only [sound.mem_opened] at free taken
    have key : (watch.arena.openForm path).1
        = numbered path (freeNumber watch.arena.opened path) := if_pos (sound.mem_opened.2 again)
    exact ⟨_, search_of_taken two free taken, length ▸ bound, key, key ▸ free, taken⟩
  · rw [returned, returned_play, same]
  · rw [List.perm_ext_iff_of_nodup (Dict.nodup_keys _) nodup]
    intro key
    rw [play_concat, sound.mem_keys_endPass]
  · rw [play_concat] at later
    exact eq_of_get?_after quiet before later

/-- A path that looks like the key of another is told apart from it, whichever comes first. -/
example :
    (Watch.play [.openForm "a", .openForm "a", .openForm "a#2"]).returned = ["a", "a#2", "a#2#2"]
    ∧ (Watch.play [.openForm "a", .openForm "a#2", .openForm "a"]).returned
      = ["a", "a#2", "a#3"] := by decide

end Arena

end FormCard
