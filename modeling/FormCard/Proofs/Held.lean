import FormCard.Proofs.Run
import Mathlib.Data.List.Sort

/-!
# What a pass depends on

Many properties of the renderer compare two passes: after different histories, with and without an
edit, over cards that differ in one place.  The comparison is awkward as long as a pass is seen as
it runs, since it reads the stores of forms while it opens forms.  This module takes the two apart.

Opening changes nothing that can be read: a form without a store reads as one that nothing was
entered into, and that is the store it is given.  So a pass shows what the forms held before it
(`Arena.held`), whichever of them were opened by then, and two passes over one card can be compared
without following them.

* `alike_viewNode`: the keys that are handed out and the bindings that are noted depend neither on
  what forms hold nor on colors.
* `view_viewNode_congr`: a view depends only on what the forms that the pass opens hold.  Fields
  outside of forms show nothing, and a field inside one shows what its own form holds.
* `Renderer.renderCard_congr` and `Renderer.arena_renderCard_congr` say so of whole cards: output,
  stores and bindings.

Desks of the two passes are related by `Desk.Alike` and `Desk.AgreeOn`, and the inductions carry the
relation from one component to the next.
-/

namespace FormCard

/-! ## 1. What forms hold -/

/-- **Dictionaries that answer every look-up alike are equal,** since the keys are in order. -/
theorem Dict.ext_get? {α : Type} {d e : Dict α} (h : ∀ key, d.get? key = e.get? key) : d = e := by
  have entries : d.entries = e.entries := d.sorted.eq_of_mem_iff e.sorted fun entry => by
    rw [← get?_eq_some_iff, ← get?_eq_some_iff, h]
  cases d
  cases e
  cases entries
  rfl

namespace Arena

/-- Arenas with the same stores and the same opened keys are equal. -/
theorem ext_get? {arena other : Arena} (opened : arena.opened = other.opened)
    (stores : ∀ key, arena.stores.get? key = other.stores.get? key) : arena = other := by
  have same : arena.stores = other.stores := Dict.ext_get? stores
  cases arena
  cases other
  cases opened
  cases same
  rfl

/-- What a form holds; without a store it holds nothing yet. -/
def held (arena : Arena) (key : FormKey) : Store := (arena.stores.get? key).getD .empty

/-- **Opening forms changes nothing that any form holds.** -/
@[simp] theorem held_openAll (arena : Arena) (paths : List String) (key : FormKey) :
    (arena.openAll paths).held key = arena.held key := by
  unfold held
  rw [get?_openAll]
  split
  · rfl
  · rfl

theorem held_openForm (arena : Arena) (path : String) (key : FormKey) :
    (arena.openForm path).2.held key = arena.held key :=
  held_openAll arena [path] key

/-- The state that is shown is the state of what the form holds. -/
theorem stateOf_eq (arena : Arena) (key : FormKey) :
    arena.stateOf key = (arena.held key).state := by
  unfold stateOf held
  cases arena.stores.get? key with
  | none => rfl
  | some store => rfl

/-- The text of a field is read off what its form holds. -/
theorem readField_eq (arena : Arena) (form : Option FormKey) (field : Option String) :
    arena.readField form field
      = (form.bind fun key => field.map (arena.held key).text).getD "" := by
  unfold readField held
  cases form with
  | none => rfl
  | some key =>
    cases found : arena.stores.get? key with
    | none =>
      -- a field of an empty store shows nothing, as a field without a store does
      have nothing (name : String) : Store.empty.text name = "" := rfl
      cases field <;> simp [found, nothing]
    | some store => cases field <;> simp [found]

end Arena

/-! ## 2. Keys and bindings -/

namespace Desk

/-- Desks with the same keys handed out and the same bindings noted. -/
structure Alike (desk other : Desk) : Prop where
  opened : desk.arena.opened = other.arena.opened
  bindings : desk.bindings = other.bindings

theorem Alike.note {desk other : Desk} (h : desk.Alike other) (id : String) (binding : Binding) :
    (desk.note id binding).Alike (other.note id binding) :=
  ⟨h.opened, congrArg (Dict.insert · id binding) h.bindings⟩

/-- The same form gets the same key, and then both desks have it. -/
theorem Alike.open {desk other : Desk} (h : desk.Alike other) (path : String) :
    (desk.arena.openForm path).1 = (other.arena.openForm path).1
    ∧ Alike { desk with arena := (desk.arena.openForm path).2 }
      { other with arena := (other.arena.openForm path).2 } := by
  have key : (desk.arena.openForm path).1 = (other.arena.openForm path).1 := by
    rw [Arena.openForm_key, Arena.openForm_key, h.opened]
  refine ⟨key, ?_, h.bindings⟩
  simp only [Arena.opened_openForm, h.opened]

end Desk

mutual

/-- **What a pass opens and notes depends on the keys handed out before,** not on what forms hold
and not on colors. -/
theorem alike_viewNode (theme theme' : Theme) :
    (node : Node) → (scope : Option Scope) → (path : String) → (desk other : Desk) →
      desk.Alike other →
      (viewNode theme scope path node desk).2.Alike (viewNode theme' scope path node other).2
  | ⟨id, kind, props, style, children, field⟩, scope, path, desk, other, alike => by
    cases role : kind.role with
    | region =>
      simp only [viewNode, role]
      exact alike_viewAll theme theme' children _ scope desk other alike
    | grid =>
      simp only [viewNode, role]
      exact alike_viewAll theme theme' children _ scope desk other alike
    | form =>
      obtain ⟨key, after⟩ := alike.open path
      simp only [viewNode, role, key]
      exact alike_viewAll theme theme' children _ _ _ _ after
    | display display => simpa only [viewNode, role] using alike
    | editor editor => simpa only [viewNode, role] using alike.note id _
    | button => simpa only [viewNode, role] using alike.note id _
    | unsupported => simpa only [viewNode, role] using alike

theorem alike_viewAll (theme theme' : Theme) :
    (nodes : List Node) → (paths : List String) → (scope : Option Scope) → (desk other : Desk) →
      desk.Alike other →
      (viewAll theme scope nodes paths desk).2.Alike (viewAll theme' scope nodes paths other).2
  | node :: nodes, path :: paths, scope, desk, other, alike => by
    simp only [viewAll]
    have first := alike_viewNode theme theme' node scope path desk other alike
    exact alike_viewAll theme theme' nodes paths scope _ _ first
  | [], paths, scope, desk, other, alike => by simpa only [viewAll] using alike
  | _ :: _, [], scope, desk, other, alike => by simpa only [viewAll] using alike

end

/-! ## 3. Views -/

/-- Desks with the same keys handed out, between which some forms hold the same. -/
structure Desk.AgreeOn (keys : List FormKey) (desk other : Desk) : Prop where
  opened : desk.arena.opened = other.arena.opened
  held : ∀ key ∈ keys, desk.arena.held key = other.arena.held key

/-- What is opened after a pass over a component depends on what was opened before. -/
theorem opened_viewNode_congr {desk other : Desk} (h : desk.arena.opened = other.arena.opened)
    (theme : Theme) (scope : Option Scope) (path : String) (node : Node) :
    (viewNode theme scope path node desk).2.arena.opened
      = (viewNode theme scope path node other).2.arena.opened := by
  rw [arena_viewNode, arena_viewNode, Arena.opened_openAll, Arena.opened_openAll, h]

/-- What is held after a pass over a component is what was held before. -/
theorem held_viewNode (theme : Theme) (scope : Option Scope) (path : String) (node : Node)
    (desk : Desk) (key : FormKey) :
    (viewNode theme scope path node desk).2.arena.held key = desk.arena.held key := by
  rw [arena_viewNode, Arena.held_openAll]

/-- **A pass keeps what desks agree on.** -/
theorem Desk.AgreeOn.afterNode {keys : List FormKey} {desk other : Desk}
    (h : desk.AgreeOn keys other) (theme : Theme) (scope : Option Scope) (path : String)
    (node : Node) :
    (viewNode theme scope path node desk).2.AgreeOn keys
      (viewNode theme scope path node other).2 := by
  refine ⟨opened_viewNode_congr h.opened theme scope path node, fun key mem => ?_⟩
  rw [held_viewNode, held_viewNode]
  exact h.held key mem

theorem Desk.AgreeOn.open {keys : List FormKey} {desk other : Desk} (h : desk.AgreeOn keys other)
    (path : String) :
    Desk.AgreeOn keys { desk with arena := (desk.arena.openForm path).2 }
      { other with arena := (other.arena.openForm path).2 } := by
  refine ⟨?_, fun key mem => ?_⟩
  · simp only [Arena.opened_openForm, h.opened]
  · simp only [Arena.held_openForm]
    exact h.held key mem

/-- A pass over siblings keeps what was opened. -/
theorem opened_subset_viewAll (theme : Theme) (scope : Option Scope) (nodes : List Node)
    (paths : List String) (desk : Desk) :
    desk.arena.opened ⊆ (viewAll theme scope nodes paths desk).2.arena.opened := by
  rw [arena_viewAll theme nodes paths scope desk 0, Arena.opened_openAll]
  exact List.subset_append_right _ _

/-- What is held after a pass over siblings is what was held before. -/
theorem held_viewAll (theme : Theme) (scope : Option Scope) (nodes : List Node)
    (paths : List String) (desk : Desk) (key : FormKey) :
    (viewAll theme scope nodes paths desk).2.arena.held key = desk.arena.held key := by
  rw [arena_viewAll theme nodes paths scope desk 0, Arena.held_openAll]

mutual

/-- **A view depends only on what the opened forms hold.** -/
theorem view_viewNode_congr (theme : Theme) {keys : List FormKey} :
    (node : Node) → (scope : Option Scope) → (path : String) → (desk other : Desk) →
      (∀ own, scope = some own → own.key ∈ keys) →
      (viewNode theme scope path node desk).2.arena.opened ⊆ keys → desk.AgreeOn keys other →
      (viewNode theme scope path node desk).1 = (viewNode theme scope path node other).1
  | ⟨id, kind, props, style, children, field⟩, scope, path, desk, other, around, opens, agree => by
    cases role : kind.role with
    | region =>
      simp only [viewNode, role] at opens ⊢
      rw [view_viewAll_congr theme children _ scope desk other around opens agree]
    | grid =>
      simp only [viewNode, role] at opens ⊢
      rw [view_viewAll_congr theme children _ scope desk other around opens agree]
    | form =>
      have key : (desk.arena.openForm path).1 = (other.arena.openForm path).1 := by
        rw [Arena.openForm_key, Arena.openForm_key, agree.opened]
      simp only [viewNode, role, ← key] at opens ⊢
      have own : (desk.arena.openForm path).1 ∈ keys :=
        opens (opened_subset_viewAll _ _ _ _ _ List.mem_cons_self)
      rw [view_viewAll_congr theme children _ _ _ _ (by simpa using own) opens (agree.open path)]
      -- the state is read after the pass over the children, which changes nothing that is held
      simp only [Arena.stateOf_eq, held_viewAll, Arena.held_openForm, agree.held _ own]
    | display display => simp only [viewNode, role]
    | editor editor =>
      have read : desk.arena.readField (scope.map Scope.key) field
          = other.arena.readField (scope.map Scope.key) field := by
        cases scope with
        | none => rfl
        | some own => simp [Arena.readField_eq, agree.held own.key (around own rfl)]
      simp only [viewNode, role, read]
    | button => simp only [viewNode, role]
    | unsupported => simp only [viewNode, role]

theorem view_viewAll_congr (theme : Theme) {keys : List FormKey} :
    (nodes : List Node) → (paths : List String) → (scope : Option Scope) → (desk other : Desk) →
      (∀ own, scope = some own → own.key ∈ keys) →
      (viewAll theme scope nodes paths desk).2.arena.opened ⊆ keys → desk.AgreeOn keys other →
      (viewAll theme scope nodes paths desk).1 = (viewAll theme scope nodes paths other).1
  | node :: nodes, path :: paths, scope, desk, other, around, opens, agree => by
    simp only [viewAll] at opens ⊢
    have opensFirst : (viewNode theme scope path node desk).2.arena.opened ⊆ keys :=
      List.Subset.trans (opened_subset_viewAll theme scope nodes paths _) opens
    rw [view_viewNode_congr theme node scope path desk other around opensFirst agree,
      view_viewAll_congr theme nodes paths scope _ _ around opens
        (agree.afterNode theme scope path node)]
  | [], paths, scope, desk, other, around, opens, agree => by simp only [viewAll]
  | _ :: _, [], scope, desk, other, around, opens, agree => by simp only [viewAll]

end

/-! ## 4. Passes over cards -/

namespace Renderer

/-- **The bindings of a pass depend on the card alone.** -/
theorem bindings_renderCard_congr (renderer other : Renderer) (card : Card) :
    (renderer.renderCard card).2.bindings = (other.renderCard card).2.bindings := by
  have start : renderer.desk.Alike other.desk := ⟨rfl, rfl⟩
  exact (alike_viewAll _ _ card.body _ none _ _ start).bindings

/-- **The output of a pass depends only on what the forms of the card hold.** -/
theorem renderCard_congr {renderer other : Renderer} {card : Card}
    (primary : renderer.defaultPrimary = other.defaultPrimary)
    (held : ∀ key ∈ card.formKeys, renderer.arena.held key = other.arena.held key) :
    (renderer.renderCard card).1 = (other.renderCard card).1 := by
  have agree : renderer.desk.AgreeOn card.formKeys other.desk := ⟨rfl, held⟩
  have opens (theme : Theme) :
      (viewBody theme card.body renderer.desk).2.arena.opened ⊆ card.formKeys := by
    rw [opened_viewBody]
    exact fun key mem => List.mem_reverse.1 mem
  have body (theme : Theme) : (viewBody theme card.body renderer.desk).1
      = (viewBody theme card.body other.desk).1 :=
    view_viewAll_congr theme card.body _ none _ _ (by simp) (opens theme) agree
  simp only [renderCard, primary, body]

/-- **The stores after a pass depend only on what the forms of the card hold.** -/
theorem arena_renderCard_congr {renderer other : Renderer} {card : Card}
    (held : ∀ key ∈ card.formKeys, renderer.arena.held key = other.arena.held key) :
    (renderer.renderCard card).2.arena = (other.renderCard card).2.arena := by
  apply Arena.ext_get?
  · rw [opened_renderCard, opened_renderCard]
  · intro key
    rw [get?_renderCard, get?_renderCard]
    by_cases mem : key ∈ card.formKeys
    · rw [if_pos mem, if_pos mem]
      exact congrArg some (held key mem)
    · rw [if_neg mem, if_neg mem]

/-- What the forms of a card hold after a pass is what they held before. -/
theorem held_renderCard {renderer : Renderer} {card : Card} {key : FormKey}
    (mem : key ∈ card.formKeys) :
    (renderer.renderCard card).2.arena.held key = renderer.arena.held key := by
  unfold Arena.held
  rw [get?_renderCard, if_pos mem]
  rfl

end Renderer

end FormCard
