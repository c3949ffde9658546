import FormCard.Proofs.Held

/-!
# Where the colors of a pass go

A card may ask for colors, and a host has a default.  Changing either should change how a card looks
and nothing of what it does.  The primary color of a pass goes to leaves: to the accent of a text
input, the color of a chart, and the background and the shadow of a primary button.  It goes nowhere
else.  A pass under other colors differs in these spots alone, and what it opens and notes is the
same.

* `Leaf.erased` blanks these spots and `Leaf.Tinted` says what stands in them; neither is told which
  components were rendered.
* `madeWith_viewAll`: every leaf of a pass is made from properties and the colors of this pass,
  however deep it stands.  What holds of all leaves that are made so holds of all leaves of a pass,
  and other modules use it for that.
* `desk_viewAll` and `erased_viewAll` follow two passes with different colors side by side.  Their
  desks are the same throughout, which is why fields show the same texts.
* `themes_tint_and_do_nothing_else` says so of whole cards, for any two palettes and any two
  defaults.

The ornament above the card is not among the leaves and may differ as it likes.
-/

namespace FormCard

/-! ## 1. Colors in leaves -/

namespace Leaf

/-- A leaf without the colors of its pass. -/
def erased : Leaf → Leaf
  | textInput label placeholder multiline value _ binding =>
    textInput label placeholder multiline value "" binding
  | chart kind _ points => chart kind "" points
  | button label .primary paint submits intent =>
    button label .primary { paint with background := "", shadow := none } submits intent
  | leaf => leaf

/-- A leaf in which the color of the pass is `primary`, wherever there is one. -/
def Tinted (primary : String) : Leaf → Prop
  | textInput _ _ _ _ accent _ => accent = primary
  | chart _ color _ => color = primary
  | button _ .primary paint _ _ =>
    paint.background = primary ∧ paint.shadow = some ("0 10px 15px -3px " ++ primary ++ "20")
  | _ => True

/-- A leaf that a pass with these colors makes of some properties. -/
inductive MadeWith (theme : Theme) : Leaf → Prop
  | display (display : Display) (props : Props) : MadeWith theme (ofDisplay display props theme)
  | editor (editor : Editor) (props : Props) (slot : Slot) :
    MadeWith theme (ofEditor editor props theme slot)
  | button (props : Props) (submits : Option FormKey) :
    MadeWith theme (ofButton props theme submits)
  | unsupported (tag : String) : MadeWith theme (.unsupported tag)

variable (theme theme' : Theme)

theorem erased_ofDisplay (display : Display) (props : Props) :
    (ofDisplay display props theme).erased = (ofDisplay display props theme').erased := by
  cases display <;> rfl

theorem erased_ofEditor (editor : Editor) (props : Props) (slot : Slot) :
    (ofEditor editor props theme slot).erased = (ofEditor editor props theme' slot).erased := by
  cases editor <;> rfl

theorem erased_ofButton (props : Props) (submits : Option FormKey) :
    (ofButton props theme submits).erased = (ofButton props theme' submits).erased := by
  unfold ofButton
  cases Variant.ofJson (props.get? "variant") <;> rfl

/-- **A leaf shows the primary color of its pass** wherever it shows a color of the pass. -/
theorem MadeWith.tinted {theme : Theme} {leaf : Leaf} (made : leaf.MadeWith theme) :
    leaf.Tinted theme.primary := by
  cases made with
  | display display props => cases display <;> trivial
  | editor editor props slot => cases editor <;> trivial
  | button props submits =>
    unfold ofButton
    cases Variant.ofJson (props.get? "variant") with
    | primary => exact ⟨rfl, rfl⟩
    | secondary | ghost | danger => trivial
  | unsupported tag => trivial

end Leaf

namespace View

/-- The leaf that a view is; frames are none. -/
def leaf? : View → Option Leaf
  | leaf _ _ content => some content
  | frame _ _ _ _ => none

mutual

/-- A view without the colors of its pass. -/
def erased : View → View
  | leaf id style content => leaf id style content.erased
  | frame id style content children => frame id style content (erasedAll children)
termination_by structural view => view

def erasedAll : List View → List View
  | [] => []
  | view :: views => erased view :: erasedAll views
termination_by structural views => views

end

/-- The leaves in views, in the order of the document. -/
def leaves (views : List View) : List Leaf := (preorderAll views).filterMap leaf?

@[simp] theorem leaves_nil : leaves [] = [] := rfl

@[simp] theorem leaves_leaf_cons (id : String) (style : Option String) (content : Leaf)
    (views : List View) : leaves (leaf id style content :: views) = content :: leaves views := rfl

@[simp] theorem leaves_frame_cons (id : String) (style : Option String) (content : Frame)
    (children views : List View) :
    leaves (frame id style content children :: views) = leaves children ++ leaves views := by
  simp [leaves, preorderAll, preorder, List.filterMap_cons, leaf?]

theorem leaves_cons (view : View) (views : List View) :
    leaves (view :: views) = leaves [view] ++ leaves views := by
  simp [leaves, preorderAll]

end View

/-- All leaves that are shown, at any depth. -/
def Output.leaves (output : Output) : List Leaf := View.leaves output.body

/-- An output whose leaves show its own primary color. -/
def Output.Tinted : Output → Prop
  | card _ primary _ body => ∀ leaf ∈ View.leaves body, leaf.Tinted primary
  | broken _ => True

/-! ## 2. The leaves of a pass -/

mutual

theorem madeWith_viewNode (theme : Theme) :
    (node : Node) → (scope : Option Scope) → (path : String) → (desk : Desk) →
      ∀ leaf ∈ View.leaves [(viewNode theme scope path node desk).1], leaf.MadeWith theme
  | ⟨id, kind, props, style, children, field⟩, scope, path, desk => by
    cases role : kind.role with
    | region =>
      simpa [viewNode, role] using madeWith_viewAll theme children _ scope desk
    | grid =>
      simpa [viewNode, role] using madeWith_viewAll theme children _ scope desk
    | form =>
      simpa [viewNode, role] using madeWith_viewAll theme children _ _ _
    | display display => simpa [viewNode, role] using Leaf.MadeWith.display display props
    | editor editor => simpa [viewNode, role] using Leaf.MadeWith.editor editor props _
    | button => simpa [viewNode, role] using Leaf.MadeWith.button props _
    | unsupported => simpa [viewNode, role] using Leaf.MadeWith.unsupported kind.name

/-- **Every leaf of a pass is made with its colors,** inside whatever frames it stands. -/
theorem madeWith_viewAll (theme : Theme) :
    (nodes : List Node) → (paths : List String) → (scope : Option Scope) → (desk : Desk) →
      ∀ leaf ∈ View.leaves (viewAll theme scope nodes paths desk).1, leaf.MadeWith theme
  | node :: nodes, path :: paths, scope, desk => by
    simp only [viewAll]
    rw [View.leaves_cons]
    exact List.forall_mem_append.2 ⟨madeWith_viewNode theme node scope path desk,
      madeWith_viewAll theme nodes paths scope _⟩
  | [], paths, scope, desk => by simp [viewAll]
  | _ :: _, [], scope, desk => by simp [viewAll]

end

/-! ## 3. Two passes with different colors -/

theorem Desk.Alike.eq_of_arena {desk other : Desk} (h : desk.Alike other)
    (arena : desk.arena = other.arena) : desk = other := by
  obtain ⟨stores, bindings⟩ := desk
  obtain ⟨stores', bindings'⟩ := other
  obtain ⟨-, rfl⟩ := h
  obtain rfl : stores = stores' := arena
  rfl

/-- **What a pass opens and notes does not depend on colors.** -/
theorem desk_viewNode (theme theme' : Theme) (scope : Option Scope) (path : String) (node : Node)
    (desk : Desk) :
    (viewNode theme scope path node desk).2 = (viewNode theme' scope path node desk).2 := by
  have alike := alike_viewNode theme theme' node scope path desk desk ⟨rfl, rfl⟩
  apply alike.eq_of_arena
  rw [arena_viewNode, arena_viewNode]

theorem desk_viewAll (theme theme' : Theme) (scope : Option Scope) (nodes : List Node)
    (paths : List String) (desk : Desk) :
    (viewAll theme scope nodes paths desk).2 = (viewAll theme' scope nodes paths desk).2 := by
  have alike := alike_viewAll theme theme' nodes paths scope desk desk ⟨rfl, rfl⟩
  apply alike.eq_of_arena
  rw [arena_viewAll theme nodes paths scope desk 0, arena_viewAll theme' nodes paths scope desk 0]

mutual

theorem erased_viewNode (theme theme' : Theme) :
    (node : Node) → (scope : Option Scope) → (path : String) → (desk : Desk) →
      (viewNode theme scope path node desk).1.erased
        = (viewNode theme' scope path node desk).1.erased
  | ⟨id, kind, props, style, children, field⟩, scope, path, desk => by
    cases role : kind.role with
    | region =>
      simp only [viewNode, role, View.erased]
      rw [erased_viewAll theme theme' children _ scope desk]
    | grid =>
      simp only [viewNode, role, View.erased]
      rw [erased_viewAll theme theme' children _ scope desk]
    | form =>
      -- the state that is shown is read off the desk after the pass over the children
      simp only [viewNode, role, View.erased]
      rw [erased_viewAll theme theme' children, desk_viewAll theme theme']
    | display display =>
      simp only [viewNode, role, View.erased]
      rw [Leaf.erased_ofDisplay theme theme']
    | editor editor =>
      simp only [viewNode, role, View.erased]
      rw [Leaf.erased_ofEditor theme theme']
    | button =>
      simp only [viewNode, role, View.erased]
      rw [Leaf.erased_ofButton theme theme']
    | unsupported => simp only [viewNode, role]

/-- **Apart from its colors a view does not depend on colors.** -/
theorem erased_viewAll (theme theme' : Theme) :
    (nodes : List Node) → (paths : List String) → (scope : Option Scope) → (desk : Desk) →
      View.erasedAll (viewAll theme scope nodes paths desk).1
        = View.erasedAll (viewAll theme' scope nodes paths desk).1
  | node :: nodes, path :: paths, scope, desk => by
    simp only [viewAll, View.erasedAll]
    rw [erased_viewNode theme theme' node, desk_viewNode theme theme' scope path node,
      erased_viewAll theme theme' nodes]
  | [], paths, scope, desk => by simp only [viewAll]
  | _ :: _, [], scope, desk => by simp only [viewAll]

end

namespace Renderer

/-- Every leaf in the output of a pass is made with the theme that the card and the host settle. -/
theorem madeWith_renderCard (renderer : Renderer) (card : Card) :
    ∀ leaf ∈ (renderer.renderCard card).1.leaves,
      leaf.MadeWith (Theme.resolve card.palette renderer.defaultPrimary) :=
  madeWith_viewAll _ card.body _ none renderer.desk

/-- **Every output shows its own primary color.** -/
theorem tinted_renderCard (renderer : Renderer) (card : Card) :
    (renderer.renderCard card).1.Tinted :=
  fun leaf mem => (renderer.madeWith_renderCard card leaf mem).tinted

end Renderer

/-! ## 4. Main statement -/

/-- **Themes tint and do nothing else.**  Render a body twice from the same state, under any two
palettes and any two defaults of the host.  Once the colors of the passes are erased the two bodies
are identical, and the two passes leave the same stores and the same bindings.  In each output the
erased spots hold the primary color of that output, at every depth and inside any frames, and the
erased shadows hold it in front of their opacity. -/
theorem themes_tint_and_do_nothing_else (renderer : Renderer) (body : List Node)
    (title title' : String) (palette palette' : Option Palette) (primary primary' : String) :
    let first := { renderer with defaultPrimary := primary }.renderCard ⟨title, palette, body⟩
    let second := { renderer with defaultPrimary := primary' }.renderCard ⟨title', palette', body⟩
    View.erasedAll first.1.body = View.erasedAll second.1.body
    ∧ first.2.arena = second.2.arena ∧ first.2.bindings = second.2.bindings
    ∧ first.1.Tinted ∧ second.1.Tinted := by
  intro first second
  have views : View.erasedAll first.1.body = View.erasedAll second.1.body :=
    erased_viewAll _ _ body _ none renderer.desk
  have desks : (viewBody (Theme.resolve palette primary) body renderer.desk).2
      = (viewBody (Theme.resolve palette' primary') body renderer.desk).2 :=
    desk_viewAll _ _ none body _ renderer.desk
  refine ⟨views, ?_, ?_, ?_, ?_⟩
  · exact congrArg (fun desk => desk.arena.endPass) desks
  · exact congrArg Desk.bindings desks
  · exact Renderer.tinted_renderCard _ _
  · exact Renderer.tinted_renderCard _ _

end FormCard
