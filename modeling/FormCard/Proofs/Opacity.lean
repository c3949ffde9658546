import FormCard.Proofs.Tint

/-!
# Colors that are shown

What a card shows as a color goes to style sheets, so it should be a color.  Every color that a card
shows is a constant or was checked when the theme was resolved, with one exception.  The color of a
shadow is put together by the pass: it is the primary color with two more digits behind it for its
opacity.  Whether that is a color depends on how the primary color is written, and it may be written
with a name or a function as well as with digits.

This module finds out which colors take the two digits.  The test for colors is not local: blanks
are dropped at the ends, letters are put in lower case, names and functions are tried before
digits.  Each of these steps has its part below, and each time the question is what becomes of a
text that ends with the two digits.

* `Color.isColor_append_opacity`: of the texts that write a color, those of four or six hexadecimal
  digits take two more digits, and no others do.  Blanks in front do not matter; blanks behind do,
  since the digits come after them.
* `Renderer.isColor_of_mem_colors`: the colors outside of shadows are colors.
* `shown_colors_are_colors_iff`: all colors that a card shows are colors exactly if it shows no
  shadow or its primary color takes the opacity.

A color of three digits becomes one of five and a name is followed by digits, so neither casts a
shadow that is a color.
-/

namespace FormCard

/-! ## 1. Digits behind a color -/

namespace Color

open FormCard.Text

/-- A text in lower case without the hash that may stand in front. -/
def unmarked : List Char → List Char
  | '#' :: digits => digits
  | cs => cs

/-- What would have to be the digits of a color. -/
def digitsOf (s : String) : List Char := unmarked ((trimStart s.toList).map lower)

/-- Whether two more digits may follow a color: it is written with four or six of them, and no blank
comes after these. -/
def TakesOpacity (s : String) : Prop :=
  isHex (digitsOf s) = true ∧ ((digitsOf s).length = 4 ∨ (digitsOf s).length = 6)

instance (s : String) : Decidable (TakesOpacity s) := inferInstanceAs (Decidable (_ ∧ _))

/-- A character that may stand in a color of hexadecimal digits. -/
def isHexSign (c : Char) : Bool := isHexDigit c || c = '+'

def opacity : List Char := ['2', '0']

/-! ### Hexadecimal digits -/

theorem isHexSign_of_isHexDigit {c : Char} (h : isHexDigit c = true) : isHexSign c = true := by
  simp [isHexSign, h]

theorem areChannels_append_opacity :
    (cs : List Char) → areChannels (cs ++ opacity) = areChannels cs
  | [] => rfl
  | [a] => by simp [opacity, areChannels]
  | a :: b :: cs => by simp only [List.cons_append, areChannels, areChannels_append_opacity cs]

theorem isHexSign_of_areChannels :
    {cs : List Char} → areChannels cs = true → ∀ c ∈ cs, isHexSign c = true
  | [], _ => by simp
  | [a], h => by simp [areChannels] at h
  | a :: b :: cs, h => by
    simp only [areChannels, Bool.and_eq_true] at h
    obtain ⟨⟨first, second⟩, others⟩ := h
    refine List.forall_mem_cons.2 ⟨first, List.forall_mem_cons.2 ⟨?_, ?_⟩⟩
    · exact isHexSign_of_isHexDigit second
    · exact isHexSign_of_areChannels others

theorem areChannels_of_all : {cs : List Char} → cs.length % 2 = 0 →
    (∀ c ∈ cs, isHexDigit c = true) → areChannels cs = true
  | [], _, _ => rfl
  | [a], even, _ => by simp at even
  | a :: b :: cs, even, all => by
    simp only [List.mem_cons, forall_eq_or_imp] at all
    obtain ⟨first, second, others⟩ := all
    have shorter : cs.length % 2 = 0 := by
      rw [List.length_cons, List.length_cons] at even
      omega
    simp [areChannels, first, second, areChannels_of_all shorter others]

theorem isHexSign_of_isHex {cs : List Char} (h : isHex cs = true) :
    ∀ c ∈ cs, isHexSign c = true := by
  unfold isHex at h
  split at h
  · exact fun c mem => isHexSign_of_isHexDigit (List.all_eq_true.1 h c mem)
  · exact fun c mem => isHexSign_of_isHexDigit (List.all_eq_true.1 h c mem)
  · exact isHexSign_of_areChannels h
  · exact isHexSign_of_areChannels h
  · simp at h

theorem length_of_isHex {cs : List Char} (h : isHex cs = true) :
    cs.length = 3 ∨ cs.length = 4 ∨ cs.length = 6 ∨ cs.length = 8 := by
  unfold isHex at h
  split at h
  all_goals simp_all

/-- **Four or six digits take two more,** while three and eight do not. -/
theorem isHex_append_opacity {cs : List Char} (h : isHex cs = true) :
    isHex (cs ++ opacity) = true ↔ cs.length = 4 ∨ cs.length = 6 := by
  have length : (cs ++ opacity).length = cs.length + 2 := List.length_append
  constructor
  · intro longer
    have before := length_of_isHex h
    have after := length_of_isHex longer
    omega
  · rintro (four | six)
    · have digits : cs.all isHexDigit = true := by simpa [isHex, four] using h
      have channels := areChannels_of_all (by omega) (List.all_eq_true.1 digits)
      simpa [isHex, length, four, areChannels_append_opacity] using channels
    · simpa [isHex, length, six, areChannels_append_opacity] using h

/-! ### Names and functions -/

/-- A text in lower case has a hash in front, or it is judged as it is. -/
theorem marked_or_unmarked (cs : List Char) :
    isLowerColor cs = isHex (unmarked cs)
    ∨ unmarked cs = cs ∧ isLowerColor cs = isUnmarkedColor cs := by
  cases cs with
  | nil => exact .inr ⟨rfl, rfl⟩
  | cons c cs =>
    by_cases hash : c = '#'
    · exact .inl (by rw [hash]; rfl)
    · exact .inr (by simp [unmarked, isLowerColor, hash])

theorem unmarked_append_opacity (cs : List Char) :
    unmarked (cs ++ opacity) = unmarked cs ++ opacity := by
  cases cs with
  | nil => rfl
  | cons c cs =>
    by_cases hash : c = '#'
    · rw [hash]
      rfl
    · simp [unmarked, hash]

/-- The name of a color has letters that are no digits, and it does not hold a zero. -/
theorem spelling_of_name : ∀ name ∈ "transparent" :: names,
    name.toList.all isHexSign = false ∧ '0' ∉ name.toList := by
  decide +kernel

/-- **No name and no function is made of digits alone.** -/
theorem isHex_of_isLowerColor {cs : List Char} (color : isLowerColor cs = true)
    (digits : ∀ c ∈ unmarked cs, isHexSign c = true) : isHex (unmarked cs) = true := by
  rcases marked_or_unmarked cs with marked | ⟨same, judged⟩
  · exact marked ▸ color
  · rw [same] at digits ⊢
    rw [judged, isUnmarkedColor] at color
    have parenthesis : '(' ∉ cs := fun mem => absurd (digits '(' mem) (by decide)
    split at color
    · next named =>
      have letters := (spelling_of_name _ (List.mem_cons.2 named)).1
      rw [String.toList_ofList, List.all_eq_true.2 digits] at letters
      simp at letters
    · rwa [if_neg fun call => parenthesis call.1] at color

/-- **With digits behind it a text is no name and no function any more.** -/
theorem isLowerColor_append_opacity (cs : List Char) :
    isLowerColor (cs ++ opacity) = isHex (unmarked cs ++ opacity) := by
  rw [← unmarked_append_opacity]
  rcases marked_or_unmarked (cs ++ opacity) with marked | ⟨same, judged⟩
  · exact marked
  · have unnamed : ¬ (String.ofList (cs ++ opacity) = "transparent"
        ∨ String.ofList (cs ++ opacity) ∈ names) := fun named =>
      (spelling_of_name _ (List.mem_cons.2 named)).2 (by simp [opacity])
    have unclosed : ¬ ('(' ∈ cs ++ opacity ∧ (cs ++ opacity).getLast? = some ')') := by
      simp [opacity]
    rw [judged, same, isUnmarkedColor, if_neg unnamed, if_neg unclosed]

/-! ### Blanks -/

theorem toNat_of_isBlank {c : Char} (h : isBlank c = true) : c.toNat ≤ 32 ∨ 127 < c.toNat := by
  simp only [isBlank, blankRanges, List.any_cons, List.any_nil, Bool.or_false, Bool.or_eq_true,
    Bool.and_eq_true, decide_eq_true_eq] at h
  omega

theorem lower_of_isBlank {c : Char} (h : isBlank c = true) : lower c = c := by
  unfold lower
  split
  · next kelvin => exact absurd h (by rw [kelvin]; decide)
  · refine dif_neg fun upper => ?_
    have low : 65 ≤ c.toNat := UInt32.le_iff_toNat_le.1 upper.1
    have high : c.toNat ≤ 90 := UInt32.le_iff_toNat_le.1 upper.2
    have := toNat_of_isBlank h
    omega

theorem toNat_of_isHexSign {c : Char} (h : isHexSign c = true) :
    43 ≤ c.toNat ∧ c.toNat ≤ 102 := by
  simp only [isHexSign, isHexDigit, Bool.or_eq_true, Bool.and_eq_true, decide_eq_true_eq,
    Char.le_def, UInt32.le_iff_toNat_le, Char.toNat_val, Char.reduceToNat] at h
  rcases h with digit | rfl
  · omega
  · decide

/-- A color of digits has no blanks in it. -/
theorem not_isBlank_of_sign {c : Char} (h : lower c = '#' ∨ isHexSign (lower c) = true) :
    isBlank c = false := by
  cases blank : isBlank c with
  | false => rfl
  | true =>
    rw [lower_of_isBlank blank] at h
    rcases h with rfl | sign
    · exact absurd blank (by decide)
    · have outside := toNat_of_isBlank blank
      have inside := toNat_of_isHexSign sign
      omega

theorem mem_unmarked {c : Char} {cs : List Char} (mem : c ∈ cs) : c = '#' ∨ c ∈ unmarked cs := by
  unfold unmarked
  split
  · exact List.mem_cons.1 mem
  · exact .inr mem

theorem trimEnd_eq_self {cs : List Char} (h : ∀ c ∈ cs, isBlank c = false) : trimEnd cs = cs := by
  have all : cs.reverse.dropWhile isBlank = cs.reverse := by
    cases back : cs.reverse with
    | nil => rfl
    | cons c front =>
      have last : c ∈ cs := List.mem_reverse.1 (back ▸ List.mem_cons_self)
      rw [List.dropWhile_cons_of_neg (by simp [h c last])]
  rw [trimEnd, all, List.reverse_reverse]

/-- No blanks are dropped between a text and its opacity. -/
theorem trim_append_opacity (cs : List Char) :
    trimEnd (trimStart (cs ++ opacity)) = trimStart cs ++ opacity := by
  have front : trimStart (cs ++ opacity) = trimStart cs ++ opacity := by
    rw [trimStart, List.dropWhile_append]
    split
    · next empty =>
      rw [trimStart, List.isEmpty_iff.1 empty]
      decide
    · rfl
  have back : isBlank '0' = false := by decide
  rw [front, trimEnd]
  simp [opacity, back]

/-! ### Colors -/

/-- A text with digits for its opacity is judged by the digits alone. -/
theorem isColor_append (s : String) :
    isColor (s ++ "20") = isHex (digitsOf s ++ opacity) := by
  have text : (s ++ "20").toList = s.toList ++ opacity := String.toList_append
  have lower : opacity.map lower = opacity := by decide
  rw [isColor, text, trim_append_opacity, List.map_append, lower, isLowerColor_append_opacity]
  rfl

/-- **A color takes digits for its opacity exactly if it is written with four or six digits.** -/
theorem isColor_append_opacity {s : String} (color : isColor s = true) :
    isColor (s ++ "20") = true ↔ TakesOpacity s := by
  rw [isColor_append]
  constructor
  · intro longer
    have signs : ∀ c ∈ digitsOf s, isHexSign c = true := fun c mem =>
      isHexSign_of_isHex longer c (List.mem_append_left _ mem)
    -- blanks behind the color would stand among the digits now
    have untrimmed : trimEnd (trimStart s.toList) = trimStart s.toList := by
      refine trimEnd_eq_self fun c mem => not_isBlank_of_sign ?_
      exact (mem_unmarked (List.mem_map_of_mem mem)).imp_right (signs _)
    rw [isColor, untrimmed] at color
    have digits := isHex_of_isLowerColor color signs
    exact ⟨digits, (isHex_append_opacity digits).1 longer⟩
  · rintro ⟨digits, length⟩
    exact (isHex_append_opacity digits).2 length

/-- The built-in color takes an opacity; shorter digits, names and functions do not. -/
example : TakesOpacity "#6366f1"
    ∧ ∀ color ∈ ["#66f", "indigo", "rgb(99, 102, 241)"], isColor color ∧ ¬ TakesOpacity color := by
  decide +kernel

end Color

open Color

/-! ## 2. Colors in what is shown -/

/-- The colors of an ornament. -/
def Header.colors : Header → List String
  | gradient start finish => [start, finish]
  | builtIn stops => stops

namespace Leaf

/-- The colors of a leaf outside of its shadow. -/
def colors : Leaf → List String
  | textInput _ _ _ _ accent _ => [accent]
  | chart _ color _ => [color]
  | button _ _ paint _ _ => paint.background :: paint.foreground :: paint.border.toList
  | _ => []

def shadow? : Leaf → Option String
  | button _ _ paint _ _ => paint.shadow
  | _ => none

end Leaf

namespace Output

/-- All colors that are shown outside of shadows. -/
def colors : Output → List String
  | card _ primary header body =>
    primary :: header.colors ++ (View.leaves body).flatMap Leaf.colors
  | broken _ => []

/-- All shadows that are shown. -/
def shadows (output : Output) : List String := output.leaves.filterMap Leaf.shadow?

end Output

/-- The color with which a shadow ends: the text behind its offset. -/
def shadowColor (shadow : String) : String :=
  String.ofList (shadow.toList.drop "0 10px 15px -3px ".toList.length)

theorem shadowColor_append (color : String) : shadowColor (shadowOffset ++ color) = color := by
  rw [shadowColor, String.toList_append, shadowOffset, List.drop_left, String.ofList_toList]

/-! ## 3. Colors of a pass -/

namespace Theme

variable {palette : Option Palette} {defaultPrimary : String}

/-- **A gradient is taken only if both of its ends are colors.** -/
theorem isColor_of_gradient {start finish : String}
    (taken : (resolve palette defaultPrimary).gradient = some (start, finish)) :
    isColor start = true ∧ isColor finish = true := by
  cases palette with
  | none => simp [resolve] at taken
  | some palette =>
    simp only [resolve] at taken
    split at taken
    · next start' finish' startIs finishIs =>
      obtain ⟨rfl, rfl⟩ := Prod.mk.inj (Option.some.inj taken)
      obtain ⟨_, -, start⟩ := Option.bind_eq_some_iff.1 startIs
      obtain ⟨_, -, finish⟩ := Option.bind_eq_some_iff.1 finishIs
      exact ⟨color?_eq_some start, color?_eq_some finish⟩
    · simp at taken

theorem isColor_of_mem_header :
    ∀ color ∈ (resolve palette defaultPrimary).header.colors, isColor color = true := by
  unfold header
  cases taken : (resolve palette defaultPrimary).gradient with
  | none =>
    have stops : ∀ color ∈ builtInStops, isColor color = true := by decide +kernel
    exact stops
  | some ends =>
    have both := isColor_of_gradient taken
    simpa [Header.colors] using both

end Theme

namespace Leaf

variable {theme : Theme} {leaf : Leaf}

/-- **A color of a leaf is the primary color of the pass or a constant.** -/
theorem MadeWith.isColor_of_mem_colors (made : leaf.MadeWith theme)
    (primary : isColor theme.primary = true) : ∀ color ∈ leaf.colors, isColor color = true := by
  cases made with
  | display display props => cases display <;> simp [ofDisplay, colors, primary]
  | editor editor props slot => cases editor <;> simp [ofEditor, colors, primary]
  | button props submits =>
    unfold ofButton
    cases Variant.ofJson (props.get? "variant") with
    | primary =>
      have foreground : isColor "#ffffff" = true := by decide +kernel
      simp [colors, Paint.ofVariant, primary, foreground]
    | secondary | ghost | danger => simp only [colors, Paint.ofVariant]; decide +kernel
  | unsupported tag => simp [colors]

/-- **A shadow ends with the primary color of the pass and its opacity.** -/
theorem MadeWith.shadow_eq (made : leaf.MadeWith theme) {shadow : String}
    (shown : leaf.shadow? = some shadow) : shadow = shadowOffset ++ (theme.primary ++ "20") := by
  cases made with
  | display display props => cases display <;> simp [ofDisplay, shadow?] at shown
  | editor editor props slot => cases editor <;> simp [ofEditor, shadow?] at shown
  | button props submits =>
    unfold ofButton at shown
    cases variant : Variant.ofJson (props.get? "variant") with
    | primary =>
      simp only [variant, shadow?, Paint.ofVariant, Option.some.injEq] at shown
      rw [← shown, String.append_assoc]
    | secondary | ghost | danger => simp [variant, shadow?, Paint.ofVariant] at shown
  | unsupported tag => simp [shadow?] at shown

end Leaf

namespace Renderer

variable (renderer : Renderer) (card : Card)

/-- **All colors outside of shadows are colors.** -/
theorem isColor_of_mem_colors :
    ∀ color ∈ (renderer.renderCard card).1.colors, isColor color = true := by
  have primary := Theme.isColor_primary_resolve card.palette renderer.defaultPrimary
  intro color mem
  simp only [renderCard, Output.colors, List.cons_append, List.mem_cons, List.mem_append,
    List.mem_flatMap] at mem
  rcases mem with rfl | ornament | ⟨leaf, shown, own⟩
  · exact primary
  · exact Theme.isColor_of_mem_header color ornament
  · exact (renderer.madeWith_renderCard card leaf shown).isColor_of_mem_colors primary color own

/-- All shadows of an output are the same. -/
theorem shadow_eq : ∀ shadow ∈ (renderer.renderCard card).1.shadows,
    shadow = shadowOffset
      ++ ((Theme.resolve card.palette renderer.defaultPrimary).primary ++ "20") := by
  intro shadow mem
  obtain ⟨leaf, shown, own⟩ := List.mem_filterMap.1 mem
  exact (renderer.madeWith_renderCard card leaf shown).shadow_eq own

end Renderer

/-! ## 4. Main statement -/

/-- **The colors that are shown are colors up to the opacity of shadows.**  Whatever the palette of
a card, the default of the host and the components are, the primary color, the ornament, and the
colors of all leaves outside of shadows are colors.  Every shadow ends with the primary color and
two more digits.  Hence the shadows end with colors too exactly if none is shown or the primary
color is written with four or six hexadecimal digits. -/
theorem shown_colors_are_colors_iff (renderer : Renderer) (card : Card) :
    let output := (renderer.renderCard card).1
    let primary := (Theme.resolve card.palette renderer.defaultPrimary).primary
    (∀ color ∈ output.colors, isColor color = true)
    ∧ (∀ shadow ∈ output.shadows, shadow = "0 10px 15px -3px " ++ (primary ++ "20"))
    ∧ ((∀ shadow ∈ output.shadows, isColor (shadowColor shadow) = true)
      ↔ output.shadows = [] ∨ TakesOpacity primary) := by
  intro output primary
  have shadows : ∀ shadow ∈ output.shadows, shadow = shadowOffset ++ (primary ++ "20") :=
    renderer.shadow_eq card
  have takes : isColor (primary ++ "20") = true ↔ TakesOpacity primary :=
    isColor_append_opacity (Theme.isColor_primary_resolve card.palette renderer.defaultPrimary)
  refine ⟨renderer.isColor_of_mem_colors card, shadows, ?_⟩
  have ends : ∀ shadow ∈ output.shadows, shadowColor shadow = primary ++ "20" := by
    intro shadow mem
    rw [shadows shadow mem, shadowColor_append]
  cases all : output.shadows with
  | nil => simp
  | cons shadow others =>
    have first : shadow ∈ output.shadows := all ▸ List.mem_cons_self
    rw [← all, ← takes]
    constructor
    · intro colors
      exact .inr (ends shadow first ▸ colors shadow first)
    · rintro (none | color) shadow mem
      · exact absurd first (none ▸ List.not_mem_nil)
      · exact (ends shadow mem).symm ▸ color

/-- A card whose primary color is the name of a color has a shadow without a color. -/
theorem red_casts_no_shadow :
    let card : Card := ⟨"T", some ⟨some "red", none, none⟩, [.plain "b" (.known .button)]⟩
    let output := ((Renderer.new "").renderCard card).1
    isColor "red" = true ∧ output.shadows = ["0 10px 15px -3px red20"]
    ∧ isColor (shadowColor "0 10px 15px -3px red20") = false := by
  decide +kernel

end FormCard
