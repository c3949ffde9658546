import FormCard.Card.Basic
import FormCard.Color

/-!
# The colors of a pass

This is the part of the program that settles colors, once for a pass and before anything is
rendered.  What a card asks for is taken if it is a color, and a gradient only if both of its ends
are.  Otherwise the default of the host is taken if it is a color, and a built-in color at last.
The components of the card are given the `Theme` that comes of it and never see what was asked for.
The ornament above the card is drawn from the same theme.

Main statement: the primary color of every theme is a color (`isColor_primary_resolve`).  It is
proved along the fallbacks; the built-in color is the one case that is computed.
-/

namespace FormCard

/-- The color that is left when no other is valid. -/
def builtInPrimary : String := "#6366f1"

/-- The stops of the ornament when a card has no gradient of its own. -/
def builtInStops : List String := [builtInPrimary, "#a855f7", "#ec4899"]

/-- The colors of one pass. -/
structure Theme where
  primary : String
  /-- Both ends of the gradient of the card. -/
  gradient : Option (String × String)
  deriving DecidableEq

/-- The ornament above a card. -/
inductive Header where
  /-- The gradient of the card. -/
  | gradient (start finish : String)
  /-- The built-in ornament. -/
  | builtIn (stops : List String)
  deriving DecidableEq

namespace Theme

open Color

/-- The color itself, if it is one. -/
def color? (s : String) : Option String := if isColor s then some s else none

/-- The default color of the host, or the built-in one. -/
def fallback (defaultPrimary : String) : String := (color? defaultPrimary).getD builtInPrimary

/-- The theme for what a card asks for and the default of the host. -/
def resolve (palette : Option Palette) (defaultPrimary : String) : Theme :=
  match palette with
  | none => ⟨fallback defaultPrimary, none⟩
  | some palette =>
    { primary := (palette.primary.bind color?).getD (fallback defaultPrimary)
      gradient :=
        match palette.gradientFrom.bind color?, palette.gradientTo.bind color? with
        | some start, some finish => some (start, finish)
        | _, _ => none }

def header (theme : Theme) : Header :=
  match theme.gradient with
  | some (start, finish) => .gradient start finish
  | none => .builtIn builtInStops

/-! ## Laws -/

theorem color?_eq_some {s t : String} (h : color? s = some t) : isColor t = true := by
  unfold color? at h
  split at h
  · simp only [Option.some.injEq] at h
    exact h ▸ ‹_›
  · simp at h

theorem isColor_builtInPrimary : isColor builtInPrimary = true := by decide +kernel

theorem isColor_fallback (defaultPrimary : String) : isColor (fallback defaultPrimary) = true := by
  unfold fallback
  cases h : color? defaultPrimary with
  | none => exact isColor_builtInPrimary
  | some s => exact color?_eq_some h

/-- **The primary color is a color,** whatever the card and the host ask for. -/
theorem isColor_primary_resolve (palette : Option Palette) (defaultPrimary : String) :
    isColor (resolve palette defaultPrimary).primary = true := by
  cases palette with
  | none => exact isColor_fallback defaultPrimary
  | some palette =>
    show isColor ((palette.primary.bind color?).getD (fallback defaultPrimary)) = true
    cases h : palette.primary.bind color? with
    | none => exact isColor_fallback defaultPrimary
    | some s =>
      obtain ⟨t, _, ht⟩ := Option.bind_eq_some_iff.1 h
      exact color?_eq_some ht

end Theme

end FormCard
