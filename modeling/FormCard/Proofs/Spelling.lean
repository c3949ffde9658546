import FormCard.Proofs.Shown
import Mathlib.Algebra.Group.Nat.Defs

/-!
# Numbers in properties

Cards are written by people and by programs, and both write numbers as they like.  A number of
columns, a gap or a level may come as a number or as a string, with blanks around the digits, a plus
sign and leading zeros.  The digits are gathered into 64 bits, cut down to 32, and for a level to
8.  Each of these steps could lose something.  None does: what comes out is the number that the
digits write, however many they are, or else the default.

* `Json.Spells` says what number a value writes, without any limit on its size, and apart from the
  code that reads it.
* `Decimal.natural?_eq_some_iff`: digits are read exactly as far as their number is within the
  limit.
* `Props.Reads` says what a reading of a property within bounds gives, and `reads_uintOr`,
  `reads_positiveOr` and `reads_headingLevel` say it of the three readings.
* `numbers_have_one_meaning` adds what becomes of them in grids and headings.

A number that is too large counts as none and gives the default, whether it is written with digits
or held as a number.  So does one that is held as a floating-point number, even if it is whole, for
that is how `Json.Spells` has it.  Gathering stops at the first digit that would pass the limit, and
as numbers only grow with further digits, nothing within the limit is missed
(`Decimal.gather_eq_iff`).
-/

namespace FormCard

/-! ## 1. Digits -/

namespace Decimal

/-- Further digits never make a number smaller. -/
theorem le_ofDigitChars (acc : Nat) (ds : List Char) : acc ≤ Nat.ofDigitChars 10 ds acc := by
  induction ds generalizing acc with
  | nil => simp
  | cons d ds ih =>
    rw [Nat.ofDigitChars_cons]
    have := ih (10 * acc + (d.toNat - '0'.toNat))
    omega

/-- **Digits are gathered exactly if their number fits.** -/
theorem gather_eq_iff {limit acc : Nat} (fits : acc ≤ limit) (ds : List Char) (n : Nat) :
    gather limit acc ds = (n, []) ↔ Nat.ofDigitChars 10 ds acc = n ∧ n ≤ limit := by
  induction ds generalizing acc with
  | nil =>
    simp only [gather, Prod.mk.injEq, and_true, Nat.ofDigitChars_nil]
    constructor
    · rintro rfl
      exact ⟨rfl, fits⟩
    · exact And.left
  | cons d ds ih =>
    have step : acc * 10 + digitValue d = 10 * acc + (d.toNat - '0'.toNat) := by
      rw [Nat.mul_comm, digitValue]
    rw [gather, Nat.ofDigitChars_cons, ← step]
    by_cases more : acc * 10 + digitValue d ≤ limit
    · rw [if_pos more, ih more]
    · -- the number is too large by now, and the digits behind only add to it
      rw [if_neg more]
      have grows := le_ofDigitChars (acc * 10 + digitValue d) ds
      constructor
      · intro same
        cases (Prod.mk.inj same).2
      · rintro ⟨rfl, small⟩
        omega

theorem digits?_eq_some_iff {limit n : Nat} {cs : List Char} :
    digits? limit cs = some n
      ↔ (cs ≠ [] ∧ ∀ c ∈ cs, c.isDigit = true) ∧ Nat.ofDigitChars 10 cs 0 = n ∧ n ≤ limit := by
  rw [← gather_eq_iff (Nat.zero_le limit)]
  have plain_iff : (cs ≠ [] ∧ cs.all Char.isDigit = true) ↔ cs ≠ [] ∧ ∀ c ∈ cs, c.isDigit = true :=
    and_congr_right fun _ => List.all_eq_true
  unfold digits?
  by_cases plain : cs ≠ [] ∧ cs.all Char.isDigit = true
  · rw [if_pos plain, and_iff_right (plain_iff.1 plain)]
    rcases gather limit 0 cs with ⟨m, _ | ⟨d, ds⟩⟩
    · simp
    · simp
  · rw [if_neg plain]
    constructor
    · intro none
      cases none
    · rintro ⟨absent, -⟩
      exact absurd (plain_iff.2 absent) plain

/-- The characters that write a natural number: digits, at least one of them, behind an optional
plus sign.  There may be any number of digits, and zeros in front. -/
inductive Writes : List Char → Nat → Prop
  | plain {ds : List Char} (nonempty : ds ≠ []) (digits : ∀ c ∈ ds, c.isDigit = true) :
    Writes ds (Nat.ofDigitChars 10 ds 0)
  | signed {ds : List Char} (nonempty : ds ≠ []) (digits : ∀ c ∈ ds, c.isDigit = true) :
    Writes ('+' :: ds) (Nat.ofDigitChars 10 ds 0)

/-- **A number is read exactly if it is written and fits.** -/
theorem natural?_eq_some_iff {limit n : Nat} {cs : List Char} :
    natural? limit cs = some n ↔ Writes cs n ∧ n ≤ limit := by
  unfold natural?
  split
  · next ds =>
    rw [digits?_eq_some_iff]
    constructor
    · rintro ⟨⟨nonempty, digits⟩, rfl, fits⟩
      exact ⟨.signed nonempty digits, fits⟩
    · rintro ⟨writes, fits⟩
      cases writes with
      | plain nonempty digits => exact absurd (digits '+' List.mem_cons_self) (by decide)
      | signed nonempty digits => exact ⟨⟨nonempty, digits⟩, rfl, fits⟩
  · next unsigned =>
    rw [digits?_eq_some_iff]
    constructor
    · rintro ⟨⟨nonempty, digits⟩, rfl, fits⟩
      exact ⟨.plain nonempty digits, fits⟩
    · rintro ⟨writes, fits⟩
      cases writes with
      | plain nonempty digits => exact ⟨⟨nonempty, digits⟩, rfl, fits⟩
      | signed nonempty digits => exact absurd rfl (unsigned _)

/-- The same characters write one number only. -/
theorem Writes.unique {m n : Nat} {cs : List Char} (h : Writes cs m) (h' : Writes cs n) :
    m = n := by
  have first : natural? (max m n) cs = some m := natural?_eq_some_iff.2 ⟨h, Nat.le_max_left m n⟩
  have second : natural? (max m n) cs = some n := natural?_eq_some_iff.2 ⟨h', Nat.le_max_right m n⟩
  exact Option.some.inj (first.symm.trans second)

end Decimal

/-! ## 2. What a property spells -/

/-- The natural number that a value spells: a number that is held as one, or a string that writes
one between blanks. -/
inductive Json.Spells : Json → Nat → Prop
  | number (n : UInt64) : Spells (.number (.natural n)) n.toNat
  | string {s : String} {n : Nat} (writes : Decimal.Writes (Text.trim s).toList n) :
    Spells (.string s) n

namespace Props

/-- Whether the value of a property spells a natural number. -/
def Spells (props : Props) (key : String) (n : Nat) : Prop :=
  ∃ value, props.get? key = some value ∧ value.Spells n

theorem Spells.unique {props : Props} {key : String} {m n : Nat} (h : props.Spells key m)
    (h' : props.Spells key n) : m = n := by
  obtain ⟨value, found, spells⟩ := h
  obtain ⟨value', found', spells'⟩ := h'
  obtain rfl := Option.some.inj (found.symm.trans found')
  cases spells with
  | number n =>
    cases spells'
    rfl
  | string writes =>
    cases spells' with
    | string writes' => exact writes.unique writes'

/-- **The number of a property is the one that it spells,** as long as it has 64 bits. -/
theorem natural?_eq_some_iff {props : Props} {key : String} {n : Nat} :
    props.natural? key = some n ↔ props.Spells key n ∧ n ≤ naturalLimit := by
  unfold natural?
  split
  · next m found =>
    constructor
    · intro same
      obtain rfl := Option.some.inj same
      exact ⟨⟨_, found, .number m⟩, Nat.le_of_lt_succ m.toNat_lt⟩
    · rintro ⟨⟨value, found', spells⟩, -⟩
      obtain rfl := Option.some.inj (found.symm.trans found')
      cases spells
      rfl
  · next s found =>
    rw [Decimal.natural?_eq_some_iff]
    constructor
    · rintro ⟨writes, fits⟩
      exact ⟨⟨_, found, .string writes⟩, fits⟩
    · rintro ⟨⟨value, found', spells⟩, fits⟩
      obtain rfl := Option.some.inj (found.symm.trans found')
      cases spells with
      | string writes => exact ⟨writes, fits⟩
  · next notNumber notString =>
    constructor
    · intro none
      cases none
    · rintro ⟨⟨value, found, spells⟩, -⟩
      cases spells with
      | number m => exact absurd found (notNumber m)
      | string writes => exact absurd found (notString _)

/-! ## 3. Readings within bounds -/

/-- What a reading of a property gives that is for numbers within bounds: the number that the
property spells if it is one of these, and the default in all other cases. -/
structure Reads (props : Props) (key : String) (low high default result : Nat) : Prop where
  inside : ∀ n, props.Spells key n → low ≤ n → n ≤ high → result = n
  outside : (∀ n, props.Spells key n → n < low ∨ high < n) → result = default

/-- A reading sees what a property spells by the number of the property alone, as long as the bounds
are within 64 bits. -/
theorem Reads.of_natural? {props : Props} {key : String} {low high default result : Nat}
    (fits : high ≤ naturalLimit)
    (inside : ∀ n, props.natural? key = some n → low ≤ n → n ≤ high → result = n)
    (outside : (∀ n, props.natural? key = some n → n < low ∨ high < n) → result = default) :
    props.Reads key low high default result := by
  constructor
  · intro n spells least most
    exact inside n (natural?_eq_some_iff.2 ⟨spells, Nat.le_trans most fits⟩) least most
  · intro others
    exact outside fun n found => others n (natural?_eq_some_iff.1 found).1

/-- A reading within bounds stays within them, if the default is. -/
theorem Reads.within {props : Props} {key : String} {low high default result : Nat}
    (h : props.Reads key low high default result) (least : low ≤ default) (most : default ≤ high) :
    low ≤ result ∧ result ≤ high := by
  by_cases spelled : ∃ n, props.Spells key n ∧ low ≤ n ∧ n ≤ high
  · obtain ⟨n, spells, inside⟩ := spelled
    rw [h.inside n spells inside.1 inside.2]
    exact inside
  · have others : ∀ n, props.Spells key n → n < low ∨ high < n := by
      intro n spells
      have : ¬(low ≤ n ∧ n ≤ high) := fun inside => spelled ⟨n, spells, inside⟩
      omega
    rw [h.outside others]
    exact ⟨least, most⟩

/-- A number of 32 bits is kept. -/
theorem toNat_narrow? {n : Nat} (small : n ≤ 2 ^ 32 - 1) :
    ∃ kept, narrow? n = some kept ∧ kept.toNat = n := by
  have small : n < UInt32.size := Nat.lt_of_le_of_lt small (by decide)
  exact ⟨n.toUInt32, if_pos small, UInt32.toNat_ofNat_of_lt' small⟩

theorem narrow?_eq_none {n : Nat} (large : 2 ^ 32 - 1 < n) : narrow? n = none :=
  if_neg (Nat.not_lt.2 large)

/-- **A natural number of a property is read up to 32 bits.** -/
theorem reads_uintOr (props : Props) (key : String) (default : UInt32) :
    props.Reads key 0 (2 ^ 32 - 1) default.toNat (props.uintOr key default).toNat := by
  apply Reads.of_natural? (by decide)
  · rintro n found - most
    obtain ⟨kept, narrow, same⟩ := toNat_narrow? most
    rw [uintOr, found, Option.bind_some, narrow, Option.getD_some, same]
  · intro others
    cases found : props.natural? key with
    | none => rw [uintOr, found, Option.bind_none, Option.getD_none]
    | some n =>
      have large : 2 ^ 32 - 1 < n := (others n found).resolve_left (Nat.not_lt_zero n)
      rw [uintOr, found, Option.bind_some, narrow?_eq_none large, Option.getD_none]

/-- **A positive number of a property is read up to 32 bits.** -/
theorem reads_positiveOr (props : Props) (key : String) (default : UInt32) :
    props.Reads key 1 (2 ^ 32 - 1) default.toNat (props.positiveOr key default).toNat := by
  apply Reads.of_natural? (by decide)
  · intro n found least most
    obtain ⟨kept, narrow, same⟩ := toNat_narrow? most
    have positive : (some n).filter (0 < ·) = some n :=
      Option.filter_some_pos (decide_eq_true least)
    rw [positiveOr, found, positive, Option.bind_some, narrow, Option.getD_some, same]
  · intro others
    cases found : props.natural? key with
    | none => rw [positiveOr, found, Option.filter_none, Option.bind_none, Option.getD_none]
    | some n =>
      rcases others n found with zero | large
      · have none : (some n).filter (0 < ·) = none :=
          Option.filter_some_neg (decide_eq_false (by omega))
        rw [positiveOr, found, none, Option.bind_none, Option.getD_none]
      · have positive : (some n).filter (0 < ·) = some n :=
          Option.filter_some_pos (decide_eq_true (by omega))
        rw [positiveOr, found, positive, Option.bind_some, narrow?_eq_none large, Option.getD_none]

end Props

/-- **The level of a heading is read up to the highest one,** and 8 bits are enough for it. -/
theorem reads_headingLevel (props : Props) :
    props.Reads "level" 1 4 1 (headingLevel props).toNat := by
  have reads := props.reads_positiveOr "level" 1
  constructor
  · intro n spells least most
    have same : (props.positiveOr "level" 1).toNat = n := reads.inside n spells least (by omega)
    have low : props.positiveOr "level" 1 ≤ maxLevel := by
      rw [UInt32.le_iff_toNat_le, same]
      exact most
    rw [headingLevel, if_pos low, UInt32.toNat_toUInt8, same]
    omega
  · intro others
    by_cases low : props.positiveOr "level" 1 ≤ maxLevel
    · -- a number within 32 bits that is not too high is not there, so the level is the default
      have most : (props.positiveOr "level" 1).toNat ≤ 4 := UInt32.le_iff_toNat_le.1 low
      have one : (props.positiveOr "level" 1).toNat = 1 := by
        refine reads.outside fun n spells => ?_
        by_cases inside : 1 ≤ n ∧ n ≤ 2 ^ 32 - 1
        · have := reads.inside n spells inside.1 inside.2
          have := others n spells
          omega
        · omega
      rw [headingLevel, if_pos low, UInt32.toNat_toUInt8, one]
    · rw [headingLevel, if_neg low]
      rfl

/-! ## 4. Numbers that are shown -/

/-- A grid is shown for a component that asks for one, with what is read of its properties. -/
theorem role_of_grid {theme : Theme} {scope : Option Scope} {path : String} {node : Node}
    {desk : Desk} {id : String} {style : Option String} {cols gap : UInt32} {children : List View}
    (shown : (viewNode theme scope path node desk).1 = .frame id style (.grid cols gap) children) :
    node.kind.role = .grid ∧ cols = node.props.positiveOr "cols" defaultCols
      ∧ gap = node.props.uintOr "gap" defaultGap := by
  obtain ⟨id', kind, props, style', inner, field⟩ := node
  cases role : kind.role with
  | grid =>
    simp only [viewNode, role, View.frame.injEq, Frame.grid.injEq] at shown
    obtain ⟨-, -, ⟨rfl, rfl⟩, -⟩ := shown
    exact ⟨rfl, rfl, rfl⟩
  | region => simp [viewNode, role] at shown
  | form => simp [viewNode, role] at shown
  | display display => simp [viewNode, role] at shown
  | editor editor => simp [viewNode, role] at shown
  | button => simp [viewNode, role] at shown
  | unsupported => simp [viewNode, role] at shown

/-- A heading is shown for a component that asks for one, on the level that is read of its
properties. -/
theorem role_of_heading {theme : Theme} {scope : Option Scope} {path : String} {node : Node}
    {desk : Desk} {id : String} {style : Option String} {text : String} {level : UInt8}
    (shown : (viewNode theme scope path node desk).1 = .leaf id style (.heading text level)) :
    node.kind.role = .display .heading ∧ level = headingLevel node.props := by
  obtain ⟨id', kind, props, style', inner, field⟩ := node
  cases role : kind.role with
  | display display =>
    simp only [viewNode, role, View.leaf.injEq] at shown
    obtain ⟨-, -, made⟩ := shown
    cases display with
    | heading => exact ⟨rfl, (Leaf.heading.inj made).2.symm⟩
    | _ => cases made
  | editor editor => cases editor <;> simp [viewNode, role, Leaf.ofEditor] at shown
  | region => simp [viewNode, role] at shown
  | grid => simp [viewNode, role] at shown
  | form => simp [viewNode, role] at shown
  | button => simp [viewNode, role, Leaf.ofButton] at shown
  | unsupported => simp [viewNode, role] at shown

/-- **Every view in an output is the view of a component,** and both stand at the same place. -/
theorem Renderer.exists_node_of_mem {renderer : Renderer} {card : Card} {view : View}
    (mem : view ∈ View.preorderAll (renderer.renderCard card).1.body) :
    ∃ place node theme scope path desk, (renderer.renderCard card).1.at? place = some view
      ∧ card.at? place = some node ∧ (viewNode theme scope path node desk).1 = view := by
  obtain ⟨place, found⟩ := View.exists_place_of_mem_preorderAll _ mem
  have found : (renderer.renderCard card).1.at? place = some view := found
  obtain ⟨theme, path, desk, -, shown⟩ := renderer.at?_renderCard card place
  rw [found] at shown
  obtain ⟨node, reached, made⟩ := Option.map_eq_some_iff.1 shown.symm
  exact ⟨place, node, theme, _, path, desk, found, reached, made⟩

/-! ## 5. Main statement -/

/-- **Numbers in properties have one meaning,** however they are written.  A property spells one
number at most.  If this has 32 bits it is what is read, with the default for zero where a positive
number is asked for; in all other cases the default is read.  So every grid that is shown has at
least one column, and every heading is on a level from one to four, which is the one that the
component spells there or else the first. -/
theorem numbers_have_one_meaning (props : Props) (key : String) (default : UInt32)
    (renderer : Renderer) (card : Card) :
    let output := (renderer.renderCard card).1
    (∀ m n, props.Spells key m → props.Spells key n → m = n)
    ∧ props.Reads key 0 (2 ^ 32 - 1) default.toNat (props.uintOr key default).toNat
    ∧ props.Reads key 1 (2 ^ 32 - 1) default.toNat (props.positiveOr key default).toNat
    ∧ (∀ id style cols gap children,
        .frame id style (.grid cols gap) children ∈ View.preorderAll output.body →
        1 ≤ cols.toNat ∧ cols.toNat ≤ 2 ^ 32 - 1
        ∧ ∃ place node, output.at? place = some (.frame id style (.grid cols gap) children)
          ∧ card.at? place = some node ∧ node.kind.role = .grid
          ∧ node.props.Reads "cols" 1 (2 ^ 32 - 1) 2 cols.toNat
          ∧ node.props.Reads "gap" 0 (2 ^ 32 - 1) 4 gap.toNat)
    ∧ ∀ id style text level, .leaf id style (.heading text level) ∈ View.preorderAll output.body →
        1 ≤ level.toNat ∧ level.toNat ≤ 4
        ∧ ∃ place node, output.at? place = some (.leaf id style (.heading text level))
          ∧ card.at? place = some node ∧ node.kind.role = .display .heading
          ∧ node.props.Reads "level" 1 4 1 level.toNat := by
  intro output
  refine ⟨fun m n => Props.Spells.unique, props.reads_uintOr key default,
    props.reads_positiveOr key default, ?_, ?_⟩
  · intro id style cols gap children mem
    obtain ⟨place, node, theme, scope, path, desk, found, reached, made⟩ :=
      Renderer.exists_node_of_mem mem
    obtain ⟨role, rfl, rfl⟩ := role_of_grid made
    have reads := node.props.reads_positiveOr "cols" defaultCols
    obtain ⟨least, most⟩ := reads.within (by decide) (by decide)
    exact ⟨least, most, place, node, found, reached, role, reads,
      node.props.reads_uintOr "gap" defaultGap⟩
  · intro id style text level mem
    obtain ⟨place, node, theme, scope, path, desk, found, reached, made⟩ :=
      Renderer.exists_node_of_mem mem
    obtain ⟨role, rfl⟩ := role_of_heading made
    have reads := reads_headingLevel node.props
    obtain ⟨least, most⟩ := reads.within (by decide) (by decide)
    exact ⟨least, most, place, node, found, reached, role, reads⟩

/-- Blanks, a plus sign and zeros in front do not count, and a number beyond 64 bits does not start
again from zero. -/
example :
    let props : Props :=
      ⟨[("cols", .string " +0000000000000000000000012\n"), ("gap", .string "18446744073709551617")]⟩
    props.positiveOr "cols" 2 = 12 ∧ props.uintOr "gap" 4 = 4 := by decide

end FormCard
