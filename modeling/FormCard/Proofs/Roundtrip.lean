import FormCard.Card.Decode
import FormCard.Proofs.Numeral

/-!
# Reading what was written

Editors of cards read a card, change it, and write it back.  Nothing should change besides.  A card
can be written as a value and read again, and this module says exactly when it comes back.

Writing leaves out what is empty and reading makes up for what is missing, so not every component
comes back: an empty name of a field is lost, and a kind that is marked as unknown against its
spelling is read as the tag that it spells.  Reading itself makes no such components.  The one thing
to worry about is a type that is no string, since it is read as an unknown kind with the text of the
value for a name; but no such text spells a tag.  It holds a bracket or a quote, or it is the text
of a number or one of three words.

* `Json.ofName?_compact`: the text of a value that is no string is no tag.
* `Node.readable_ofJson` and `Node.ofJson_toJson_iff`: what is read is readable, and exactly the
  readable components come back.  `Card.ofJson?_toJson_iff` says so of cards.
* `reading_undoes_writing`: so whatever is read comes back.

What comes back is the same component, with its properties in their order.  The document itself may
change: members that the program does not know are not written.
-/

namespace FormCard

open Members Json

/-! ## 1. Texts that are no tags -/

namespace Tag

theorem all_isAlpha_name (tag : Tag) : tag.name.toList.all Char.isAlpha = true := by
  cases tag <;> decide

/-- Every tag has a letter that no text of a number has. -/
theorem not_all_isNumeral_name (tag : Tag) : tag.name.toList.all Decimal.isNumeral = false := by
  cases tag <;> decide

theorem ofName?_eq_none {name : String} (other : ∀ tag : Tag, tag.name ≠ name) :
    ofName? name = none :=
  List.find?_eq_none.2 fun tag _ same => other tag (by simpa using same)

end Tag

/-- **The text of a value that is no string is no tag:** it holds a bracket, or it is a number or
one of three words. -/
theorem Json.ofName?_compact {value : Json} (other : value.string? = none) :
    Tag.ofName? value.compact = none := by
  cases value with
  | null => decide
  | bool b => cases b <;> decide
  | number n =>
    refine Tag.ofName?_eq_none fun tag same => ?_
    have text : tag.name = n.text := same
    have numerals := tag.not_all_isNumeral_name
    rw [text, List.all_eq_true.2 fun c => Number.isNumeral_of_mem_text] at numerals
    simp at numerals
  | string s => simp [Json.string?] at other
  | array items =>
    refine Tag.ofName?_eq_none fun tag same => ?_
    have := List.all_eq_true.1 tag.all_isAlpha_name '[' (by simp [same, compact])
    simp at this
  | object members =>
    refine Tag.ofName?_eq_none fun tag same => ?_
    have := List.all_eq_true.1 tag.all_isAlpha_name '\x7b' (by simp [same, compact])
    simp at this

/-- Whether a kind is the one that its spelling names. -/
def Kind.IsNamed (kind : Kind) : Prop := Kind.ofName kind.name = kind

instance (kind : Kind) : Decidable kind.IsNamed := inferInstanceAs (Decidable (_ = _))

theorem Kind.isNamed_unknown {s : String} (other : Tag.ofName? s = none) :
    (unknown s).IsNamed := by
  simp [IsNamed, name, ofName, other]

/-- **A kind that is read is the one that its spelling names.** -/
theorem Kind.isNamed_ofJson (type : Option Json) : (Kind.ofJson type).IsNamed := by
  cases type with
  | none => exact isNamed_unknown (by decide)
  | some value =>
    cases value with
    | string name => exact congrArg ofName (name_ofName name)
    | _ => exact isNamed_unknown (Json.ofName?_compact rfl)

/-- A tag of the vocabulary that is marked as unknown is read as the tag. -/
example : ¬ (Kind.unknown "text").IsNamed ∧ (Kind.ofJson (some (.array []))).IsNamed := by decide

/-! ## 2. Components that come back -/

namespace Node

/-- Whether no part of a component by itself is lost in writing or changed in reading. -/
def IsPlain (node : Node) : Prop := node.kind.IsNamed ∧ node.field ≠ some ""

/-- Whether this is so of a component and of all below it. -/
def Readable (node : Node) : Prop := ∀ inner ∈ node.preorder, inner.IsPlain

theorem readable_iff {node : Node} :
    node.Readable ↔ node.IsPlain ∧ ∀ inner ∈ preorderAll node.children, inner.IsPlain := by
  rw [Readable, preorder_eq, List.forall_mem_cons]

/-- What stands in for an entry that is no object comes back. -/
theorem readable_invalid : (plain "" .invalid).Readable :=
  readable_iff.2 ⟨⟨Kind.isNamed_unknown (by decide), by simp [plain]⟩,
    by simp [plain, preorderAll]⟩

mutual

/-- **What is read from a value comes back.** -/
theorem readable_ofJson : (value : Json) → (ofJson value).Readable
  | .object members =>
    readable_iff.2 ⟨⟨Kind.isNamed_ofJson _, by simp [ofJson, Option.filter_eq_some_iff]⟩,
      readable_childrenIn members⟩
  | .null | .bool _ | .number _ | .string _ | .array _ => readable_invalid

theorem readable_listOfJson : (value : Json) →
    ∀ inner ∈ preorderAll (listOfJson value), inner.IsPlain
  | .array items => readable_ofItems items
  | .null | .bool _ | .number _ | .string _ | .object _ => by simp [listOfJson, preorderAll]

theorem readable_ofItems : (items : List Json) →
    ∀ inner ∈ preorderAll (ofItems items), inner.IsPlain
  | [] => by simp [ofItems, preorderAll]
  | item :: items => by
    rw [ofItems, preorderAll, List.forall_mem_append]
    exact ⟨readable_ofJson item, readable_ofItems items⟩

theorem readable_childrenIn : (members : List (String × Json)) →
    ∀ inner ∈ preorderAll (childrenIn members), inner.IsPlain
  | [] => by simp [childrenIn, preorderAll]
  | (key, value) :: members => by
    rw [childrenIn]
    split
    · exact readable_listOfJson value
    · exact readable_childrenIn members

end

/-! ## 3. Writing and reading -/

/-- Text that may be left out is read as it was. -/
theorem bind_string?_map (text : Option String) : (text.map Json.string).bind string? = text := by
  cases text <;> rfl

/-- Properties that are left out when there are none are read as they were. -/
theorem membersOf_written (members : List (String × Json)) :
    membersOf (if members.isEmpty then none else some (.object members)) = members := by
  cases members <;> rfl

/-- Items that are left out when there are none are read as they were. -/
theorem read_nonempty? (items : List Json) :
    ((nonempty? items).map listOfJson).getD [] = ofItems items := by
  cases items <;> rfl

mutual

/-- **A component that is written comes back.** -/
theorem ofJson_toJson : (node : Node) → node.Readable → ofJson node.toJson = node
  | ⟨id, kind, props, style, children, field⟩, readable => by
    obtain ⟨⟨named, nonempty⟩, below⟩ := readable_iff.1 readable
    have inside := ofItems_toItems children below
    have kept : (field.filter fun name => name ≠ "") = field := by
      cases field with
      | none => rfl
      | some name =>
        have : name ≠ "" := fun empty => nonempty (congrArg some empty)
        simp [Option.filter, this]
    -- each key is looked up among the members that may be there
    simp only [toJson, ofJson, childrenIn_eq, List.lookup_append, lookup_member?, lookup_cons,
      List.lookup_nil, String.reduceEq, if_true, if_false, Option.none_or, Option.or_none,
      bind_string?_map, membersOf_written, read_nonempty?, mk.injEq, true_and]
    exact ⟨rfl, named, inside, kept⟩

/-- Components that are written come back. -/
theorem ofItems_toItems : (nodes : List Node) → (∀ inner ∈ preorderAll nodes, inner.IsPlain) →
    ofItems (toItems nodes) = nodes
  | [], _ => rfl
  | node :: nodes, plain => by
    rw [preorderAll, List.forall_mem_append] at plain
    rw [toItems, ofItems, ofJson_toJson node plain.1, ofItems_toItems nodes plain.2]

end

/-- **Exactly the readable components come back.** -/
theorem ofJson_toJson_iff (node : Node) : ofJson node.toJson = node ↔ node.Readable :=
  ⟨fun back => back ▸ readable_ofJson node.toJson, ofJson_toJson node⟩

end Node

/-! ## 4. Main statement -/

/-- Every palette comes back, the one without colors included. -/
theorem Palette.ofJson?_toJson (palette : Palette) : ofJson? palette.toJson = some palette := by
  simp only [toJson, ofJson?, List.lookup_append, lookup_member?, String.reduceEq, if_true,
    if_false, Option.none_or, Option.or_none, Node.bind_string?_map]

/-- **A card whose components are readable comes back.** -/
theorem Card.ofJson?_toJson {card : Card}
    (plain : ∀ node ∈ Node.preorderAll card.body, node.IsPlain) :
    ofJson? card.toJson = some card := by
  obtain ⟨title, palette, body⟩ := card
  have colors : (palette.map Palette.toJson).bind Palette.ofJson? = palette := by
    cases palette with
    | none => rfl
    | some palette => exact palette.ofJson?_toJson
  have back : Node.listOfJson (.array (Node.toItems body)) = body := Node.ofItems_toItems body plain
  simp only [toJson, ofJson?, List.lookup_append, lookup_member?, lookup_cons, List.lookup_nil,
    String.reduceEq, if_true, if_false, Option.none_or, Option.or_none, colors]
  simp [back, string?]

/-- The components of a card that is read are readable. -/
theorem Card.isPlain_of_ofJson? {members : List (String × Json)} {card : Card}
    (read : ofJson? (.object members) = some card) :
    ∀ node ∈ Node.preorderAll card.body, node.IsPlain := by
  obtain rfl := Option.some.inj read
  cases members.lookup "body" with
  | none => simp [Node.preorderAll]
  | some value => exact Node.readable_listOfJson value

/-- **Exactly the cards whose components are readable come back.** -/
theorem Card.ofJson?_toJson_iff (card : Card) :
    ofJson? card.toJson = some card ↔ ∀ node ∈ Node.preorderAll card.body, node.IsPlain :=
  ⟨fun back => isPlain_of_ofJson? back, ofJson?_toJson⟩

/-- **Reading undoes writing.**  Whatever a component is read from, writing it and reading the value
gives the component again, with its properties in their order and everything inside.  The same holds
of the card that any object is read as, whether it has colors or not.  Components and cards from
elsewhere come back exactly if no field in them has an empty name and no kind in them is marked as
unknown against its spelling. -/
theorem reading_undoes_writing :
    (∀ value, Node.ofJson (Node.ofJson value).toJson = Node.ofJson value)
    ∧ (∀ members, ∃ card, Card.ofJson? (.object members) = some card
      ∧ Card.ofJson? card.toJson = some card)
    ∧ (∀ node : Node, Node.ofJson node.toJson = node ↔ node.Readable)
    ∧ ∀ card : Card, Card.ofJson? card.toJson = some card
      ↔ ∀ node ∈ Node.preorderAll card.body, node.IsPlain := by
  refine ⟨fun value => Node.ofJson_toJson _ (Node.readable_ofJson value), fun members => ?_,
    Node.ofJson_toJson_iff, Card.ofJson?_toJson_iff⟩
  exact ⟨_, rfl, Card.ofJson?_toJson (Card.isPlain_of_ofJson? rfl)⟩

end FormCard
