/-!
# Blank characters and the text between them

What people write into a card, a setting or an argument is often taken without the blanks around it:
numbers among the properties, colors, the name of an output format, the component that an assignment
on the command line goes to.  A blank is a character of the Unicode property White_Space, not of
ASCII only, and the property is held here as a table of ranges.

Two more notions of the same kind are at home here: the words that blanks separate, which the
arguments of a color function are, and equality up to the case of ASCII letters, which switches in
the environment go by.
-/

namespace FormCard.Text

/-- The code points of White_Space, as ranges with both ends included. -/
def blankRanges : List (Nat × Nat) :=
  [(0x09, 0x0d), (0x20, 0x20), (0x85, 0x85), (0xa0, 0xa0), (0x1680, 0x1680), (0x2000, 0x200a),
   (0x2028, 0x2029), (0x202f, 0x202f), (0x205f, 0x205f), (0x3000, 0x3000)]

/-- A blank has its code point in one of the ranges. -/
def isBlank (c : Char) : Bool :=
  blankRanges.any fun range => range.1 ≤ c.toNat && c.toNat ≤ range.2

def trimStart (cs : List Char) : List Char := cs.dropWhile isBlank

def trimEnd (cs : List Char) : List Char := (cs.reverse.dropWhile isBlank).reverse

def trim (s : String) : String := String.ofList (trimEnd (trimStart s.toList))

/-- The longest runs without a blank, in order. -/
def words : List Char → List (List Char)
  | [] => []
  | c :: cs =>
    if isBlank c then words cs
    else if cs.head?.all isBlank then [c] :: words cs
    else match words cs with
      | [] => [[c]]
      | word :: more => (c :: word) :: more

/-- Two texts agree when the case of ASCII letters is set aside. -/
def eqIgnoringCase (s t : String) : Bool :=
  s.toList.map Char.toLower == t.toList.map Char.toLower

end FormCard.Text
