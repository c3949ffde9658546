import FormCard.Json.Writer

/-!
# What the texts of numbers are made of

Numbers are printed in two formats and by a procedure that is not simple, and for some purposes it
is enough to know which characters can occur in what is printed.  The text of a number holds no line
break, which matters to the outline, and it spells no tag, which matters to components whose type is
a number.

The text of a number is made of digits, signs, a point and the letter in front of an exponent, in
whatever layout.  Only the words for what is not a finite number are left to the layout
(`Decimal.mem_render`).  In JSON there is one such word, and it is spelled with letters that are
counted in here (`Number.isNumeral_of_mem_text`).  The proof follows the text as it is put together
and asks nothing about which digits are chosen.
-/

namespace FormCard

namespace Decimal

/-- Whether a character occurs in texts of numbers, the word for a missing number included. -/
def isNumeral (c : Char) : Bool := c.isDigit || "+-.enul".toList.contains c

theorem isNumeral_of_mem_toDigits {c : Char} {n : Nat} (mem : c ∈ Nat.toDigits 10 n) :
    isNumeral c = true := by
  simp [isNumeral, Nat.isDigit_of_mem_toDigits (by decide) (by decide) mem]

namespace Layout

variable {c : Char} {digits : List Char} {exponent : Int}

theorem mem_positionalText {layout : Layout} (mem : c ∈ layout.positionalText digits exponent) :
    c ∈ digits ∨ c = '0' ∨ c = '.' := by
  unfold positionalText at mem
  split at mem
  · simp only [List.cons_append, List.mem_cons, List.mem_append, List.mem_replicate] at mem
    rcases mem with zero | point | ⟨-, zero⟩ | own
    · exact .inr (.inl zero)
    · exact .inr (.inr point)
    · exact .inr (.inl zero)
    · exact .inl own
  · dsimp only at mem
    split at mem
    · simp only [List.mem_append, List.mem_replicate] at mem
      rcases mem with (own | zero) | tail
      · exact .inl own
      · exact .inr (.inl zero.2)
      · split at tail
        · simp only [List.mem_cons, List.not_mem_nil, or_false] at tail
          exact .inr tail.symm
        · simp at tail
    · simp only [List.mem_append, List.mem_cons] at mem
      rcases mem with front | point | back
      · exact .inl (List.mem_of_mem_take front)
      · exact .inr (.inr point)
      · exact .inl (List.mem_of_mem_drop back)

theorem mem_scientificText (mem : c ∈ scientificText digits exponent) :
    c ∈ digits ∨ isNumeral c = true := by
  unfold scientificText at mem
  simp only [List.mem_append, List.mem_cons] at mem
  rcases mem with mantissa | letter | sign | power
  · split at mantissa
    · simp at mantissa
    · exact .inl mantissa
    · simp only [List.mem_cons] at mantissa ⊢
      rcases mantissa with first | point | more
      · exact .inl (.inl first)
      · exact .inr (point ▸ by decide)
      · exact .inl (.inr more)
  · exact .inr (letter ▸ by decide)
  · refine .inr ?_
    rw [sign]
    split <;> decide
  · exact .inr (isNumeral_of_mem_toDigits power)

/-- **Digits are laid out with characters of numbers alone.** -/
theorem isNumeral_of_mem_text {layout : Layout} (all : ∀ d ∈ digits, isNumeral d = true)
    (mem : c ∈ layout.text digits exponent) : isNumeral c = true := by
  unfold text at mem
  split at mem
  · rcases mem_positionalText mem with own | rfl | rfl
    · exact all c own
    · decide
    · decide
  · exact (mem_scientificText mem).elim (all c) id

end Layout

/-- The digits that are searched for a number are digits. -/
theorem isNumeral_of_mem_shortest {c : Char} {interval : Interval} {tie : Tie}
    (mem : c ∈ (interval.shortest tie).1) : isNumeral c = true := by
  unfold Interval.shortest at mem
  dsimp only at mem
  have digit := (List.dropWhile_suffix _).subset (List.mem_reverse.1 mem)
  exact isNumeral_of_mem_toDigits (List.mem_reverse.1 digit)

/-- **The text of a floating-point number is made of characters of numbers,** unless it is one of
the words for what is not finite. -/
theorem mem_render {c : Char} {layout : Layout} {x : Float} (mem : c ∈ (render layout x).toList) :
    isNumeral c = true ∨ c ∈ layout.nan.toList ∨ c ∈ layout.infinity.toList
      ∨ c ∈ layout.negativeInfinity.toList := by
  unfold render at mem
  dsimp only at mem
  split at mem
  · exact .inr (.inl mem)
  · split at mem
    · split at mem
      · exact .inr (.inr (.inr mem))
      · exact .inr (.inr (.inl mem))
    · -- a finite number: its layout, with a sign in front or not
      rw [String.toList_ofList] at mem
      have signed : ∀ {body : List Char} {sign : Bool}, (∀ d ∈ body, isNumeral d = true) →
          c ∈ (if sign then '-' :: body else body) → isNumeral c = true := by
        intro body sign all mem
        cases sign with
        | false => exact all c mem
        | true =>
          rcases List.mem_cons.1 mem with rfl | own
          · decide
          · exact all c own
      refine .inl (signed (fun d own => ?_) mem)
      split at own
      · exact Layout.isNumeral_of_mem_text (List.forall_mem_singleton.2 rfl) own
      · exact Layout.isNumeral_of_mem_text (fun _ => isNumeral_of_mem_shortest) own

/-- **The text of a natural number is made of characters of numbers.** -/
theorem isNumeral_of_mem_natural {c : Char} {n : Nat} (mem : c ∈ (text n).toList) :
    isNumeral c = true := by
  rw [text, String.toList_ofList] at mem
  exact isNumeral_of_mem_toDigits mem

end Decimal

/-- **The text of a number is made of characters of numbers.** -/
theorem Number.isNumeral_of_mem_text {c : Char} {n : Number} (mem : c ∈ n.text.toList) :
    Decimal.isNumeral c = true := by
  cases n with
  | natural n => exact Decimal.isNumeral_of_mem_natural mem
  | negative n =>
    rw [text, Decimal.integerText] at mem
    split at mem
    · rw [String.toList_append] at mem
      rcases List.mem_append.1 mem with sign | number
      · obtain rfl := List.mem_singleton.1 sign
        decide
      · exact Decimal.isNumeral_of_mem_natural number
    · exact Decimal.isNumeral_of_mem_natural mem
  | float x =>
    -- JSON has one word for all that is not finite
    have word : "null".toList.all Decimal.isNumeral = true := by decide
    rcases Decimal.mem_render mem with numeral | nan | infinity | negative
    · exact numeral
    · exact List.all_eq_true.1 word c nan
    · exact List.all_eq_true.1 word c infinity
    · exact List.all_eq_true.1 word c negative

end FormCard
