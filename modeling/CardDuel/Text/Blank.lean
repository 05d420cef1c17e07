import CardDuel.Text.CharRange

/-!
# Blank characters

The characters with the Unicode property `White_Space`.  They separate words
and sentences of card text and are dropped at the ends of every text.
-/

namespace CardDuel.Text

/-- The ranges of `White_Space`: tab to carriage return, space, next line, the
no-break space, and the spaces and separators beyond Latin. -/
def blankRanges : CharRanges :=
  [(9, 13), (32, 32), (133, 133), (160, 160), (0x1680, 0x1680), (0x2000, 0x200A),
   (0x2028, 0x2029), (0x202F, 0x202F), (0x205F, 0x205F), (0x3000, 0x3000)]

/-- Whether `c` separates words. -/
def isBlank (c : Char) : Bool := blankRanges.holds c

/-- Every character that is blank in ASCII is blank. -/
theorem isBlank_of_isWhitespace {c : Char} (h : c.isWhitespace) : isBlank c := by
  simp only [Char.isWhitespace, Bool.or_eq_true, decide_eq_true_eq] at h
  rcases h with ((rfl | rfl) | rfl) | rfl <;> decide

end CardDuel.Text
