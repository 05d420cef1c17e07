import CardDuel.Text.Blank

/-!
# Trimming, words and occurrences

Plain operations on texts, given as lists of characters: dropping blanks at the
ends, cutting into words, looking for a piece of text, and joining pieces.
-/

namespace CardDuel.Text

/-- The text without the blanks at its start. -/
def trimStart (cs : List Char) : List Char := cs.dropWhile isBlank

/-- The text without the blanks at its end. -/
def trimEnd (cs : List Char) : List Char := (cs.reverse.dropWhile isBlank).reverse

/-- The text without the blanks at its ends. -/
def trim (cs : List Char) : List Char := trimEnd (trimStart cs)

/-- The words of a text that starts inside a word, of which `word` has been
read, given backwards. -/
def wordsAfter (word : List Char) : List Char → List (List Char)
  | [] => if word.isEmpty then [] else [word.reverse]
  | c :: cs =>
    if isBlank c then
      if word.isEmpty then wordsAfter [] cs else word.reverse :: wordsAfter [] cs
    else wordsAfter (c :: word) cs

/-- The words of a text: its longest pieces without a blank. -/
def words (cs : List Char) : List (List Char) := wordsAfter [] cs

/-- What follows `piece` in a text that starts with it. -/
def after? : (piece : List Char) → List Char → Option (List Char)
  | [], cs => some cs
  | _ :: _, [] => none
  | p :: ps, c :: cs => if p == c then after? ps cs else none

/-- Whether `piece` occurs somewhere in the text. -/
def mentions (piece : List Char) : List Char → Bool
  | [] => piece.isEmpty
  | c :: cs => (after? piece (c :: cs)).isSome || mentions piece cs

/-- The text without any copies of `ending` at its end. -/
def dropEndings (ending : List Char) (cs : List Char) : List Char :=
  (strip ending.reverse cs.reverse cs.length).reverse
where
  /-- Drops copies of `piece` from the start, at most `limit` of them. -/
  strip (piece cs : List Char) : Nat → List Char
    | 0 => cs
    | limit + 1 =>
      match after? piece cs with
      | some rest => strip piece rest limit
      | none => cs

end CardDuel.Text
