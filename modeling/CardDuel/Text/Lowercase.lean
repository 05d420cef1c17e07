import CardDuel.Text.LetterCase

/-!
# Lower case

Card text is read in lower case, and the conditions of effects are compared in
lower case.  A character is replaced by its lower-case form on its own, with
one exception: a capital sigma at the end of a word becomes the final sigma.
-/

namespace CardDuel.Text

/-- The lower-case form of `c` when its neighbours do not matter.  The capital
I with a dot keeps the dot as a mark of its own. -/
def lowerChar (c : Char) : List Char :=
  if c == '\u0130' then ['i', '\u0307'] else
  match caseRuns.find? (·.holds c.toNat) with
  | some run => [Char.ofNat (c.toNat + run.shift).toNat]
  | none => [c]

/-- Whether the first character that counts, going through `cs` from its head,
is a cased letter. -/
def casedNext (cs : List Char) : Bool :=
  match cs.dropWhile caseIgnorableRanges.holds with
  | c :: _ => casedRanges.holds c
  | [] => false

/-- The lower-case form of a text whose characters before it were `before`,
nearest first.  A capital sigma is final when it ends a word: a cased letter
stands before it and none after it. -/
def lowerAfter (before : List Char) : List Char → List Char
  | [] => []
  | c :: cs =>
    (if c == '\u03A3' then
        if casedNext before && !casedNext cs then ['\u03C2'] else ['\u03C3']
      else lowerChar c) ++ lowerAfter (c :: before) cs

/-- The lower-case form of a text. -/
def lower (cs : List Char) : List Char := lowerAfter [] cs

end CardDuel.Text
