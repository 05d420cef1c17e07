import CardDuel.Text.Words

/-!
# Sentences of card text

A sentence ends with a run of full stops, exclamation marks and question marks
that is followed by a blank or by the end of the text.  A mark inside a word,
as in "1.5", ends nothing.
-/

namespace CardDuel.CardText

/-- Whether `c` can end a sentence. -/
def isStop (c : Char) : Bool := c == '.' || c == '!' || c == '?'

/-- The pieces between the ends of sentences, for a text that goes on after
`piece` and the marks `stops`, both given backwards. -/
def piecesAfter (piece stops : List Char) : List Char → List (List Char)
  | [] => [piece.reverse]
  | c :: cs =>
    if isStop c then piecesAfter piece (c :: stops) cs
    else if Text.isBlank c && !stops.isEmpty then piece.reverse :: piecesAfter [] [] cs
    else piecesAfter (c :: (stops ++ piece)) [] cs

/-- The sentences of a text, without the marks that end them, without the
blanks around them, and without the empty ones. -/
def sentences (text : List Char) : List (List Char) :=
  ((piecesAfter [] [] text).map Text.trim).filter (!·.isEmpty)

end CardDuel.CardText
