import CardDuel.Text.Pattern.Search

/-!
# The wordings of card text

The phrases by which clauses are recognised, in lower case.  They are searched
for anywhere in a clause, so that flavour around them does no harm, except for
the phrase of a standing modifier, which opens its clause.
-/

namespace CardDuel.CardText

open CardDuel.Text
open CardDuel.Text.Pattern

/-- A number of cards: digits, an article, or a word up to five. -/
def countPhrase : Pattern :=
  .mark .count (.alt digits (anyWord "a" ["an", "one", "two", "three", "four", "five"]))

/-- A number of life points or points of ATK, in digits. -/
def amountPhrase : Pattern := .mark .amount digits

/-- "gain" or "lose", with the ending of a single subject. -/
def gainPhrase : Pattern :=
  all [.mark .direction (anyWord "gain" ["lose"]), opt (.word "s")]

/-- A timing, a colon, and the clause that it belongs to. -/
def timedPhrase : Pattern :=
  all [.start, .mark .qualifier (.most 1 (· != ':')), .word ":", blanks 0,
    .mark .body (line 1), .finish]

/-- Safety from battle. -/
def battleShieldPhrase : Pattern := .word "cannot be destroyed by battle"

/-- Safety from effects. -/
def effectShieldPhrase : Pattern :=
  all [.word "cannot be destroyed by ", opt (anyWord "battle or " ["battle and "]),
    opt (anyWord "card " ["spell ", "trap "]), .word "effects"]

/-- Safety from being chosen as a target. -/
def targetShieldPhrase : Pattern := .word "cannot be targeted"

/-- A letter of a monster type in lower case. -/
def isTypeLetter (c : Char) : Bool := 'a' ≤ c && c ≤ 'z'

/-- A change of ATK for all monsters, perhaps of one type only, that stands as
long as its card is in play. -/
def modifierPhrase : Pattern :=
  all [.start, .word "all ",
    opt (all [.mark .condition
        (.seq (.one isTypeLetter) (.fewest 0 fun c => isTypeLetter c || c == ' ')),
      .one (fun c => c == '-' || c == ' '), .word "type "]),
    .word "monsters", opt (.mark .own (.word " you control")), .word " ", gainPhrase,
    .word " ", amountPhrase, .word " atk"]

/-- Drawing cards. -/
def drawPhrase : Pattern :=
  all [.edge, .word "draw", opt (.word "s"), .word " ", countPhrase, .word " card",
    opt (.word "s")]

/-- Discarding cards. -/
def discardPhrase : Pattern :=
  all [.edge, .word "discard", opt (.word "s"), .word " ", countPhrase,
    opt (.word " random"), .word " card", opt (.word "s")]

/-- Sending cards from the top of a deck to the graveyard. -/
def millPhrase : Pattern :=
  .seq .edge <| .alt
    (all [.word "send the top ", countPhrase, .word " card", opt (.word "s"), .word " of ",
      .mark .whose (anyWord "your opponent's" ["your"]), .word " deck to the graveyard"])
    (all [.word "mill ", countPhrase])

/-- Destroying cards. -/
def destroyPhrase : Pattern :=
  all [.edge, .word "destroy", .edge, opt (.word " up to"),
    opt (all [.word " ", countPhrase, .edge])]

/-- Dealing damage. -/
def damagePhrase : Pattern :=
  all [.edge, anyWord "deal" ["deals", "inflict", "inflicts"], .word " ", amountPhrase,
    .word " ", opt (.word "points of "), .word "damage"]

/-- Gaining life points. -/
def gainLifePhrase : Pattern :=
  all [.edge, .word "gain", opt (.word "s"), .word " ", amountPhrase, .word " ",
    .alt (.word "lp") (all [.word "life point", opt (.word "s")]), .edge]

/-- Returning a card to a deck. -/
def toDeckPhrase : Pattern :=
  all [.edge, anyWord "shuffle" ["return", "place"], opt (.word "s"), .edge, line 0, .edge,
    anyWord "into" ["to", "on"], .edge, line 0, .edge, .word "deck", .edge]

/-- Adding cards from a deck or graveyard to the hand. -/
def addToHandPhrase : Pattern :=
  all [.edge, .word "add", opt (all [.word " ", countPhrase]), blanks 0,
    .mark .what (.fewest 0 (· != '\n')), blanks 0, .word "from your ",
    .mark .source (anyWord "graveyard" ["deck"]), .word " to your hand"]

/-- Returning cards in play to the hand. -/
def backToHandPhrase : Pattern :=
  all [.edge, .word "return", opt (.word "s"), opt (all [.word " ", countPhrase]),
    opt (.word " target"), .word " ", anyWord "monster" ["card"], opt (.word "s"), .edge,
    line 0, .edge, .word "to ", anyWord "its" ["their", "the", "your"],
    opt (all [.word " owner", opt (.word "'"), .word "s", opt (.word "'")]),
    .word " hand"]

/-- Summoning a monster outside the one Normal Summon of the turn. -/
def summonPhrase : Pattern :=
  all [.edge, .word "special summon", opt (all [.word " ", countPhrase]), blanks 0,
    .mark .what (.fewest 0 (· != '\n')),
    opt (all [blanks 1, .word "from your ",
      .mark .source (anyWord "hand" ["graveyard", "deck"])]),
    .finish]

/-- Negating the effects of a card. -/
def negatePhrase : Pattern := all [.edge, .word "negate", .edge]

/-- Banishing cards. -/
def banishPhrase : Pattern :=
  all [.edge, .word "banish", .edge, opt (all [.word " ", countPhrase, .edge])]

/-- Sending cards to the graveyard. -/
def toGraveyardPhrase : Pattern :=
  all [.edge, .word "send", opt (all [.word " ", countPhrase]), .edge, line 0, .edge,
    .word "to the graveyard"]

/-- A change of ATK. -/
def changeAttackPhrase : Pattern :=
  all [.edge, gainPhrase, .word " ", amountPhrase, .word " atk"]

/-- A change that ends with the turn. -/
def untilEndPhrase : Pattern :=
  all [.word "until ", opt (.word "the "), .word "end of ",
    opt (anyWord "this " ["the "]), .word "turn"]

end CardDuel.CardText
