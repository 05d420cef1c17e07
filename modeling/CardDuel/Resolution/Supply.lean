import CardDuel.Resolution.Request

/-!
# Hand and deck

Effects that draw cards, turn the top of a deck over into the graveyard, discard
from a hand, or search a deck.  A deck that runs short is no failure of a draw:
the outcome tells how many cards there were.  But a draw asks for room for all cards
that are wanted before it draws the first one.
-/

namespace CardDuel.Resolution

/-- Puts as many cards as there are, at most `count`, from the top of a deck into
the hand.  Room for `count` cards is needed at all events. -/
def draw (seat : Seat) (count : Nat) (s : Scene) : Outcome × Scene :=
  let drawn := (s.side seat).deck.take count
  let wanted := toString count
  let got := toString drawn.length
  let after := ((s.reserve count).change (·.modifySide seat (·.turnOver count .hand))).record {
    type := .cardDrawn
    seat := some seat
    description := seat.title ++ " drew " ++ got ++ " card(s)"
    details := [("requested", .nat count), ("count", .nat drawn.length),
      ("cards", .list (drawn.map fun card => .nat card.number))] }
  if drawn.length < count then
    (.done ("Drew " ++ got ++ " of " ++ wanted ++ " card(s) (deck empty)"), after)
  else (.done ("Drew " ++ wanted ++ " card(s)"), after)

/-- Puts the top card of a deck, which is `card`, into the graveyard. -/
def millTop (setup : Setup) (seat : Seat) (card : CardRef) (s : Scene) : Unit × Scene :=
  ((), (s.change (·.modifySide seat (·.turnOver 1 .graveyard))).record {
    type := .cardToGraveyard
    seat := some seat
    description :=
      setup.nameOf s.table card ++ " was sent from the deck to the graveyard"
    details := setup.cardDetails s.table card ++
      [("from", .text Zone.deck.label), ("reason", .text "mill")] })

/-- Puts as many cards as there are, at most `count`, from the top of a deck into
the graveyard.  An empty deck is a failure. -/
def mill (setup : Setup) (seat : Seat) (count : Nat) (s : Scene) : Outcome × Scene :=
  let deck := (s.side seat).deck
  if deck.isEmpty then (.failed "No cards left in deck to mill", s)
  else
    let milled := deck.take count
    let (_, after) := s.each (millTop setup seat) milled
    let wanted := toString count
    let got := toString milled.length
    if milled.length < count then
      (.done ("Milled " ++ got ++ " of " ++ wanted ++ " card(s) (deck empty)"), after)
    else (.done ("Milled " ++ wanted ++ " card(s)"), after)

/-- Puts a card into the graveyard as a discard of a player. -/
def discardCard (setup : Setup) (seat : Seat) (card : CardRef) (s : Scene) : Unit × Scene :=
  ((), (s.change (·.moveToPile card .graveyard .top)).record {
    type := .cardDiscarded
    seat := some seat
    description := setup.nameOf s.table card ++ " was discarded"
    details := setup.cardDetails s.table card })

/-- Discards at most `count` of the targets that are in the hand or, without
targets, at most `count` random cards of the hand.  The random choice takes its
words from the stream even if nothing is then discarded. -/
def discard (setup : Setup) (seat : Seat) (count : Nat) (targets : List CardRef)
    (s : Scene) : Outcome × Scene :=
  let hand := (s.side seat).hand
  let (pool, rng) :=
    if targets.isEmpty then s.table.rng.shuffle hand
    else (targets.filter (· ∈ hand), s.table.rng)
  let s := s.change ({ · with rng := rng })
  let chosen := pool.take count
  if chosen.isEmpty then (.failed "No cards in hand to discard", s)
  else
    let (_, after) := s.each (discardCard setup seat) chosen
    let wanted := toString count
    let got := toString chosen.length
    if chosen.length < count then
      (.done ("Discarded " ++ got ++ " of " ++ wanted ++ " card(s)"), after)
    else (.done ("Discarded " ++ wanted ++ " card(s)"), after)

/-- The news that a card was added to the hand of a player. -/
def toHandNews (setup : Setup) (t : Table) (seat : Seat) (zone : Zone) (card : CardRef) :
    News where
  type := .cardToHand
  seat := some seat
  description := setup.nameOf t card ++ " was added to the hand from the " ++ zone.phrase
  details := setup.cardDetails t card ++ [("from", .text zone.label)]

/-- Puts a card of a deck into the hand and answers its name. -/
def takeFromDeck (setup : Setup) (seat : Seat) (card : CardRef) (s : Scene) :
    String × Scene :=
  (setup.nameOf s.table card,
    (s.change (·.moveToPile card .hand .top)).record
      (toHandNews setup s.table seat .deck card))

/-- The news that a player searched the deck and took `count` cards. -/
def searchNews (seat : Seat) (count : Nat) (condition : Option String) : News where
  type := .deckSearched
  seat := some seat
  description := seat.title ++ " searched their deck"
  details := [("count", .nat count), ("condition", .text (condition.getD ""))]

/-- Takes cards out of the deck of the player into the hand, and shuffles the
deck. -/
def search (setup : Setup) (r : Request) (s : Scene) : Outcome × Scene :=
  let seat := r.actor
  let cards := r.candidates setup s.table seat .deck
  if cards.isEmpty then (.failed "No matching card found in your deck", s)
  else
    let (names, s) := s.each (takeFromDeck setup seat) cards
    let after := (s.change (·.shuffleDeck seat)).record
      (searchNews seat names.length r.effect.condition)
    (.done ("Added " ++ ", ".intercalate names ++ " from deck to hand"), after)

end CardDuel.Resolution
