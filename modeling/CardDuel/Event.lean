import CardDuel.Document
import CardDuel.Names
import CardDuel.Seat

/-!
# Events

What happened in a match.  Every change of a match is recorded as an event with
a sentence for people and details for programs.
-/

namespace CardDuel

/-- What kind of thing happened. -/
inductive EventType where
  | gameStart
  | gameEnd
  | turnStart
  | turnEnd
  | phaseChanged
  | normalSummon
  | tributeSummon
  | tributePaid
  | monsterSet
  | flipSummon
  | specialSummon
  | positionChanged
  | spellSet
  | trapSet
  | spellActivated
  | trapActivated
  | effectActivated
  | effectNegated
  | chainLinkAdded
  | chainResolved
  | cardDrawn
  | cardToGraveyard
  | cardToHand
  | cardBanished
  | cardReturnedToDeck
  | cardDiscarded
  | deckSearched
  | handLimitEnforced
  | lifeChanged
  | attackModified
  deriving DecidableEq, Repr

namespace EventType

/-- All event types in their order. -/
def all : List EventType :=
  [gameStart, gameEnd, turnStart, turnEnd, phaseChanged, normalSummon, tributeSummon,
   tributePaid, monsterSet, flipSummon, specialSummon, positionChanged, spellSet, trapSet,
   spellActivated, trapActivated, effectActivated, effectNegated, chainLinkAdded,
   chainResolved, cardDrawn, cardToGraveyard, cardToHand, cardBanished,
   cardReturnedToDeck, cardDiscarded, deckSearched, handLimitEnforced, lifeChanged,
   attackModified]

theorem mem_all (type : EventType) : type ∈ all := by cases type <;> decide

/-- The name of the event type. -/
def label : EventType → String
  | gameStart => "game_start"
  | gameEnd => "game_end"
  | turnStart => "turn_start"
  | turnEnd => "turn_end"
  | phaseChanged => "phase_changed"
  | normalSummon => "normal_summon"
  | tributeSummon => "tribute_summon"
  | tributePaid => "tribute_paid"
  | monsterSet => "monster_set"
  | flipSummon => "flip_summon"
  | specialSummon => "special_summon"
  | positionChanged => "position_changed"
  | spellSet => "spell_set"
  | trapSet => "trap_set"
  | spellActivated => "spell_activated"
  | trapActivated => "trap_activated"
  | effectActivated => "effect_activated"
  | effectNegated => "effect_negated"
  | chainLinkAdded => "chain_link_added"
  | chainResolved => "chain_resolved"
  | cardDrawn => "card_drawn"
  | cardToGraveyard => "card_to_graveyard"
  | cardToHand => "card_to_hand"
  | cardBanished => "card_banished"
  | cardReturnedToDeck => "card_returned_to_deck"
  | cardDiscarded => "card_discarded"
  | deckSearched => "deck_searched"
  | handLimitEnforced => "hand_limit_enforced"
  | lifeChanged => "lp_changed"
  | attackModified => "atk_modified"

end EventType

/-- Something that happened, before it is given its place in a log. -/
structure News where
  type : EventType
  seat : Option Seat
  description : String
  details : Details
  deriving Repr

/-- Something that happened, at its place in the log of a match. -/
structure Event where
  lobby : Lobby
  game : GameName
  turn : Nat
  /-- The place in the log, counted from 0. -/
  sequence : Nat
  type : EventType
  /-- The seat that the event concerns. -/
  seat : Option Seat
  /-- The account at that seat. -/
  user : Option User
  description : String
  details : Details
  deriving Repr

end CardDuel
