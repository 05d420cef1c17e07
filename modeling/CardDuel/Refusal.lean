import CardDuel.Names
import CardDuel.Phase
import CardDuel.Seat
import CardDuel.Zone

/-!
# Refusals

Why a call is turned down.  A call that is turned down has changed nothing.
Each reason has a code for programs, a tier, and a sentence for people.
-/

namespace CardDuel

/-- Why a call on the chain is turned down. -/
inductive ChainRefusal where
  /-- A link is offered although both players have passed. -/
  | resolving
  /-- A player passes although both have passed. -/
  | alreadyResolving
  /-- It is the other player's turn to respond. -/
  | noPriority (seat : Seat)
  /-- The card has a link already. -/
  | linked (card : CardRef)
  /-- The card, known by name, has a link already. -/
  | linkedByName (name : String)
  /-- A player passes although there is no link. -/
  | nothingToAnswer
  /-- The chain is to be resolved although the players have not both passed. -/
  | passesMissing
  /-- A turn action is tried while there are links. -/
  | unresolved
  /-- A reason given by the host of the game. -/
  | stated (text : String)
  deriving DecidableEq, Repr

/-- The reason as a sentence. -/
def ChainRefusal.message : ChainRefusal → String
  | resolving => "the chain is resolving"
  | alreadyResolving => "the chain is already resolving"
  | noPriority seat => seat.title ++ " does not have priority"
  | linked card => card.title ++ " is already on the chain"
  | linkedByName name => name ++ " is already on the chain"
  | nothingToAnswer => "there is no chain to respond to"
  | passesMissing => "both players must pass priority before the chain resolves"
  | unresolved => "resolve the current chain first"
  | stated text => text

/-- Which rule a call breaks that has no code of its own. -/
inductive Illegality where
  | lobbyTaken (lobby : Lobby)
  | selfDuel
  | unknownCard (id : CardId)
  | inProgress
  | tributeTwice (card : CardRef)
  | endPhaseOver
  | alreadyFaceUp (name : String)
  | faceDown (name : String)
  | alreadyMoved (name : String)
  | enteredThisTurn (name : String)
  | noEffect (name : String)
  /-- A reason given by the host of the game. -/
  | stated (text : String)
  deriving DecidableEq, Repr

/-- The reason as a sentence. -/
def Illegality.message : Illegality → String
  | lobbyTaken lobby => "Lobby " ++ lobby.name ++ " already has a game"
  | selfDuel => "A player cannot duel themselves"
  | unknownCard id => "Unknown card definition " ++ id.title
  | inProgress => "The game is still in progress"
  | tributeTwice card => card.title ++ " was offered as a tribute twice"
  | endPhaseOver => "The End Phase is over; end the turn instead"
  | alreadyFaceUp name => name ++ " is already face-up"
  | faceDown name => name ++ " is face-down; Flip Summon it instead"
  | alreadyMoved name => name ++ " already changed position this turn"
  | enteredThisTurn name => name ++ " cannot change position the turn it was summoned"
  | noEffect name => name ++ " has no effect to activate"
  | stated text => text

/-- How grave a refusal is. -/
inductive RefusalTier where
  /-- The caller may not do this at all. -/
  | authorization
  /-- Something is not where the call says. -/
  | notFound
  /-- The call breaks a rule of the game. -/
  | legality
  /-- A saved duel could not be written or read, or the room for a list ran out. -/
  | internal
  deriving DecidableEq, Repr

/-- The name of the tier. -/
def RefusalTier.label : RefusalTier → String
  | authorization => "Authorization"
  | notFound => "NotFound"
  | legality => "Legality"
  | internal => "Internal"

/-- Why a call is turned down. -/
inductive Refusal where
  | notAuthenticated
  | notAParticipant
  | notYourTurn
  | lobbyNotFound (lobby : Lobby)
  | matchNotFound (lobby : Lobby)
  | cardNotFound (card : CardRef)
  | cardNotInZone (card : CardRef) (zone : Zone)
  | zoneFull (zone : Zone) (limit : Nat)
  | wrongPhase (action : String) (phase : Phase)
  | alreadySummoned
  | wrongTributes (required provided : Nat)
  | wrongCardType (name expected : String)
  | chain (reason : ChainRefusal)
  | illegal (reason : Illegality)
  | gameOver
  | snapshot (reason : String)
  /-- A list would need more room than there is.  The call is broken off where it stands. -/
  | overrun
  deriving DecidableEq, Repr

namespace Refusal

/-- The tier of the refusal. -/
def tier : Refusal → RefusalTier
  | notAuthenticated | notAParticipant | notYourTurn => .authorization
  | lobbyNotFound _ | matchNotFound _ | cardNotFound _ | cardNotInZone _ _ => .notFound
  | snapshot _ | overrun => .internal
  | _ => .legality

/-- The code of the refusal. -/
def code : Refusal → String
  | notAuthenticated => "not_authenticated"
  | notAParticipant => "not_a_participant"
  | notYourTurn => "not_your_turn"
  | lobbyNotFound _ => "lobby_not_found"
  | matchNotFound _ => "game_state_not_found"
  | cardNotFound _ => "card_not_found"
  | cardNotInZone _ _ => "card_not_in_zone"
  | zoneFull _ _ => "zone_full"
  | wrongPhase _ _ => "wrong_phase"
  | alreadySummoned => "already_normal_summoned"
  | wrongTributes _ _ => "tribute_mismatch"
  | wrongCardType _ _ => "wrong_card_type"
  | chain _ => "chain_error"
  | illegal _ => "illegal_action"
  | gameOver => "game_over"
  | snapshot _ => "snapshot_error"
  | overrun => "panic"

/-- The refusal as a sentence. -/
def message : Refusal → String
  | notAuthenticated => "Not authenticated"
  | notAParticipant => "You are not a participant in this game"
  | notYourTurn => "Not your turn"
  | lobbyNotFound lobby => "Lobby not found: " ++ lobby.name
  | matchNotFound lobby => "Game state not found for lobby " ++ lobby.name
  | cardNotFound card => "Card not found: " ++ card.title
  | cardNotInZone card zone => card.title ++ " is not in your " ++ zone.title
  | zoneFull zone limit => zone.title ++ " is full (max " ++ toString limit ++ " cards)"
  | wrongPhase action phase => "Cannot " ++ action ++ " during the " ++ phase.title ++ " phase"
  | alreadySummoned => "You have already Normal Summoned this turn"
  | wrongTributes required provided =>
    "This monster requires " ++ toString required ++ " tribute(s), " ++ toString provided
      ++ " provided"
  | wrongCardType name expected => name ++ " is not a " ++ expected ++ " card"
  | chain reason => "Chain error: " ++ reason.message
  | illegal reason => reason.message
  | gameOver => "The game is already over"
  | snapshot reason => "Snapshot error: " ++ reason
  | overrun => "capacity overflow"

end Refusal

end CardDuel
