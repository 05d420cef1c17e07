import CardDuel.Chain.Settlement

/-!
# Matches

A match is a scene with its chain: everything that a duel between two users is.
The log knows the lobby, the name of the game and the players.

This module holds what the moves of the players have in common: how a match is
opened and how it ends, and the checks that moves share.
-/

namespace CardDuel

/-- Refuses to go on unless a condition holds. -/
def require (condition : Prop) [Decidable condition] (refusal : Refusal) :
    Except Refusal Unit :=
  if condition then .ok () else .error refusal

theorem require_eq_ok_iff {condition : Prop} [Decidable condition] {refusal : Refusal} :
    require condition refusal = .ok () ↔ condition := by
  unfold require
  split <;> simp [*]

/-- A duel between two users. -/
structure Match extends Scene where
  chain : Chain

namespace Match

/-- The lobby of the match. -/
def lobby (m : Match) : Lobby := m.log.lobby

/-- The name of the game. -/
def game (m : Match) : GameName := m.log.game

/-- The users who play. -/
def players (m : Match) : Seats User := m.log.players

/-- The seat of a user. -/
def seatOf? (m : Match) (user : User) : Option Seat := m.players.find? (· == user)

/-- The match with another scene. -/
def withScene (m : Match) (s : Scene) : Match := { m with toScene := s }

/-- The match with a change of its table that is not reported. -/
def change (m : Match) (f : Table → Table) : Match := m.withScene (m.toScene.change f)

/-- The match with news in its log. -/
def record (m : Match) (news : News) : Match := m.withScene (m.toScene.record news)

/-- Carries something out on the scene of the match. -/
def act {α : Type} (m : Match) (f : Scene → α × Scene) : α × Match :=
  ((f m.toScene).1, m.withScene (f m.toScene).2)

/-! ## The beginning -/

/-- The news that a phase of a player begins. -/
def phaseNews (seat : Seat) (phase : Phase) : News where
  type := .phaseChanged
  seat := some seat
  description := phase.title ++ " phase"
  details := [("phase", .text phase.label)]

/-- The news that a turn of a player begins. -/
def turnNews (seat : Seat) (turn : Nat) : News where
  type := .turnStart
  seat := some seat
  description := "Turn " ++ toString turn ++ " begins"
  details := [("turnNumber", .nat turn)]

/-- The news that a duel begins. -/
def startNews (players : Seats User) (seed : UInt64) : News where
  type := .gameStart
  seat := none
  description := "The duel begins"
  details := [("host", .text players.host.name), ("opponent", .text players.opponent.name),
    ("seed", .nat seed.toNat)]

/-- The table with a deck for each player.  The cards are numbered in the order of
the lists, those of the host first, and then shuffled. -/
def decked (rules : Rules) (decks : Seats (List CardId)) (seed : UInt64) : Table :=
  Seat.all.foldl
    (fun t seat => (t.addCards seat (decks.get seat)).shuffleDeck seat)
    (Table.start rules seed)

/-- The scene before the first card is drawn. -/
def ready (setup : Setup) (log : Log) (decks : Seats (List CardId)) (seed : UInt64) : Scene where
  table := decked setup.rules decks seed
  log := log

/-- The scene on which the host begins: both players hold their first cards. -/
def opening (setup : Setup) (log : Log) (decks : Seats (List CardId)) (seed : UInt64) :
    Scene :=
  let rules := setup.rules
  let started := (ready setup log decks seed).record (startNews log.players seed)
  let (_, dealt) := started.each (fun seat => Resolution.draw seat rules.startingHand) Seat.all
  let begun := dealt.record (turnNews .host 1)
  let drawn := if rules.firstPlayerDraws then (Resolution.draw .host 1 begun).2 else begun
  (drawn.change ({ · with phase := .main1 })).record (phaseNews .host .main1)

/-- A new match: both decks are shuffled, both players draw their first cards, and
the host begins in Main Phase 1. -/
def start (setup : Setup) (lobby : Lobby) (game : GameName) (players : Seats User)
    (decks : Seats (List CardId)) (seed : UInt64) : Match where
  toScene := opening setup (.start lobby game players) decks seed
  chain := .empty

/-! ## The end -/

/-- The news that a duel is won. -/
def endNews (winner : Seat) (reason : WinReason) : News where
  type := .gameEnd
  seat := some winner
  description := winner.title ++ " wins (" ++ reason.label ++ ")"
  details := [("winner", .text winner.label), ("reason", .text reason.label)]

/-- The match after it is won.  Nothing waits on the chain any more. -/
def finish (winner : Seat) (reason : WinReason) (m : Match) : Match :=
  let won := m.change fun t => m.chain.cleared { t with status := .finished winner reason }
  { won with chain := m.chain.emptied }.record (endNews winner reason)

/-- The player who has no life points left.  If that is both, it is the one whose
turn it is not. -/
def loser? (t : Table) : Option Seat :=
  [t.current.other, t.current].find? fun seat => (t.side seat).life ≤ 0

/-- Ends the match if a player has no life points left. -/
def settleLife (m : Match) : Match :=
  if m.table.isActive then
    match loser? m.table with
    | some loser => m.finish loser.other .lifePoints
    | none => m
  else m

/-- Who has won, and how. -/
def result? (m : Match) : Option (Seat × WinReason) :=
  match m.table.status with
  | .finished winner reason => some (winner, reason)
  | .active => none

/-! ## Checks that moves share -/

/-- What is printed on a card of the match. -/
def printed (setup : Setup) (m : Match) (card : CardRef) : Except Refusal Card :=
  match setup.card? m.table card with
  | some printed => .ok printed
  | none => .error (.cardNotFound card)

/-- Refuses a card that is not in a zone of the player. -/
def requireOwn (m : Match) (seat : Seat) (card : CardRef) (zone : Zone) :
    Except Refusal Unit := do
  require (m.table.knows card) (.cardNotFound card)
  require ((m.side seat).holds zone card) (.cardNotInZone card zone)

/-- Refuses a move outside the Main Phases. -/
def requireMainPhase (m : Match) (action : String) : Except Refusal Unit :=
  require m.table.phase.isMain (.wrongPhase action m.table.phase)

/-- Refuses a move while there are links on the chain. -/
def requireNoChain (m : Match) : Except Refusal Unit :=
  require m.chain.links.isEmpty (.chain .unresolved)

end Match

end CardDuel
