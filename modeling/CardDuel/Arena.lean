import CardDuel.Match.Move
import CardDuel.Snapshot
import CardDuel.Strength

/-!
# The arena

All matches that are played with one setup.  A lobby is vacant until a match is
opened in it, and closed for good after that match is over and has been archived.
Users make moves in a match; what there is to know about a match may be asked by
anybody.
-/

namespace CardDuel

/-- What goes on in a lobby. -/
inductive LobbyState where
  /-- No match has been opened. -/
  | vacant
  | live (m : Match)
  /-- The match is over and archived. -/
  | closed

/-- All matches that are played with one setup. -/
structure Arena where
  setup : Setup
  lobbies : Lobby → LobbyState

/-- What is kept of a match that is over. -/
structure Archive where
  lobby : Lobby
  game : GameName
  players : Seats User
  winner : Seat
  reason : WinReason
  /-- The number of the last turn. -/
  turns : Nat
  /-- The last table. -/
  snapshot : List UInt8
  events : List Event

/-- The account of a caller who has logged in. -/
def Caller.account : Caller → Except Refusal User
  | .user known => .ok known
  | .anonymous => .error .notAuthenticated

namespace Arena

/-- An arena without matches. -/
def start (setup : Setup) : Arena := ⟨setup, fun _ => .vacant⟩

/-- The arena with the state of one lobby replaced. -/
def put (arena : Arena) (lobby : Lobby) (state : LobbyState) : Arena :=
  { arena with lobbies := fun l => if l = lobby then state else arena.lobbies l }

/-- The live match of a lobby. -/
def find (arena : Arena) (lobby : Lobby) : Except Refusal Match :=
  match arena.lobbies lobby with
  | .live m => .ok m
  | .closed => .error (.matchNotFound lobby)
  | .vacant => .error (.lobbyNotFound lobby)

/-! ## Opening and closing matches -/

/-- Whether a match was ever opened in a lobby. -/
def isTaken (arena : Arena) (lobby : Lobby) : Bool :=
  match arena.lobbies lobby with
  | .vacant => false
  | _ => true

/-- Opens a match between two users. -/
def createMatch (arena : Arena) (lobby : Lobby) (game : GameName) (players : Seats User)
    (decks : Seats (List CardId)) (seed : UInt64) : Except Refusal Arena := do
  require (arena.isTaken lobby = false) (.illegal (.lobbyTaken lobby))
  require (players.host ≠ players.opponent) (.illegal .selfDuel)
  match (decks.host ++ decks.opponent).find? (!arena.setup.catalog.contains ·) with
  | some id => throw (.illegal (.unknownCard id))
  | none =>
    let m : Match := .start arena.setup lobby game players decks seed
    require (m.overrun = false) .overrun
    return arena.put lobby (.live m)

/-- The archive of a match that was won. -/
def archive (m : Match) (winner : Seat) (reason : WinReason) : Archive where
  lobby := m.lobby
  game := m.game
  players := m.players
  winner := winner
  reason := reason
  turns := m.table.turn
  snapshot := m.table.snapshot
  events := m.log.events

/-- Closes a lobby whose match is over. -/
def closeMatch (arena : Arena) (lobby : Lobby) : Except Refusal (Archive × Arena) := do
  let m ← arena.find lobby
  match m.result? with
  | some (winner, reason) => return (archive m winner reason, arena.put lobby .closed)
  | none => throw (.illegal .inProgress)

/-! ## Playing -/

/-- Makes a move in the match of a lobby. -/
def play (arena : Arena) (caller : Caller) (lobby : Lobby) (move : Move) :
    Except Refusal (MoveReport × Arena) := do
  let user ← caller.account
  let m ← arena.find lobby
  let (report, after) ← m.play arena.setup user move
  return (report, arena.put lobby (.live after))

/-! ## Asking -/

/-- The ATK of a monster in play in the match of a lobby. -/
def effectiveAttack (arena : Arena) (lobby : Lobby) (card : CardRef) : Except Refusal Int := do
  let m ← arena.find lobby
  require (m.table.knows card) (.cardNotFound card)
  match arena.setup.effectiveAttack? m.table card with
  | some attack => return attack
  | none => throw (.cardNotInZone card .board)

/-- What may be asked about the match of a lobby. -/
inductive Query where
  /-- Everything. -/
  | whole
  | chain
  /-- All events in their order. -/
  | events
  /-- The last events, at most `limit` of them. -/
  | recent (limit : Nat)
  /-- The events from a cursor on. -/
  | poll (cursor : Nat)
  | stats
  | effectiveAttack (card : CardRef)
  deriving DecidableEq, Repr

/-- The answer to a query. -/
inductive Answer where
  | whole (m : Match)
  | chain (chain : Chain)
  | events (events : List Event)
  | page (page : EventPage)
  | stats (stats : EventStats)
  | effectiveAttack (attack : Int)

/-- Answers a query about the match of a lobby. -/
def ask (arena : Arena) (lobby : Lobby) : Query → Except Refusal Answer
  | .whole => return .whole (← arena.find lobby)
  | .chain => return .chain (← arena.find lobby).chain
  | .events => return .events (← arena.find lobby).log.events
  | .recent limit => return .events ((← arena.find lobby).log.recent limit)
  | .poll cursor => return .page ((← arena.find lobby).log.poll cursor)
  | .stats => return .stats (← arena.find lobby).log.stats
  | .effectiveAttack card => return .effectiveAttack (← arena.effectiveAttack lobby card)

end Arena

end CardDuel
