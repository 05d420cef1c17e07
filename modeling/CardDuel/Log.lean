import CardDuel.Event

/-!
# The log of a match

The events of one match in the order in which they happened.  Events are only
ever added at the end.  A reader keeps a cursor, the number of events it has
seen, and asks for the events from there on.
-/

namespace CardDuel

/-- The events of one match. -/
structure Log where
  lobby : Lobby
  game : GameName
  players : Seats User
  events : List Event
  deriving Repr

/-- The events from a cursor on, and the cursor for the next time. -/
structure EventPage where
  events : List Event
  nextCursor : Nat
  deriving Repr

/-- How often each kind of event happened. -/
structure EventStats where
  total : Nat
  byType : List (EventType × Nat)
  turnsPlayed : Nat
  deriving Repr

namespace Log

/-- The log of a match in which nothing has happened. -/
def start (lobby : Lobby) (game : GameName) (players : Seats User) : Log :=
  ⟨lobby, game, players, []⟩

/-- The event that some news becomes at the end of the log. -/
def stamp (log : Log) (turn : Nat) (news : News) : Event where
  lobby := log.lobby
  game := log.game
  turn := turn
  sequence := log.events.length
  type := news.type
  seat := news.seat
  user := news.seat.map log.players.get
  description := news.description
  details := news.details

/-- The log with one more event. -/
def record (log : Log) (turn : Nat) (news : News) : Log :=
  { log with events := log.events ++ [log.stamp turn news] }

/-- The number of events. -/
def size (log : Log) : Nat := log.events.length

/-- The last events, at most `limit` of them, oldest first. -/
def recent (log : Log) (limit : Nat) : List Event := log.events.drop (log.size - limit)

/-- The events of a type. -/
def ofType (log : Log) (type : EventType) : List Event := log.events.filter (·.type == type)

/-- The events of a turn. -/
def ofTurn (log : Log) (turn : Nat) : List Event := log.events.filter (·.turn == turn)

/-- The events from a cursor on. -/
def poll (log : Log) (cursor : Nat) : EventPage := ⟨log.events.drop cursor, log.size⟩

/-- How often each kind of event happened, without those that never did. -/
def stats (log : Log) : EventStats where
  total := log.size
  byType := (EventType.all.map fun type => (type, (log.ofType type).length)).filter
    fun entry => entry.2 != 0
  turnsPlayed := match log.events.getLast? with
    | some event => event.turn
    | none => 0

@[simp] theorem size_record (log : Log) (turn : Nat) (news : News) :
    (log.record turn news).size = log.size + 1 := by
  simp [record, size]

@[simp] theorem events_record (log : Log) (turn : Nat) (news : News) :
    (log.record turn news).events = log.events ++ [log.stamp turn news] := rfl

end Log

end CardDuel
