import CardDuel.Arena

/-!
# Calls

Everything that may be done with an arena from outside, as one type.  An arena
serves calls one by one, in any order and from any callers, and a call that is
refused leaves it as it was.  An arena is reachable if it has served some calls since
it had no matches.
-/

namespace CardDuel

/-- What may be done with an arena from outside. -/
inductive Call where
  | createMatch (lobby : Lobby) (game : GameName) (players : Seats User)
      (decks : Seats (List CardId)) (seed : UInt64)
  | closeMatch (lobby : Lobby)
  | play (caller : Caller) (lobby : Lobby) (move : Move)
  | ask (lobby : Lobby) (query : Arena.Query)

/-- The lobby that a call is about. -/
def Call.lobby : Call → Lobby
  | .createMatch lobby .. => lobby
  | .closeMatch lobby => lobby
  | .play _ lobby _ => lobby
  | .ask lobby _ => lobby

/-- What a call is answered. -/
inductive Reply where
  | created
  | closed (archive : Archive)
  | played (report : MoveReport)
  | asked (answer : Arena.Answer)

namespace Arena

/-- What a call is answered and the arena after it, if it is not refused. -/
def handle (arena : Arena) : Call → Except Refusal (Reply × Arena)
  | .createMatch lobby game players decks seed => do
    return (.created, ← arena.createMatch lobby game players decks seed)
  | .closeMatch lobby => do
    let (archive, after) ← arena.closeMatch lobby
    return (.closed archive, after)
  | .play caller lobby move => do
    let (report, after) ← arena.play caller lobby move
    return (.played report, after)
  | .ask lobby query => do
    return (.asked (← arena.ask lobby query), arena)

/-- What a call is answered, or why it is refused, and the arena after it. -/
def serve (arena : Arena) (call : Call) : Except Refusal Reply × Arena :=
  match arena.handle call with
  | .ok (reply, after) => (.ok reply, after)
  | .error refusal => (.error refusal, arena)

/-- The arena after it has served some calls. -/
def serveAll (arena : Arena) (calls : List Call) : Arena :=
  calls.foldl (fun arena call => (arena.serve call).2) arena

/-- An arena that can come about. -/
def Reachable (arena : Arena) : Prop :=
  ∃ setup calls, arena = (start setup).serveAll calls

theorem serve_of_error {arena : Arena} {call : Call} {refusal : Refusal}
    (h : arena.handle call = .error refusal) : arena.serve call = (.error refusal, arena) := by
  simp [serve, h]

theorem serve_of_ok {arena after : Arena} {call : Call} {reply : Reply}
    (h : arena.handle call = .ok (reply, after)) : arena.serve call = (.ok reply, after) := by
  simp [serve, h]

/-- What holds of an empty arena and is kept by every call holds of every reachable
arena. -/
theorem Reachable.keeps {Keeps : Arena → Prop} (empty : ∀ setup, Keeps (start setup))
    (step : ∀ arena call, Keeps arena → Keeps (arena.serve call).2) {arena : Arena}
    (h : arena.Reachable) : Keeps arena := by
  obtain ⟨setup, calls, rfl⟩ := h
  have general : ∀ (calls : List Call) (arena : Arena), Keeps arena →
      Keeps (arena.serveAll calls) := by
    intro calls
    induction calls with
    | nil => exact fun _ h => h
    | cons call calls ih => exact fun arena h => ih _ (step arena call h)
  exact general calls _ (empty setup)

end Arena

end CardDuel
