import CardDuel.Arena.Call
import CardDuel.Proofs.Checks
import Mathlib.Data.List.Induction

/-!
# The history of a lobby

An arena serves calls for all of its lobbies in any order.  What matters for one lobby is the
call that opened its match and the moves that were then made in it.

* `Play`: one move that was made, and `Arena.plays`: all of them, read off the calls.
* `serve_lobby`: what one call does to one lobby.
* `Plays`: a match is the result of moves made one after the other.
* `Arena.history`: the match of a lobby was opened once, and is the result of its plays.
  `mem_plays` finds the match in which a play was made among the live ones.
-/

namespace CardDuel

/-- A move that was made in a match. -/
structure Play where
  before : Match
  user : User
  move : Move
  report : MoveReport
  after : Match

/-- The move was made by the rules of the setup. -/
def Play.Legal (setup : Setup) (p : Play) : Prop :=
  p.before.play setup p.user p.move = .ok (p.report, p.after)

/-- Moves made one after the other. -/
inductive Plays (setup : Setup) : Match → List Play → Match → Prop where
  | done (m : Match) : Plays setup m [] m
  | next {p : Play} {plays : List Play} {m : Match} (legal : p.Legal setup)
      (rest : Plays setup p.after plays m) : Plays setup p.before (p :: plays) m

namespace Plays

variable {setup : Setup} {m m' : Match} {plays : List Play}

theorem snoc {p : Play} (h : Plays setup m plays p.before) (legal : p.Legal setup) :
    Plays setup m (plays ++ [p]) p.after := by
  generalize hb : p.before = b at h
  induction h with
  | done m =>
    subst hb
    exact .next legal (.done _)
  | next first rest ih => exact .next first (ih hb)

/-- Moves made one after the other may be cut anywhere. -/
theorem split {front back : List Play} (h : Plays setup m (front ++ back) m') :
    ∃ between, Plays setup m front between ∧ Plays setup between back m' := by
  induction front generalizing m with
  | nil => exact ⟨m, .done m, h⟩
  | cons p front ih =>
    cases h with
    | next legal rest =>
      obtain ⟨between, first, second⟩ := ih rest
      exact ⟨between, .next legal first, second⟩

/-- What holds in the beginning and is kept by every move holds in the end. -/
theorem keeps (Keeps : Match → Prop) (h : Plays setup m plays m')
    (step : ∀ p : Play, p.Legal setup → Keeps p.before → Keeps p.after) (begins : Keeps m) :
    Keeps m' := by
  induction h with
  | done m => exact begins
  | next legal rest ih => exact ih (step _ legal begins)

end Plays

namespace Arena

/-- The move that a call makes in a lobby, if it makes one. -/
def playIn? (arena : Arena) (lobby : Lobby) : Call → Option Play
  | .play (.user user) l move =>
    if l = lobby then
      match arena.lobbies lobby with
      | .live m =>
        match m.play arena.setup user move with
        | .ok (report, after) => some ⟨m, user, move, report, after⟩
        | .error _ => none
      | _ => none
    else none
  | _ => none

/-- The moves that are made in a lobby while the arena serves calls. -/
def plays (lobby : Lobby) : Arena → List Call → List Play
  | _, [] => []
  | arena, call :: calls =>
    (arena.playIn? lobby call).toList ++ plays lobby (arena.serve call).2 calls

variable {setup : Setup} {arena : Arena} {lobby : Lobby} {call : Call} {calls : List Call}

theorem plays_append (arena : Arena) (calls calls' : List Call) :
    arena.plays lobby (calls ++ calls') =
      arena.plays lobby calls ++ (arena.serveAll calls).plays lobby calls' := by
  induction calls generalizing arena with
  | nil => rfl
  | cons call calls ih =>
    rw [List.cons_append, plays, plays, ih, List.append_assoc]
    rfl

/-- What one call does to a lobby, with the move that it makes there. -/
inductive LobbyStep (setup : Setup) (lobby : Lobby) (call : Call)
    (reply : Except Refusal Reply) : LobbyState → List Play → LobbyState → Prop where
  | same (state : LobbyState) : LobbyStep setup lobby call reply state [] state
  | opened {game : GameName} {players : Seats User} {decks : Seats (List CardId)} {seed : UInt64}
      (called : call = .createMatch lobby game players decks seed)
      (distinct : players.host ≠ players.opponent) (accepted : reply = .ok .created) :
      LobbyStep setup lobby call reply .vacant []
        (.live (Match.start setup lobby game players decks seed))
  | played {p : Play} (legal : p.Legal setup) :
      LobbyStep setup lobby call reply (.live p.before) [p] (.live p.after)
  | closed (called : call = .closeMatch lobby) (m : Match) :
      LobbyStep setup lobby call reply (.live m) [] .closed

/-- A call leaves the match of a lobby alone, or makes one move in it, unless it closes it. -/
theorem LobbyStep.between {reply : Except Refusal Reply} {m m' : Match} {plays : List Play}
    (step : LobbyStep setup lobby call reply (.live m) plays (.live m')) :
    plays = [] ∧ m' = m ∨ ∃ p, plays = [p] ∧ p.before = m ∧ p.after = m' ∧ p.Legal setup := by
  generalize hstate : LobbyState.live m = state at step
  generalize hstate' : LobbyState.live m' = state' at step
  cases step with
  | same _ =>
    cases hstate.trans hstate'.symm
    exact .inl ⟨rfl, rfl⟩
  | opened _ _ _ => cases hstate
  | played legal =>
    cases hstate
    cases hstate'
    exact .inr ⟨_, rfl, rfl, rfl, legal⟩
  | closed _ _ => cases hstate'

theorem put_self (arena : Arena) (lobby : Lobby) (state : LobbyState) :
    (arena.put lobby state).lobbies lobby = state := if_pos rfl

theorem put_of_ne (arena : Arena) {lobby lobby' : Lobby} (state : LobbyState)
    (h : lobby' ≠ lobby) : (arena.put lobby state).lobbies lobby' = arena.lobbies lobby' :=
  if_neg h

theorem find_ok {m : Match} : arena.find lobby = .ok m ↔ arena.lobbies lobby = .live m := by
  unfold find
  split <;> simp_all

/-- What can be computed of the match that is found holds of a live one. -/
theorem exists_live {α : Type} {shows : Match → α} {shown : α}
    (found : (arena.find lobby).toOption.map shows = some shown) :
    ∃ m, arena.lobbies lobby = .live m ∧ shows m = shown := by
  cases there : arena.find lobby with
  | error refusal =>
    rw [there] at found
    cases found
  | ok m =>
    rw [there] at found
    exact ⟨m, find_ok.1 there, Option.some.inj found⟩

theorem createMatch_ok {game : GameName} {players : Seats User} {decks : Seats (List CardId)}
    {seed : UInt64} {after : Arena}
    (h : arena.createMatch lobby game players decks seed = .ok after) :
    arena.lobbies lobby = .vacant ∧ players.host ≠ players.opponent ∧
      after = arena.put lobby (.live (.start arena.setup lobby game players decks seed)) ∧
      (∀ id ∈ decks.host ++ decks.opponent, arena.setup.catalog.contains id) ∧
      (Match.start arena.setup lobby game players decks seed).overrun = false := by
  unfold createMatch at h
  simp only [bind_eq_ok, exists_unit, require_eq_ok_iff] at h
  obtain ⟨free, distinct, h⟩ := h
  have vacant : arena.lobbies lobby = .vacant := by
    unfold isTaken at free
    split at free
    · assumption
    · cases free
  split at h
  · cases h
  · next all =>
    obtain ⟨_, room, heq⟩ := bind_eq_ok.1 h
    refine ⟨vacant, distinct, (pure_eq_ok.1 heq).symm, fun id hid => ?_,
      require_eq_ok_iff.1 room⟩
    simpa using List.find?_eq_none.1 all id hid

theorem closeMatch_ok {archive : Archive} {after : Arena}
    (h : arena.closeMatch lobby = .ok (archive, after)) :
    ∃ m, arena.lobbies lobby = .live m ∧ after = arena.put lobby .closed := by
  unfold closeMatch at h
  obtain ⟨m, hm, h⟩ := bind_eq_ok.1 h
  refine ⟨m, find_ok.1 hm, ?_⟩
  split at h
  · cases pure_eq_ok.1 h
    rfl
  · cases h

theorem play_ok {caller : Caller} {move : Move} {report : MoveReport} {after : Arena}
    (h : arena.play caller lobby move = .ok (report, after)) :
    ∃ user m made, caller = .user user ∧ arena.lobbies lobby = .live m ∧
      m.play arena.setup user move = .ok (report, made) ∧ after = arena.put lobby (.live made) := by
  unfold play at h
  simp only [bind_eq_ok] at h
  obtain ⟨user, huser, m, hm, ⟨report', made⟩, hmade, heq⟩ := h
  cases pure_eq_ok.1 heq
  cases caller with
  | anonymous => cases huser
  | user known =>
    cases huser
    exact ⟨user, m, made, rfl, find_ok.1 hm, hmade, rfl⟩

/-- A move is refused and changes nothing, or it is made. -/
theorem cases_serve_play (arena : Arena) (caller : Caller) (lobby : Lobby) (move : Move) :
    (∃ refusal, arena.serve (.play caller lobby move) = (.error refusal, arena)) ∨
    ∃ report after, arena.play caller lobby move = .ok (report, after) ∧
      arena.serve (.play caller lobby move) = (.ok (.played report), after) := by
  cases played : arena.play caller lobby move with
  | error refusal =>
    have handled : arena.handle (.play caller lobby move) = .error refusal := by
      rw [handle, played]
      rfl
    exact .inl ⟨refusal, serve_of_error handled⟩
  | ok made =>
    have handled : arena.handle (.play caller lobby move) = .ok (.played made.1, made.2) := by
      rw [handle, played]
      rfl
    exact .inr ⟨made.1, made.2, rfl, serve_of_ok handled⟩

/-- A match that was opened had room for the first cards, and all of its cards are known. -/
theorem created_ok {game : GameName} {players : Seats User} {decks : Seats (List CardId)}
    {seed : UInt64}
    (created : (arena.serve (.createMatch lobby game players decks seed)).1 = .ok .created) :
    (∀ id ∈ decks.host ++ decks.opponent, arena.setup.catalog.contains id) ∧
      (Match.start arena.setup lobby game players decks seed).overrun = false := by
  cases hcreate : arena.createMatch lobby game players decks seed with
  | error refusal =>
    have handled : arena.handle (.createMatch lobby game players decks seed) = .error refusal := by
      rw [handle, hcreate]
      rfl
    rw [serve_of_error handled] at created
    cases created
  | ok after => exact (createMatch_ok hcreate).2.2.2

theorem serve_play {caller : Caller} {move : Move} {report : MoveReport} {after : Arena} :
    arena.serve (.play caller lobby move) = (.ok (.played report), after) ↔
      arena.play caller lobby move = .ok (report, after) := by
  constructor
  · intro served
    rcases cases_serve_play arena caller lobby move with
      ⟨refusal, refused⟩ | ⟨report', after', played, served'⟩
    · cases refused.symm.trans served
    · cases served'.symm.trans served
      exact played
  · intro played
    exact serve_of_ok (bind_eq_ok.2 ⟨(report, after), played, rfl⟩)

theorem playIn?_eq_some {p : Play} :
    arena.playIn? lobby call = some p ↔
      call = .play (.user p.user) lobby p.move ∧ arena.lobbies lobby = .live p.before ∧
        p.Legal arena.setup := by
  constructor
  · intro h
    unfold playIn? at h
    split at h
    · split at h
      · next hl =>
        subst hl
        split at h
        · next m hm =>
          split at h
          · next hplay =>
            cases h
            exact ⟨rfl, hm, hplay⟩
          · cases h
        · cases h
      · cases h
    · cases h
  · rintro ⟨rfl, hm, hplay⟩
    unfold Play.Legal at hplay
    simp only [playIn?, if_true, hm, hplay]

theorem play_of_legal {p : Play} (live : arena.lobbies lobby = .live p.before)
    (legal : p.Legal arena.setup) :
    arena.play (.user p.user) lobby p.move = .ok (p.report, arena.put lobby (.live p.after)) := by
  have found : arena.find lobby = .ok p.before := find_ok.2 live
  unfold Play.Legal at legal
  simp only [play, Caller.account, found, legal, bind, Except.bind, pure, Except.pure]

/-- A move that is refused in a live match is refused in the arena. -/
theorem play_of_refused {m : Match} {user : User} {move : Move} {refusal : Refusal}
    (live : arena.lobbies lobby = .live m)
    (refused : m.play arena.setup user move = .error refusal) :
    arena.play (.user user) lobby move = .error refusal := by
  have found : arena.find lobby = .ok m := find_ok.2 live
  simp only [play, Caller.account, found, refused, bind, Except.bind]

/-- What a call does that is served, apart from moves in the lobby. -/
theorem handle_lobby {reply : Reply} {after : Arena} (h : arena.handle call = .ok (reply, after))
    (noPlay : arena.playIn? lobby call = none) :
    after.setup = arena.setup ∧
      LobbyStep arena.setup lobby call (.ok reply) (arena.lobbies lobby) []
        (after.lobbies lobby) := by
  cases call with
  | createMatch l game players decks seed =>
    obtain ⟨after', hcreate, heq⟩ := bind_eq_ok.1 h
    cases pure_eq_ok.1 heq
    obtain ⟨free, distinct, rfl, -⟩ := createMatch_ok hcreate
    refine ⟨rfl, ?_⟩
    by_cases hl : lobby = l
    · subst hl
      rw [put_self, free]
      exact .opened rfl distinct rfl
    · rw [put_of_ne arena _ hl]
      exact .same _
  | closeMatch l =>
    obtain ⟨⟨archive, after'⟩, hclose, heq⟩ := bind_eq_ok.1 h
    cases pure_eq_ok.1 heq
    obtain ⟨m, hm, rfl⟩ := closeMatch_ok hclose
    refine ⟨rfl, ?_⟩
    by_cases hl : lobby = l
    · subst hl
      rw [put_self, hm]
      exact .closed rfl m
    · rw [put_of_ne arena _ hl]
      exact .same _
  | play caller l move =>
    obtain ⟨⟨report, after'⟩, hplay, heq⟩ := bind_eq_ok.1 h
    cases pure_eq_ok.1 heq
    obtain ⟨user, m, made, rfl, hm, hmade, rfl⟩ := play_ok hplay
    refine ⟨rfl, ?_⟩
    by_cases hl : lobby = l
    · subst hl
      have there : arena.playIn? lobby (.play (.user user) lobby move) =
          some ⟨m, user, move, report, made⟩ := playIn?_eq_some.2 ⟨rfl, hm, hmade⟩
      rw [there] at noPlay
      cases noPlay
    · rw [put_of_ne arena _ hl]
      exact .same _
  | ask l query =>
    obtain ⟨answer, hask, heq⟩ := bind_eq_ok.1 h
    cases pure_eq_ok.1 heq
    exact ⟨rfl, .same _⟩

/-- What a call does to a lobby. -/
theorem serve_lobby (arena : Arena) (lobby : Lobby) (call : Call) :
    (arena.serve call).2.setup = arena.setup ∧
      LobbyStep arena.setup lobby call (arena.serve call).1 (arena.lobbies lobby)
        (arena.playIn? lobby call).toList ((arena.serve call).2.lobbies lobby) := by
  cases hplay : arena.playIn? lobby call with
  | some p =>
    obtain ⟨rfl, live, legal⟩ := playIn?_eq_some.1 hplay
    have served : arena.handle (.play (.user p.user) lobby p.move) =
        .ok (.played p.report, arena.put lobby (.live p.after)) := by
      rw [handle, play_of_legal live legal]
      rfl
    rw [serve_of_ok served, live]
    refine ⟨rfl, ?_⟩
    show LobbyStep _ _ _ _ _ _ ((arena.put lobby (.live p.after)).lobbies lobby)
    rw [put_self]
    exact .played legal
  | none =>
    cases hhandle : arena.handle call with
    | error refusal =>
      rw [serve_of_error hhandle]
      exact ⟨rfl, .same _⟩
    | ok served =>
      rw [serve_of_ok hhandle]
      exact handle_lobby hhandle hplay

/-! ## Histories -/

/-- The match was opened in a lobby by one of the calls that an arena served. -/
def Opened (setup : Setup) (lobby : Lobby) (calls : List Call) (m : Match) : Prop :=
  ∃ earlier later game players decks seed,
    calls = earlier ++ .createMatch lobby game players decks seed :: later ∧
      players.host ≠ players.opponent ∧
      (((start setup).serveAll earlier).serve (.createMatch lobby game players decks seed)).1 =
        .ok .created ∧
      m = Match.start setup lobby game players decks seed

/-- What a lobby has come to: nothing was ever opened in it, or the one match that was opened
in it has come to its end or its present state by the moves made. -/
def History (setup : Setup) (lobby : Lobby) (calls : List Call) (plays : List Play) :
    LobbyState → Prop
  | .vacant => plays = []
  | .live m => ∃ opened, Opened setup lobby calls opened ∧ Plays setup opened plays m
  | .closed => ∃ opened m, Opened setup lobby calls opened ∧ Plays setup opened plays m

theorem Opened.more {m : Match} (h : Opened setup lobby calls m) (call : Call) :
    Opened setup lobby (calls ++ [call]) m := by
  obtain ⟨earlier, later, game, players, decks, seed, rfl, distinct, accepted, rfl⟩ := h
  exact ⟨earlier, later ++ [call], game, players, decks, seed, by simp, distinct, accepted, rfl⟩

theorem History.step {state state' : LobbyState} {plays plays' : List Play}
    (h : History setup lobby calls plays state)
    (step : LobbyStep setup lobby call (((start setup).serveAll calls).serve call).1 state plays'
      state') :
    History setup lobby (calls ++ [call]) (plays ++ plays') state' := by
  cases step with
  | same state =>
    rw [List.append_nil]
    cases state with
    | vacant => exact h
    | live m =>
      obtain ⟨opened, hopened, hplays⟩ := h
      exact ⟨opened, hopened.more call, hplays⟩
    | closed =>
      obtain ⟨opened, m, hopened, hplays⟩ := h
      exact ⟨opened, m, hopened.more call, hplays⟩
  | opened called distinct accepted =>
    cases h
    subst called
    exact ⟨_, ⟨calls, [], _, _, _, _, rfl, distinct, accepted, rfl⟩, .done _⟩
  | played legal =>
    obtain ⟨opened, hopened, hplays⟩ := h
    exact ⟨opened, hopened.more call, hplays.snoc legal⟩
  | closed called m =>
    obtain ⟨opened, hopened, hplays⟩ := h
    rw [List.append_nil]
    exact ⟨opened, m, hopened.more call, hplays⟩

theorem serveAll_snoc (arena : Arena) (calls : List Call) (call : Call) :
    arena.serveAll (calls ++ [call]) = ((arena.serveAll calls).serve call).2 := by
  rw [serveAll, List.foldl_append]
  rfl

theorem setup_serveAll (setup : Setup) (calls : List Call) :
    ((start setup).serveAll calls).setup = setup := by
  induction calls using List.reverseRecOn with
  | nil => rfl
  | append_singleton calls call ih => rw [serveAll_snoc, (serve_lobby _ call.lobby call).1, ih]

/-- Whatever calls an arena has served, each lobby has its history. -/
theorem history (setup : Setup) (calls : List Call) (lobby : Lobby) :
    History setup lobby calls ((start setup).plays lobby calls)
      (((start setup).serveAll calls).lobbies lobby) := by
  induction calls using List.reverseRecOn with
  | nil => rfl
  | append_singleton calls call ih =>
    have step := (serve_lobby ((start setup).serveAll calls) lobby call).2
    rw [setup_serveAll] at step
    rw [serveAll_snoc, plays_append]
    have one : ((start setup).serveAll calls).plays lobby [call] =
        (((start setup).serveAll calls).playIn? lobby call).toList := by
      rw [plays, plays, List.append_nil]
    rw [one]
    exact ih.step step

/-- A move that was made was legal, and was made in the match that the calls before had led to. -/
theorem mem_plays {p : Play} (h : p ∈ (start setup).plays lobby calls) :
    p.Legal setup ∧ ∃ earlier, ((start setup).serveAll earlier).lobbies lobby = .live p.before := by
  induction calls using List.reverseRecOn with
  | nil => exact absurd h List.not_mem_nil
  | append_singleton calls call ih =>
    rw [plays_append] at h
    rcases List.mem_append.1 h with before | last
    · exact ih before
    · rw [plays, plays, List.append_nil, Option.mem_toList] at last
      obtain ⟨-, live, legal⟩ := playIn?_eq_some.1 last
      rw [setup_serveAll] at legal
      exact ⟨legal, calls, live⟩

/-- The plays of a lobby were made one after the other. -/
theorem exists_plays (setup : Setup) (calls : List Call) (lobby : Lobby) :
    ∃ m m', Plays setup m ((start setup).plays lobby calls) m' := by
  have h := history setup calls lobby
  cases hstate : ((start setup).serveAll calls).lobbies lobby with
  | vacant =>
    rw [hstate] at h
    rw [h]
    exact ⟨_, _, .done (.start setup lobby ⟨""⟩ (.both ⟨""⟩) (.both []) 0)⟩
  | live m =>
    rw [hstate] at h
    obtain ⟨opened, -, hplays⟩ := h
    exact ⟨opened, m, hplays⟩
  | closed =>
    rw [hstate] at h
    obtain ⟨opened, m, -, hplays⟩ := h
    exact ⟨opened, m, hplays⟩

/-- The match that is live in a lobby is what the plays made of the one that was opened. -/
theorem live_history {m : Match}
    (live : ((start setup).serveAll calls).lobbies lobby = .live m) :
    ∃ opened, Opened setup lobby calls opened ∧
      Plays setup opened ((start setup).plays lobby calls) m := by
  have h := history setup calls lobby
  rw [live] at h
  exact h

/-- No live match is overrun. -/
theorem overrun_of_live {m : Match}
    (live : ((start setup).serveAll calls).lobbies lobby = .live m) : m.overrun = false := by
  obtain ⟨opened, ⟨earlier, later, _, _, _, _, -, -, created, rfl⟩, plays⟩ := live_history live
  refine plays.keeps (·.overrun = false) (fun p legal _ => Match.overrun_of_play legal) ?_
  have room := (created_ok created).2
  rwa [setup_serveAll] at room

end Arena

/-! ## A sample -/

namespace Sample

/-- A monster that may destroy itself, and gains life points when it is destroyed. -/
def moth : Card where
  id := ⟨1⟩
  name := "Cinder Moth"
  type := .creature
  attack := 1000
  defense := 1000
  text := some ("Once per turn: Destroy 1 target monster. " ++
    "Once per turn, when this card is destroyed: Gain 500 LP.")

def rite : Card where
  id := ⟨2⟩
  name := "Old Rite"
  type := .spell
  text := some "Gain 300 LP."

def setup : Setup where
  catalog := ⟨[⟨moth, moth.ability, rfl⟩, ⟨rite, rite.ability, rfl⟩]⟩
  rules := { startingHand := 1 }

def lobby : Lobby := ⟨"lobby"⟩

def players : Seats User := ⟨⟨"alice"⟩, ⟨"bob"⟩⟩

/-- The match in which each player holds one card, a card of choice and the moth. -/
def opened (card : Card) : Match :=
  .start setup lobby ⟨"game"⟩ players ⟨[card.id], [moth.id]⟩ 0

/-- The call that opens this match, and then moves of both players. -/
def calls (card : Card) (moves : List (Seat × Move)) : List Call :=
  .createMatch lobby ⟨"game"⟩ players ⟨[card.id], [moth.id]⟩ 0 ::
    moves.map fun (seat, move) => .play (.user (players.get seat)) lobby move

/-- The match after the calls. -/
def after (card : Card) (moves : List (Seat × Move)) : Match :=
  match ((Arena.start setup).serveAll (calls card moves)).lobbies lobby with
  | .live m => m
  | _ => opened card

/-- The call that opens a match with some decks, and then moves of both players. -/
def dueling (decks : Seats (List CardId)) (moves : List (Seat × Move)) : List Call :=
  .createMatch lobby ⟨"game"⟩ players decks 0 ::
    moves.map fun (seat, move) => .play (.user (players.get seat)) lobby move

/-- The match after these calls. -/
def reached (setup : Setup) (decks : Seats (List CardId)) (moves : List (Seat × Move)) : Match :=
  match ((Arena.start setup).serveAll (dueling decks moves)).lobbies lobby with
  | .live m => m
  | _ => .start setup lobby ⟨"game"⟩ players decks 0

/-- The match after these calls is the one in the lobby, if there is one. -/
theorem live_reached (setup : Setup) (decks : Seats (List CardId)) (moves : List (Seat × Move))
    (live : (((Arena.start setup).serveAll (dueling decks moves)).find lobby).toOption.isSome) :
    ((Arena.start setup).serveAll (dueling decks moves)).lobbies lobby =
      .live (reached setup decks moves) := by
  obtain ⟨m, there⟩ := Option.isSome_iff_exists.1 live
  obtain ⟨m, there, -⟩ := Arena.exists_live (congrArg (Option.map (id : Match → Match)) there)
  rw [reached, there]

/-- An empty table with a deck of the host, in which the moth lies on the rite. -/
def dealt : Scene :=
  { table := (Table.start setup.rules 0).addCards .host [moth.id, rite.id]
    log := .start lobby ⟨"game"⟩ players }

/-- The host puts the rite on the chain. -/
def linking : List (Seat × Move) := [(.host, .addToChain ⟨0⟩ [])]

end Sample

end CardDuel
