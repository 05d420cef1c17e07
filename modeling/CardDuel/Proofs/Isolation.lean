import CardDuel.Proofs.Chronicle

/-!
# Lobbies are isolated

An arena keeps all of its matches in one place, and a call reads and writes there.  But all that it
reads is the setup and the state of its own lobby, and that state is all it writes.  So calls on
different lobbies do not notice each other, and only their order within each lobby matters.

* `Arena.AgreeOn`: two arenas that are the same to the calls of one lobby.
* `Arena.serve_agree`: what a call does there in one of them, told by what it does in the other.
* `Arena.agreeOn_own`: all calls leave a lobby as its own calls leave it.
* `Arena.lobbies_isolated`: the statement over all calls that an arena may serve.
-/

namespace CardDuel

namespace Arena

/-- Two arenas are the same to the calls of a lobby. -/
structure AgreeOn (lobby : Lobby) (a b : Arena) : Prop where
  setup : b.setup = a.setup
  state : b.lobbies lobby = a.lobbies lobby

theorem AgreeOn.refl (lobby : Lobby) (arena : Arena) : AgreeOn lobby arena arena := ⟨rfl, rfl⟩

/-! ## Putting states into lobbies -/

variable {a b : Arena} {lobby : Lobby}

theorem put_comm (arena : Arena) {lobby lobby' : Lobby} (state state' : LobbyState)
    (other : lobby ≠ lobby') :
    (arena.put lobby state).put lobby' state' = (arena.put lobby' state').put lobby state := by
  have same (l : Lobby) : ((arena.put lobby state).put lobby' state').lobbies l =
      ((arena.put lobby' state').put lobby state).lobbies l := by
    by_cases here : l = lobby
    · subst here
      rw [put_of_ne _ _ other, put_self, put_self]
    · rw [put_of_ne _ state here]
      by_cases there : l = lobby'
      · subst there
        rw [put_self, put_self]
      · rw [put_of_ne _ _ there, put_of_ne _ _ there, put_of_ne _ _ here]
  exact congrArg (Arena.mk arena.setup) (funext same)

/-- An arena has in a lobby what one that agrees on it has there. -/
theorem AgreeOn.put (h : AgreeOn lobby a b) : b.put lobby (a.lobbies lobby) = b := by
  have same (l : Lobby) : (b.put lobby (a.lobbies lobby)).lobbies l = b.lobbies l := by
    by_cases here : l = lobby
    · subst here
      rw [put_self, h.state]
    · rw [put_of_ne _ _ here]
  exact congrArg (Arena.mk b.setup) (funext same)

theorem agreeOn_put (arena : Arena) {lobby lobby' : Lobby} (state : LobbyState)
    (other : lobby ≠ lobby') : AgreeOn lobby arena (arena.put lobby' state) :=
  ⟨rfl, put_of_ne arena state other⟩

/-! ## What one call does -/

/-- The arena with what another has in a lobby. -/
def copyFrom (arena : Arena) (lobby : Lobby) (source : Arena) : Arena :=
  arena.put lobby (source.lobbies lobby)

theorem copyFrom_put (arena source : Arena) (lobby : Lobby) (state : LobbyState) :
    arena.copyFrom lobby (source.put lobby state) = arena.put lobby state := by
  rw [copyFrom, put_self]

theorem find_agree (h : AgreeOn lobby a b) : b.find lobby = a.find lobby := by
  rw [find, find, h.state]

theorem createMatch_agree (h : AgreeOn lobby a b) (game : GameName) (players : Seats User)
    (decks : Seats (List CardId)) (seed : UInt64) :
    b.createMatch lobby game players decks seed =
      b.copyFrom lobby <$> a.createMatch lobby game players decks seed := by
  simp only [createMatch, isTaken, h.state, h.setup, map_bind]
  congr 1
  funext _
  congr 1
  funext _
  split
  · rfl
  · simp only [map_bind, map_pure, copyFrom_put]

theorem closeMatch_agree (h : AgreeOn lobby a b) :
    b.closeMatch lobby =
      (fun made => (made.1, b.copyFrom lobby made.2)) <$> a.closeMatch lobby := by
  simp only [closeMatch, find_agree h, map_bind]
  congr 1
  funext m
  split
  · rw [map_pure, copyFrom_put]
  · rfl

theorem play_agree (h : AgreeOn lobby a b) (caller : Caller) (move : Move) :
    b.play caller lobby move =
      (fun made => (made.1, b.copyFrom lobby made.2)) <$> a.play caller lobby move := by
  simp only [play, find_agree h, h.setup, map_bind, map_pure, copyFrom_put]

theorem ask_agree (h : AgreeOn lobby a b) (query : Query) :
    b.ask lobby query = a.ask lobby query := by
  cases query <;> simp only [ask, effectiveAttack, find_agree h, h.setup]

theorem handle_agree (call : Call) (h : AgreeOn call.lobby a b) :
    b.handle call =
      (fun made => (made.1, b.copyFrom call.lobby made.2)) <$> a.handle call := by
  cases call with
  | createMatch lobby game players decks seed =>
    have h : AgreeOn lobby a b := h
    simp only [handle, createMatch_agree h, map_bind, bind_map_left, map_pure, Call.lobby]
  | closeMatch lobby =>
    have h : AgreeOn lobby a b := h
    simp only [handle, closeMatch_agree h, map_bind, bind_map_left, map_pure, Call.lobby]
  | play caller lobby move =>
    have h : AgreeOn lobby a b := h
    simp only [handle, play_agree h, map_bind, bind_map_left, map_pure, Call.lobby]
  | ask lobby query =>
    have h : AgreeOn lobby a b := h
    have kept : b.copyFrom lobby a = b := h.put
    simp only [handle, ask_agree h, map_bind, map_pure, Call.lobby, kept]

/-- A call is answered the same wherever its lobby is the same, and writes the same into it, and
nothing into any other. -/
theorem serve_agree (call : Call) (h : AgreeOn call.lobby a b) :
    b.serve call = ((a.serve call).1, b.copyFrom call.lobby (a.serve call).2) := by
  have handled := handle_agree call h
  cases made : a.handle call with
  | error refusal =>
    rw [made] at handled
    rw [serve_of_error made, serve_of_error handled]
    exact congrArg _ h.put.symm
  | ok reply =>
    rw [made] at handled
    rw [serve_of_ok made, serve_of_ok handled]

/-- A call changes no lobby but its own. -/
theorem serve_eq_put (arena : Arena) (call : Call) :
    (arena.serve call).2 =
      arena.put call.lobby ((arena.serve call).2.lobbies call.lobby) :=
  congrArg Prod.snd (serve_agree call (.refl call.lobby arena))

/-- A call on another lobby goes unnoticed. -/
theorem serve_after (arena : Arena) {first second : Call} (apart : first.lobby ≠ second.lobby) :
    (arena.serve first).2.serve second =
      ((arena.serve second).1,
        (arena.serve first).2.copyFrom second.lobby (arena.serve second).2) := by
  have agree : AgreeOn second.lobby arena (arena.serve first).2 := by
    rw [serve_eq_put arena first]
    exact agreeOn_put arena _ apart.symm
  exact serve_agree second agree

/-- Calls on two lobbies lead to the same arena in either order. -/
theorem serve_comm (arena : Arena) {first second : Call} (apart : first.lobby ≠ second.lobby) :
    ((arena.serve first).2.serve second).2 = ((arena.serve second).2.serve first).2 := by
  let one := (arena.serve first).2.lobbies first.lobby
  let two := (arena.serve second).2.lobbies second.lobby
  calc ((arena.serve first).2.serve second).2
    _ = (arena.serve first).2.put second.lobby two := congrArg Prod.snd (serve_after arena apart)
    _ = (arena.put first.lobby one).put second.lobby two :=
      congrArg (·.put second.lobby two) (serve_eq_put arena first)
    _ = (arena.put second.lobby two).put first.lobby one := put_comm arena one two apart
    _ = (arena.serve second).2.put first.lobby one :=
      congrArg (·.put first.lobby one) (serve_eq_put arena second).symm
    _ = ((arena.serve second).2.serve first).2 :=
      (congrArg Prod.snd (serve_after arena apart.symm)).symm

/-- A query changes nothing. -/
theorem serve_ask (arena : Arena) (lobby : Lobby) (query : Query) :
    (arena.serve (.ask lobby query)).2 = arena := by
  cases asked : arena.ask lobby query with
  | error refusal =>
    have handled : arena.handle (.ask lobby query) = .error refusal := by
      rw [handle, asked]
      rfl
    rw [serve_of_error handled]
  | ok answer =>
    have handled : arena.handle (.ask lobby query) = .ok (.asked answer, arena) := by
      rw [handle, asked]
      rfl
    rw [serve_of_ok handled]

/-! ## What all calls do -/

variable {setup : Setup} {calls : List Call}

/-- A lobby is left by all calls as it is left by its own. -/
theorem agreeOn_own (setup : Setup) (calls : List Call) (lobby : Lobby) :
    AgreeOn lobby ((start setup).serveAll (calls.filter (·.lobby = lobby)))
      ((start setup).serveAll calls) := by
  refine ⟨by rw [setup_serveAll, setup_serveAll], ?_⟩
  induction calls using List.reverseRecOn with
  | nil => rfl
  | append_singleton calls call ih =>
    rw [serveAll_snoc, List.filter_append]
    by_cases own : call.lobby = lobby
    · have agree : AgreeOn call.lobby ((start setup).serveAll (calls.filter (·.lobby = lobby)))
          ((start setup).serveAll calls) :=
        ⟨by rw [setup_serveAll, setup_serveAll], by rw [own, ih]⟩
      rw [List.filter_cons_of_pos (by simpa using own), List.filter_nil, serveAll_snoc,
        serve_agree call agree, ← own]
      exact put_self ..
    · rw [List.filter_cons_of_neg (by simpa using own), List.filter_nil, List.append_nil,
        serve_eq_put, put_of_ne _ _ (Ne.symm own)]
      exact ih

/-- Only the order of the calls within each lobby matters. -/
theorem serveAll_congr {calls calls' : List Call}
    (same : ∀ lobby : Lobby, calls'.filter (·.lobby = lobby) = calls.filter (·.lobby = lobby)) :
    (start setup).serveAll calls' = (start setup).serveAll calls := by
  have lobbies :
      ((start setup).serveAll calls').lobbies = ((start setup).serveAll calls).lobbies := by
    funext lobby
    rw [(agreeOn_own setup calls' lobby).state, same, (agreeOn_own setup calls lobby).state]
  cases here : (start setup).serveAll calls'
  cases there : (start setup).serveAll calls
  have setups := (setup_serveAll setup calls').trans (setup_serveAll setup calls).symm
  simp_all

/-- A call that is refused and a query change nothing at all, and any other call changes its own
lobby only.  Calls on two lobbies are answered the same in either order and lead to the same arena.
So what a lobby has come to and what is answered there depends on its own calls only, and however
the calls of all lobbies are mixed, the arena comes out the same. -/
theorem lobbies_isolated (setup : Setup) (calls : List Call) :
    let arena := (start setup).serveAll calls
    (∀ call refusal, (arena.serve call).1 = .error refusal → (arena.serve call).2 = arena) ∧
    (∀ lobby query, (arena.serve (.ask lobby query)).2 = arena) ∧
    (∀ call lobby, lobby ≠ call.lobby → (arena.serve call).2.lobbies lobby = arena.lobbies lobby) ∧
    (∀ first second : Call, first.lobby ≠ second.lobby →
      ((arena.serve first).2.serve second).1 = (arena.serve second).1 ∧
      ((arena.serve second).2.serve first).1 = (arena.serve first).1 ∧
      ((arena.serve first).2.serve second).2 = ((arena.serve second).2.serve first).2) ∧
    (∀ call : Call, (arena.serve call).1 =
      (((start setup).serveAll (calls.filter (·.lobby = call.lobby))).serve call).1) ∧
    ∀ calls' : List Call,
      (∀ lobby : Lobby, calls'.filter (·.lobby = lobby) = calls.filter (·.lobby = lobby)) →
      (start setup).serveAll calls' = arena := by
  intro arena
  refine ⟨fun _ _ => serve_refused, fun lobby query => ?_, fun call lobby other => ?_,
    fun first second apart => ⟨?_, ?_, serve_comm arena apart⟩, fun call => ?_,
    fun _ => serveAll_congr⟩
  · exact serve_ask arena lobby query
  · rw [serve_eq_put, put_of_ne _ _ other]
  · rw [serve_after arena apart]
  · rw [serve_after arena apart.symm]
  · rw [serve_agree call (agreeOn_own setup calls call.lobby)]

/-- Two lobbies, in one of which the host surrenders while the other is still played in. -/
theorem two_lobbies_isolated :
    let hall : Lobby := ⟨"hall"⟩
    let opening (lobby : Lobby) : Call :=
      .createMatch lobby ⟨"game"⟩ Sample.players ⟨[Sample.rite.id], [Sample.moth.id]⟩ 0
    let arena := (start Sample.setup).serveAll [opening Sample.lobby, opening hall]
    let surrender : Call := .play (.user Sample.players.host) Sample.lobby .surrender
    let closing : Call := .closeMatch hall
    (arena.serve closing).2 = arena ∧
    (arena.serve surrender).2.lobbies hall = arena.lobbies hall ∧
    ((arena.serve surrender).2.serve closing).2 = ((arena.serve closing).2.serve surrender).2 ∧
    (start Sample.setup).serveAll [opening hall, opening Sample.lobby] = arena := by
  intro hall opening arena surrender closing
  obtain ⟨refused, -, framed, commuted, -, mixed⟩ :=
    lobbies_isolated Sample.setup [opening Sample.lobby, opening hall]
  have apart : hall ≠ Sample.lobby := by decide
  have inProgress : (arena.serve closing).1 = .error (.illegal .inProgress) := by rfl
  refine ⟨refused closing _ inProgress, framed surrender hall apart,
    (commuted surrender closing apart.symm).2.2, mixed _ fun lobby => ?_⟩
  by_cases here : hall = lobby
  · subst here
    rfl
  · have there : (opening hall).lobby ≠ lobby := here
    simp [List.filter_cons, there]

end Arena

end CardDuel
