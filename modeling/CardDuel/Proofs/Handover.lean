import CardDuel.Proofs.Archives
import CardDuel.Proofs.Sweeps

/-!
# What the end of a turn leaves behind

A turn ends in many steps: the effects of the End Phase happen, the hand is cut down to its limit,
the marks of the turn are taken off, the other player takes over and draws.  The match may end on
the way, when the effects have cost a player the life points, or when there is no card to draw.

* `Match.afterEndPhase`: the match when the effects of the End Phase have happened.
* `endTurn_eq_ok`: what the end of a turn answers, and what it leaves.
* `side_nextTurn`: the two sides when the next player has drawn.
* `Match.HandedOver`: what a player finds who takes over.
* `endTurn_handedOver`: this is what is left when the match goes on.
* `Arena.turn_handed_over`: the statement over all calls that an arena may serve.
-/

namespace CardDuel

open Resolution

namespace Match

variable {setup : Setup} {m made : Match} {seat : Seat}

/-! ## The parts of the end of a turn -/

/-- The match when the effects of the End Phase have happened. -/
def afterEndPhase (setup : Setup) (m : Match) : Match := (m.endPhase setup m.table.current).2

theorem table_enforceHandLimit (setup : Setup) (seat : Seat) (m : Match) :
    (m.enforceHandLimit setup seat).2.table =
      m.table.modifySide seat (trimHand setup.rules.handLimit) := by
  unfold enforceHandLimit
  dsimp only
  split <;> rfl

theorem table_draw (seat : Seat) (count : Nat) (s : Scene) :
    (draw seat count s).2.table = s.table.modifySide seat (·.turnOver count .hand) := by
  unfold draw
  dsimp only
  split <;> rfl

/-- What the end of a turn answers, and what it leaves. -/
theorem endTurn_eq_ok {report : TurnReport}
    (h : m.endTurn setup m.table.current = .ok (report, made)) :
    m.chain.links = [] ∧ report.result = made.result? ∧
      (made.table.isActive → (m.afterEndPhase setup).table.isActive ∧
        made = (m.afterEndPhase setup).nextTurn setup m.table.current ∧
        report.next = m.table.current.other ∧
        report.turn = (m.afterEndPhase setup).table.turn + 1 ∧
        report.discarded =
          excess setup.rules.handLimit ((m.afterEndPhase setup).side m.table.current) ∧
        report.drawn = ((((m.afterEndPhase setup).enforceHandLimit setup m.table.current).2.handOver
          m.table.current m.table.current.other).drawPhase m.table.current.other).1) := by
  unfold endTurn at h
  simp only [bind_eq_ok, exists_unit, requireNoChain_ok] at h
  obtain ⟨noChain, heq⟩ := h
  refine ⟨noChain, ?_⟩
  split at heq
  · next active =>
    cases pure_eq_ok.1 heq
    have turn : ((m.afterEndPhase setup).enforceHandLimit setup m.table.current).2.table.turn =
        (m.afterEndPhase setup).table.turn := by
      rw [table_enforceHandLimit]
      rfl
    exact ⟨rfl, fun _ => ⟨active, rfl, rfl, congrArg (· + 1) turn, rfl, rfl⟩⟩
  · next ended =>
    cases pure_eq_ok.1 heq
    exact ⟨rfl, fun active => absurd active ended⟩

/-! ## What is left -/

/-- What the end of the turn of a player leaves behind, when the match goes on. -/
structure HandedOver (setup : Setup) (m : Match) (report : TurnReport) (after : Match) :
    Prop where
  current : after.table.current = m.table.current.other
  turn : after.table.turn = m.table.turn + 1
  phase : after.table.phase = .main1
  next : report.next = m.table.current.other
  number : report.turn = m.table.turn + 1
  /-- The player keeps the first cards of the hand. -/
  kept : (after.side m.table.current).hand =
    ((m.afterEndPhase setup).side m.table.current).hand.take setup.rules.handLimit
  limit : (after.side m.table.current).hand.length ≤ setup.rules.handLimit
  /-- The others are discarded, the last one first. -/
  discarded : report.discarded =
    (((m.afterEndPhase setup).side m.table.current).hand.drop setup.rules.handLimit).reverse
  graveyard : (after.side m.table.current).graveyard =
    ((m.afterEndPhase setup).side m.table.current).graveyard ++ report.discarded
  /-- The other player has drawn the top of the deck, and nothing else. -/
  drawn : ∃ top,
    ((m.afterEndPhase setup).side m.table.current.other).deck =
        top :: (after.side m.table.current.other).deck ∧
      (after.side m.table.current.other).hand =
        ((m.afterEndPhase setup).side m.table.current.other).hand ++ [top]
  counted : report.drawn = 1
  rested : ∀ seat, ∀ monster ∈ (after.side seat).board,
    monster.bonus = 0 ∧ monster.hasAttacked = false ∧ monster.hasMoved = false
  hasSummoned : ∀ seat, (after.side seat).hasSummoned = false
  used : after.table.used = .empty
  negated : after.table.negated = .empty
  links : after.chain.links = []
  idle : after.chain.state = .idle
  chained : after.table.chained = .empty

/-- The table when the next player has taken over, in the Draw Phase. -/
def begunTable (setup : Setup) (seat : Seat) (t : Table) : Table :=
  { restTable (t.modifySide seat (trimHand setup.rules.handLimit)) with
    current := seat.other
    turn := t.turn + 1
    phase := .draw }

theorem table_handOver (setup : Setup) (seat : Seat) (m : Match) :
    ((m.enforceHandLimit setup seat).2.handOver seat seat.other).table =
      begunTable setup seat m.table := by
  have handing : ((m.enforceHandLimit setup seat).2.handOver seat seat.other).table =
    { restTable (m.enforceHandLimit setup seat).2.table with
      current := seat.other
      turn := (m.enforceHandLimit setup seat).2.table.turn + 1
      phase := .draw } := rfl
  rw [handing, table_enforceHandLimit]
  rfl

/-- The table when the next player has drawn. -/
theorem table_nextTurn {ended : Match} (going : (ended.nextTurn setup seat).table.isActive) :
    (ended.nextTurn setup seat).table =
      { (begunTable setup seat ended.table).modifySide seat.other (·.turnOver 1 .hand) with
        phase := .main1 } := by
  let begun := (ended.enforceHandLimit setup seat).2.handOver seat seat.other
  have begins : begun.table = begunTable setup seat ended.table := table_handOver setup seat ended
  obtain ⟨-, drawing⟩ := drawPhase_of_active (m := begun) going
  have next : (ended.nextTurn setup seat).table =
      { (draw seat.other 1 begun.toScene).2.table with phase := .main1 } := by
    rw [nextTurn, drawing]
    rfl
  rw [next, table_draw, ← begins]

/-- The sides when the next player has drawn.  The player before has put the cards above the limit
away. -/
theorem side_nextTurn {ended : Match} (going : (ended.nextTurn setup seat).table.isActive)
    (seat' : Seat) :
    (ended.nextTurn setup seat).side seat' =
      if seat' = seat then restSide (trimHand setup.rules.handLimit (ended.side seat'))
      else (restSide (ended.side seat')).turnOver 1 .hand := by
  let limited := ended.table.modifySide seat (trimHand setup.rules.handLimit)
  have handed : (begunTable setup seat ended.table).side seat' = restSide (limited.side seat') := by
    rw [← table_handOver, side_handOver, table_enforceHandLimit]
  have drawn : (ended.nextTurn setup seat).side seat' =
      ((begunTable setup seat ended.table).modifySide seat.other
        (·.turnOver 1 .hand)).side seat' := by
    show (ended.nextTurn setup seat).table.side seat' = _
    rw [table_nextTurn going]
    rfl
  rw [drawn, Table.side_modifySide, handed, Table.side_modifySide]
  by_cases own : seat' = seat
  · have notNext : seat' ≠ seat.other := by
      rw [own]
      exact (Seat.other_ne seat).symm
    rw [if_pos own, if_pos own, if_neg notNext]
    rfl
  · have next : seat' = seat.other := (Seat.other_eq_of_ne (Ne.symm own)).symm
    rw [if_neg own, if_neg own, if_pos next]
    rfl

/-- Nobody loses life points while the turn is handed over. -/
theorem life_nextTurn {ended : Match} (going : (ended.nextTurn setup seat).table.isActive)
    (seat' : Seat) :
    ((ended.nextTurn setup seat).side seat').life = (ended.side seat').life := by
  rw [side_nextTurn going]
  split <;> rfl

theorem marks_restSide (side : Side) :
    (restSide side).hasSummoned = false ∧ ∀ monster ∈ (restSide side).board,
      monster.bonus = 0 ∧ monster.hasAttacked = false ∧ monster.hasMoved = false := by
  refine ⟨rfl, fun monster there => ?_⟩
  obtain ⟨tired, -, rfl⟩ := List.mem_map.1 there
  exact ⟨rfl, rfl, rfl⟩

/-- The marks of the turn are taken off both sides. -/
theorem marks_nextTurn {ended : Match} (going : (ended.nextTurn setup seat).table.isActive)
    (seat' : Seat) :
    ((ended.nextTurn setup seat).side seat').hasSummoned = false ∧
      ∀ monster ∈ ((ended.nextTurn setup seat).side seat').board,
        monster.bonus = 0 ∧ monster.hasAttacked = false ∧ monster.hasMoved = false := by
  rw [side_nextTurn going]
  split
  · exact marks_restSide _
  · exact marks_restSide (ended.side seat')

/-- At the end of a turn it is checked in time whether a player has lost. -/
theorem endTurn_settled {report : TurnReport}
    (h : m.endTurn setup m.table.current = .ok (report, made)) : made.settleLife = made := by
  cases active : made.table.isActive with
  | false => exact settleLife_of_finished active
  | true =>
    obtain ⟨going, rfl, -⟩ := (endTurn_eq_ok h).2.2 active
    have undecided : loser? (m.afterEndPhase setup).table = none := undecided_settleLife _ going
    refine settleLife_of_undecided (undecided_of_life_pos fun seat => ?_)
    rw [life_nextTurn active]
    exact life_pos_of_undecided undecided seat

/-- The next player draws the top of the deck. -/
theorem drawn_nextTurn {ended : Match} (going : (ended.nextTurn setup seat).table.isActive) :
    ∃ top, (ended.side seat.other).deck =
        top :: ((ended.nextTurn setup seat).side seat.other).deck ∧
      ((ended.nextTurn setup seat).side seat.other).hand =
        (ended.side seat.other).hand ++ [top] ∧
      (((ended.enforceHandLimit setup seat).2.handOver seat seat.other).drawPhase
        seat.other).1 = 1 := by
  let begun := (ended.enforceHandLimit setup seat).2.handOver seat seat.other
  have rested : begun.side seat.other = restSide (ended.side seat.other) := by
    show begun.table.side seat.other = _
    rw [side_handOver, table_enforceHandLimit,
      Table.side_modifySide_of_ne _ _ (Seat.other_ne seat)]
    rfl
  obtain ⟨more, drawing⟩ := drawPhase_of_active (m := begun) going
  rw [rested] at more
  obtain ⟨top, rest, deck⟩ := List.exists_cons_of_ne_nil more
  have deck : (ended.side seat.other).deck = top :: rest := deck
  have begins : (draw seat.other 1 begun.toScene).2.side seat.other =
      (restSide (ended.side seat.other)).turnOver 1 .hand := by
    show (draw seat.other 1 begun.toScene).2.table.side seat.other = _
    rw [table_draw, Table.side_modifySide_self]
    exact congrArg (Side.turnOver · 1 .hand) rested
  have hand : ((restSide (ended.side seat.other)).turnOver 1 .hand).hand =
      (ended.side seat.other).hand ++ [top] := by
    show (ended.side seat.other).hand ++ (ended.side seat.other).deck.take 1 = _
    rw [deck]
    rfl
  refine ⟨top, ?_, ?_, ?_⟩
  · rw [side_nextTurn going, if_neg (Seat.other_ne seat)]
    show _ = top :: (ended.side seat.other).deck.drop 1
    rw [deck]
    rfl
  · rw [side_nextTurn going, if_neg (Seat.other_ne seat), hand]
  · rw [drawing, begins, rested, hand, List.length_append]
    exact Nat.add_sub_cancel_left _ 1

/-- No chain is open when the next player has drawn. -/
theorem rests_nextTurn {ended : Match} (placed : ended.table.Placed [])
    (coupled : ended.Coupled setup) (noChain : ended.chain.links = [])
    (going : (ended.nextTurn setup seat).table.isActive) :
    (ended.nextTurn setup seat).chain.links = [] ∧
      (ended.nextTurn setup seat).chain.state = .idle ∧
      (ended.nextTurn setup seat).table.chained = .empty := by
  obtain ⟨idle, chained⟩ := coupled.rests noChain
  obtain ⟨trimmed, moved, trimming, beginning, drawn | ⟨-, -, out⟩⟩ :=
    nextTurn_motions setup seat ended
  · have calm : Calm ended moved := calm_turn placed trimming beginning
    rw [drawn, calm.chain, calm.chained]
    exact ⟨noChain, idle, chained⟩
  · rw [out, isActive_finish] at going
    cases going

/-- The effects of the End Phase change neither the turn nor the chain. -/
theorem afterEndPhase_calm (placed : m.table.Placed [])
    (going : (m.afterEndPhase setup).table.isActive) :
    Calm m (m.afterEndPhase setup) ∧ (m.afterEndPhase setup).table.turn = m.table.turn := by
  obtain ⟨others, ending, settled⟩ := endPhase_motions setup m.table.current placed
  have settled : m.afterEndPhase setup = others.settleLife := settled
  rw [settled] at going ⊢
  rw [(active_settleLife going).1]
  exact ⟨ending.calm placed, (ending.entries placed).turn.1⟩

/-- This is what is left when the match goes on. -/
theorem endTurn_handedOver {report : TurnReport} (placed : m.table.Placed [])
    (coupled : m.Coupled setup)
    (h : m.endTurn setup m.table.current = .ok (report, made)) (active : made.table.isActive) :
    m.HandedOver setup report made := by
  obtain ⟨noChain, -, handing⟩ := endTurn_eq_ok h
  obtain ⟨going, rfl, next, turn, discarded, drawn⟩ := handing active
  obtain ⟨calm, sameTurn⟩ := afterEndPhase_calm placed going
  obtain ⟨links, idle, chained⟩ := rests_nextTurn (placed.rearranged calm.table)
    (coupled.calm calm (.inl noChain)) (calm.chain ▸ noChain) active
  have table := table_nextTurn active
  have own := side_nextTurn active m.table.current
  rw [if_pos rfl] at own
  obtain ⟨top, deck, hand, one⟩ := drawn_nextTurn active
  exact {
    current := congrArg Table.current table
    turn := (congrArg Table.turn table).trans (congrArg (· + 1) sameTurn)
    phase := congrArg Table.phase table
    next := next
    number := turn.trans (congrArg (· + 1) sameTurn)
    kept := congrArg Side.hand own
    limit := by
      rw [own]
      exact List.length_take_le _ _
    discarded := discarded
    graveyard := by
      rw [own, discarded]
      rfl
    drawn := ⟨top, deck, hand⟩
    counted := drawn.trans one
    rested := fun seat => (marks_nextTurn active seat).2
    hasSummoned := fun seat => (marks_nextTurn active seat).1
    used := congrArg Table.used table
    negated := congrArg Table.negated table
    links := links
    idle := idle
    chained := chained }

end Match

namespace Sample

/-- A monster that lets its player draw at the end of the turn. -/
def watcher : Card where
  id := ⟨8⟩
  name := "Night Watcher"
  type := .creature
  attack := 300
  text := some "During the End Phase: Draw 2 cards."

/-- What is read from its text. -/
def watching : Ability :=
  ⟨[{ kind := .draw, value := 2, timing := some .onEnd,
      text := "During the End Phase: Draw 2 cards" }]⟩

theorem ability_watcher : watching = watcher.ability := by decide +kernel

/-- A duel with this card in which the players may keep no card in the hand. -/
def scarce : Setup where
  catalog := ⟨[⟨watcher, watching, ability_watcher⟩]⟩
  rules := { startingHand := 1, handLimit := 0 }

/-- Each player begins with the first card in the hand. -/
def watchers : Seats (List CardId) :=
  ⟨[watcher.id, watcher.id, watcher.id], [watcher.id, watcher.id]⟩

def watched : List (Seat × Move) := [(.host, .normalSummon ⟨0⟩ [] .attack)]

end Sample

/-! ## Over all calls -/

namespace Arena

/-- In every live match: when a turn has ended and the match goes on, the other player has taken
over and drawn one card, the hand is cut down to its limit, the marks of the turn are taken off,
and no chain is open.  The answer names the winner and the reason if the match has ended, and
otherwise nobody. -/
theorem turn_handed_over (setup : Setup) (calls : List Call) (lobby : Lobby) (m : Match)
    (live : ((start setup).serveAll calls).lobbies lobby = .live m) (user : User)
    (report : MoveReport) (after : Match)
    (played : m.play setup user .endTurn = .ok (report, after)) :
    ∃ turns, report = .turnEnded turns ∧
      (∀ winner reason, after.table.status = .finished winner reason →
        turns.result = some (winner, reason)) ∧
      (after.table.isActive → turns.result = none ∧ m.HandedOver setup turns after) := by
  have coupled : m.Coupled setup := coupled_of_live live
  have placed : m.table.Placed [] := placed_of_live live
  obtain ⟨seat, made, -, -, onTurn, hmade, rfl⟩ := Match.play_ok played
  obtain rfl : m.table.current = seat := onTurn.resolve_left nofun
  obtain ⟨turns, ended, rfl⟩ := Match.reported_eq_ok.1 hmade
  obtain ⟨-, result, -⟩ := Match.endTurn_eq_ok ended
  rw [Match.endTurn_settled ended]
  refine ⟨turns, rfl, fun winner reason won => ?_, fun active => ⟨?_, ?_⟩⟩
  · rw [result]
    exact Match.result?_eq_some.2 won
  · rw [result, Option.eq_none_iff_forall_ne_some]
    rintro ⟨winner, reason⟩ won
    have finished := Match.result?_eq_some.1 won
    simp [Table.isActive, finished] at active
  · exact Match.endTurn_handedOver placed coupled ended active

set_option maxRecDepth 2000 in
/-- The host summons a watcher, draws two cards by its effect at the end of the turn, and may keep
neither of them. -/
theorem watcher_hands_over :
    let before := Sample.reached Sample.scarce Sample.watchers Sample.watched
    ∃ turns after, before.play Sample.scarce Sample.players.host .endTurn =
        .ok (.turnEnded turns, after) ∧
      turns.result = none ∧ before.HandedOver Sample.scarce turns after ∧
      turns.discarded = [⟨2⟩, ⟨1⟩] ∧ (after.side .opponent).hand = [⟨3⟩, ⟨4⟩] := by
  intro before
  let calls := Sample.dueling Sample.watchers Sample.watched
  have live : ((start Sample.scarce).serveAll calls).lobbies Sample.lobby = .live before := by rfl
  obtain ⟨turns, ended, made, room, active, discarded, hand⟩ : ∃ turns ended,
      before.make Sample.scarce .host .endTurn = .ok (.turnEnded turns, ended) ∧
        ended.overrun = false ∧ ended.settleLife.table.isActive ∧
        turns.discarded = [⟨2⟩, ⟨1⟩] ∧ (ended.settleLife.side .opponent).hand = [⟨3⟩, ⟨4⟩] :=
    ⟨_, _, rfl, by decide +kernel, by decide +kernel, by decide +kernel, by decide +kernel⟩
  let after := ended.settleLife
  have played : before.play Sample.scarce Sample.players.host .endTurn =
      .ok (.turnEnded turns, after) :=
    Match.play_eq_ok_iff.2
      ⟨.host, ended, by decide +kernel, by decide +kernel, .inr (by decide +kernel), made, room,
        rfl⟩
  obtain ⟨turns', same, -, going⟩ := turn_handed_over Sample.scarce calls Sample.lobby before live
    Sample.players.host (.turnEnded turns) after played
  cases same
  obtain ⟨nobody, handed⟩ := going active
  exact ⟨turns, after, played, nobody, handed, discarded, hand⟩

end Arena

end CardDuel
