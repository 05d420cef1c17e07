import CardDuel.Proofs.Entries

/-!
# The field is legal

Monsters come onto the board by Normal Summons, by Sets and by Special Summons, which may set off
further ones, and each of these builds its monster and looks for room by itself.  Most other moves
edit the field or take cards off it.  Whatever has happened, no side has more on it than fits, and
what lies there is what its card says.

* `length_board_payTributes`: tributes make room, one place for each.
* `Line.legal`: whatever is written down keeps the field legal.
* `Arena.field_legal`: the statement over all calls that an arena may serve.
-/

namespace CardDuel

open Resolution

/-! ## Tributes make room -/

namespace Table

variable {t : Table} {seat : Seat} {card : CardRef}

/-- A monster that is moved to a pile leaves its place on the board. -/
theorem board_moveToPile (h : t.Placed []) (hm : card ∈ (t.side seat).cardsIn .board) (pile : Pile)
    (place : DeckPlace) :
    ((t.moveToPile card pile place).side seat).board.length + 1 = (t.side seat).board.length := by
  have moved : t.moveToPile? card pile place =
      some (.board, (t.modifySide seat (·.remove .board card)).push seat pile card place) :=
    moveToPile?_eq_some.2 ⟨seat, seat, h.owned seat .board card hm, h.locate?_of_mem hm, rfl⟩
  let taken : Table := t.modifySide seat (·.remove .board card)
  have put : ((taken.push seat pile card place).side seat).board = (taken.side seat).board := by
    obtain ⟨cards, hside, -⟩ := (taken.side seat).push_eq pile card place taken.rng
    show ((taken.modifySide seat fun side => (side.push pile card place taken.rng).1).side
      seat).board = _
    rw [side_modifySide_self, hside]
    cases pile <;> rfl
  have left : (taken.side seat).board = (t.side seat).board.eraseP (·.card == card) :=
    congrArg Side.board (side_modifySide_self t seat _)
  obtain ⟨monster, there, same⟩ := List.mem_map.1 hm
  have fewer : ((t.side seat).board.eraseP (·.card == card)).length =
      (t.side seat).board.length - 1 := List.length_eraseP_of_mem there (by simp [same])
  have some : 0 < (t.side seat).board.length := List.length_pos_of_mem there
  rw [moveToPile, moved, put, left, fewer]
  omega

end Table

section

variable {setup : Setup} {s s' : Scene} {seat : Seat}

/-- Tributes make room, one place for each. -/
theorem length_board_payTributes {tributes : List CardRef} (placed : s.table.Placed [])
    (nodup : tributes.Nodup)
    (onBoard : ∀ tribute ∈ tributes, tribute ∈ (s.side seat).cardsIn .board) :
    ((s.each (Match.payTribute setup seat) tributes).2.side seat).board.length + tributes.length =
      (s.side seat).board.length := by
  induction tributes generalizing s with
  | nil => rfl
  | cons tribute rest ih =>
    obtain ⟨other, nodup⟩ := List.nodup_cons.1 nodup
    let paid := (Match.payTribute setup seat tribute s).2
    have first : (paid.side seat).board.length + 1 = (s.side seat).board.length :=
      Table.board_moveToPile placed (onBoard tribute List.mem_cons_self) .graveyard .top
    have placed' : paid.table.Placed [] :=
      placed.rearranged (Table.affected_moveToPile s.table tribute .graveyard .top).toRearranged
    have onBoard' (t : CardRef) (ht : t ∈ rest) : t ∈ (paid.side seat).cardsIn .board := by
      have ne : t ≠ tribute := fun same => other (same ▸ ht)
      have stays := Table.stays_moveToPile s.table .graveyard .top ne
      exact (stays.zones seat .board).2 (onBoard t (List.mem_cons_of_mem _ ht))
    have others := ih placed' nodup onBoard'
    show ((paid.each (Match.payTribute setup seat) rest).2.side seat).board.length +
      (rest.length + 1) = _
    omega

/-! ## What is written down keeps the field legal -/

theorem legal_played {m : Match} {tributes : List CardRef} {printed : Card} {monster : Monster}
    (news : News) (placed : m.table.Placed [])
    (ok : Match.Summonable setup m seat monster.card tributes printed)
    (proper : monster.Proper setup m.table) (h : m.table.Legal setup) :
    (m.played setup seat tributes monster news).table.Legal setup := by
  let paid := (m.toScene.each (Match.payTribute setup seat) tributes).2
  have paying : Table.Pared m.table paid.table := pared_payTributes setup seat tributes m.toScene
  have legal : paid.table.Legal setup := paying.legal h
  have hand := (paid.table.side seat).pared_remove .hand monster.card
  refine legal.modifySide ?_ ?_ ?_ ?_
  · have room : (paid.side seat).board.length + tributes.length = (m.side seat).board.length :=
      length_board_payTributes placed ok.nodup ok.onBoard
    have free := ok.room
    show ((paid.side seat).board ++ [monster]).length ≤ _
    rw [List.length_append, List.length_singleton]
    omega
  · exact Nat.le_trans hand.spellTraps.length_le (legal.spellTrapRoom seat)
  · intro other hm
    rcases List.mem_append.1 hm with old | new
    · exact legal.monsters seat other old
    · rw [List.mem_singleton.1 new]
      exact proper.later paying.copies (Nat.le_of_eq paying.turn.symm)
  · exact legal.setCards seat

theorem Entry.legal (entry : Entry setup s s') (h : s.table.Legal setup) :
    s'.table.Legal setup := by
  cases entry with
  | silent shift log => exact shift.legal h
  | aside kind => exact h
  | life seat change s =>
    exact h.modifySide (h.boardRoom seat) (h.spellTrapRoom seat) (h.monsters seat) (h.setCards seat)
  | phase seat phase s => exact h.congr (fun _ => rfl) rfl (Nat.le_refl _)
  | @play m seat tributes printed monster news placed ok onTurn proper kind told names =>
    exact legal_played news placed ok proper h

theorem Line.legal (line : Line setup s s') (h : s.table.Legal setup) : s'.table.Legal setup := by
  cases line with
  | entry entry => exact entry.legal h
  | turn m =>
    have side (seat : Seat) := side_handOver m.table.current m.table.current.other seat m
    refine ⟨fun seat => ?_, fun seat => ?_, fun seat monster hm => ?_, fun seat laid hm => ?_⟩
    · rw [side, Match.restSide, List.length_map]
      exact h.boardRoom seat
    · rw [side]
      exact h.spellTrapRoom seat
    · rw [side] at hm
      obtain ⟨before, there, rfl⟩ := List.mem_map.1 hm
      have proper := h.monsters seat before there
      exact ⟨proper.printed, Nat.le_succ_of_le proper.entered, proper.hidden⟩
    · rw [side] at hm
      exact (h.setCards seat laid hm).later rfl (Nat.le_succ _)

/-- A match begins with an empty field. -/
theorem legal_start (setup : Setup) (lobby : Lobby) (game : GameName) (players : Seats User)
    (decks : Seats (List CardId)) (seed : UInt64) :
    (Match.start setup lobby game players decks seed).table.Legal setup := by
  have steady := Match.steady_start setup lobby game players decks seed
  have board (seat : Seat) :
      ((Match.start setup lobby game players decks seed).table.side seat).board = [] := by
    rw [steady.board]
    cases seat <;> rfl
  have spellTraps (seat : Seat) :
      ((Match.start setup lobby game players decks seed).table.side seat).spellTraps = [] := by
    rw [steady.spellTraps]
    cases seat <;> rfl
  refine ⟨fun seat => ?_, fun seat => ?_, fun seat monster hm => ?_, fun seat laid hm => ?_⟩
  · rw [board]
    exact Nat.zero_le _
  · rw [spellTraps]
    exact Nat.zero_le _
  · rw [board] at hm
    exact absurd hm List.not_mem_nil
  · rw [spellTraps] at hm
    exact absurd hm List.not_mem_nil

end

/-! ## A sample -/

namespace Sample

/-- A monster that is safe from effects. -/
def warden : Card where
  id := ⟨5⟩
  name := "Mute Warden"
  type := .creature
  attack := 800
  text := some "Cannot be destroyed by card effects. Cannot be targeted by card effects."

/-- What is read from the text of the warden. -/
def shielding : Ability :=
  ⟨[{ kind := .protection, value := 0, continuous := true, protection := ⟨false, true, false⟩,
      text := "Cannot be destroyed by card effects" },
    { kind := .protection, value := 0, continuous := true, protection := ⟨false, false, true⟩,
      text := "Cannot be targeted by card effects" }]⟩

theorem ability_warden : shielding = warden.ability := by decide +kernel

/-- A duel with this card. -/
def walled : Setup where
  catalog := ⟨[⟨warden, shielding, ability_warden⟩]⟩
  rules := { startingHand := 1 }

/-- Each player holds one. -/
def walls : Seats (List CardId) := ⟨[warden.id], [warden.id]⟩

end Sample

/-! ## Over all calls -/

namespace Arena

theorem legal_of_live {setup : Setup} {calls : List Call} {lobby : Lobby} {m : Match}
    (live : ((start setup).serveAll calls).lobbies lobby = .live m) : m.table.Legal setup :=
  written (fun s => s.table.Legal setup) (legal_start setup) (fun _ _ line h => line.legal h) live

/-- In every live match the cards in play fit into their zones.  On the board there are only
creatures, which are safe from whatever any effect of their ability protects from and from nothing
else, with the DEF that is printed on them; none has come from a later turn, and those that are
face-down are in defense.  In the spell and trap zone there are no creatures, and every card lies
face-down and has not been activated. -/
theorem field_legal (setup : Setup) (calls : List Call) (lobby : Lobby) (m : Match)
    (live : ((start setup).serveAll calls).lobbies lobby = .live m) (seat : Seat) :
    (m.side seat).board.length ≤ setup.rules.monsterZones ∧
      (m.side seat).spellTraps.length ≤ setup.rules.spellTrapZones ∧
      (∀ monster ∈ (m.side seat).board,
        (∃ printed, setup.card? m.table monster.card = some printed ∧ printed.type = .creature ∧
          monster.protection = {
            fromBattle := printed.ability.effects.any (·.protection.fromBattle)
            fromEffects := printed.ability.effects.any (·.protection.fromEffects)
            fromTargeting := printed.ability.effects.any (·.protection.fromTargeting) } ∧
          monster.defense = printed.defense) ∧
        monster.enteredOn ≤ m.table.turn ∧ (monster.facing = .down → monster.stance = .defense)) ∧
      ∀ laid ∈ (m.side seat).spellTraps,
        (∃ printed, setup.card? m.table laid.card = some printed ∧ printed.type ≠ .creature) ∧
        laid.facing = .down ∧ laid.activated = false := by
  have legal := legal_of_live live
  refine ⟨legal.boardRoom seat, legal.spellTrapRoom seat, fun monster hm => ?_, fun laid hm => ?_⟩
  · have proper := legal.monsters seat monster hm
    obtain ⟨printed, known, creature, protection, defense⟩ := proper.printed
    rw [printed.ability.protection_eq] at protection
    exact ⟨⟨printed, known, creature, protection, defense⟩, proper.entered, proper.hidden⟩
  · have proper := legal.setCards seat laid hm
    exact ⟨proper.printed, proper.hidden, proper.idle⟩

/-- The host sets the warden.  It hides in defense, and both of its effects protect it. -/
theorem warden_hides :
    let m := Sample.reached Sample.walled Sample.walls [(.host, .setMonster ⟨0⟩ [])]
    (m.side .host).board.map (fun monster => (monster.card, monster.facing)) = [(⟨0⟩, .down)] ∧
      ∀ monster ∈ (m.side .host).board,
        monster.stance = .defense ∧ monster.protection = ⟨false, true, true⟩ := by
  intro m
  have live := Sample.live_reached Sample.walled Sample.walls
    [(.host, .setMonster ⟨0⟩ [])] (by decide +kernel)
  have down : (m.side .host).board.map (fun monster => (monster.card, monster.facing)) =
      [(⟨0⟩, .down)] := by decide +kernel
  have known : Sample.walled.card? m.table ⟨0⟩ = some Sample.warden := by decide +kernel
  obtain ⟨-, -, monsters, -⟩ := field_legal Sample.walled _ Sample.lobby m live .host
  refine ⟨down, fun monster hm => ?_⟩
  have there : (monster.card, monster.facing) ∈ [((⟨0⟩ : CardRef), Facing.down)] :=
    down ▸ List.mem_map_of_mem hm
  obtain ⟨card, facing⟩ := Prod.mk.inj (List.mem_singleton.1 there)
  obtain ⟨⟨printed, found, -, protection, -⟩, -, hidden⟩ := monsters monster hm
  rw [card, known] at found
  obtain rfl := Option.some.inj found
  refine ⟨hidden facing, protection.trans ?_⟩
  rw [← Sample.ability_warden]
  decide

end Arena

end CardDuel
