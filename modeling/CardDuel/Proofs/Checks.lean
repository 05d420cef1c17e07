import CardDuel.Match.Move
import CardDuel.Proofs.Census

/-!
# What a move that was made has passed

A move is refused by the first check that fails.  So a move that was made has passed all of
its checks, and this file says what they are, move by move, and what the match is after it.

* `Match.Summonable`: what holds when a monster may be played from the hand.
* `Match.Turnable`: what holds when a monster may be turned to its other stance.
* `Match.Layable` and `Match.Activatable`: what holds when a spell or trap may be set or activated.
* `normalSummon_ok`, `activateSpell_ok` and so on: one lemma for each move.
-/

namespace CardDuel

theorem bind_eq_ok {ε α β : Type} {x : Except ε α} {f : α → Except ε β} {b : β} :
    (x >>= f) = .ok b ↔ ∃ a, x = .ok a ∧ f a = .ok b := by
  cases x <;> simp [bind, Except.bind]

theorem pure_eq_ok {ε α : Type} {a b : α} : (pure a : Except ε α) = .ok b ↔ a = b := by
  simp [pure, Except.pure]

theorem exists_unit {p : Unit → Prop} : (∃ u, p u) ↔ p () :=
  ⟨fun ⟨_, h⟩ => h, fun h => ⟨(), h⟩⟩

/-! ## What a card is -/

theorem Catalog.id_of_card? {catalog : Catalog} {id : CardId} {card : Card}
    (h : catalog.card? id = some card) : card.id = id := by
  obtain ⟨entry, found, rfl⟩ := Option.map_eq_some_iff.1 h
  simpa using List.find?_some found

section

variable {setup : Setup} {t : Table} {card : CardRef} {printed : Card}

/-- The ability of a card is that of what is printed on it. -/
theorem Setup.abilityOf_eq (known : setup.card? t card = some printed) :
    setup.abilityOf t card = setup.catalog.ability printed.id := by
  obtain ⟨definition, hdefinition, hprinted⟩ := Option.bind_eq_some_iff.1 known
  rw [Setup.abilityOf, hdefinition, Catalog.id_of_card? hprinted]

/-- The ability that the catalog has for a card is the one that its text describes. -/
theorem Setup.ability_of_card? (known : setup.card? t card = some printed) :
    setup.catalog.ability printed.id = printed.ability := by
  obtain ⟨definition, -, hprinted⟩ := Option.bind_eq_some_iff.1 known
  rw [Catalog.id_of_card? hprinted, Catalog.ability_of_card? hprinted]

/-- A card that something is printed on is known. -/
theorem Setup.knows_of_card? (known : setup.card? t card = some printed) : t.knows card := by
  obtain ⟨definition, hdefinition, -⟩ := Option.bind_eq_some_iff.1 known
  obtain ⟨copy, hcopy, -⟩ := Option.map_eq_some_iff.1 hdefinition
  rw [Table.knows, hcopy]
  rfl

/-- A card that has an effect is known. -/
theorem Setup.knows_of_effect {e : Effect} (there : e ∈ (setup.abilityOf t card).effects) :
    t.knows card := by
  unfold Setup.abilityOf at there
  split at there
  · next definition hdefinition =>
    obtain ⟨copy, hcopy, -⟩ := Option.map_eq_some_iff.1 hdefinition
    rw [Table.knows, hcopy]
    rfl
  · exact absurd there List.not_mem_nil

theorem Table.knows_of_copies {t' : Table} (h : t'.copies = t.copies) (card : CardRef) :
    t'.knows card = t.knows card := by
  rw [Table.knows, h, Table.knows]

theorem Setup.card?_of_copies {t' : Table} (h : t'.copies = t.copies) (card : CardRef) :
    setup.card? t' card = setup.card? t card := by
  simp only [Setup.card?, Table.definition?, h]

theorem Setup.nameOf_of_copies {t' : Table} (h : t'.copies = t.copies) (card : CardRef) :
    setup.nameOf t' card = setup.nameOf t card := by
  rw [Setup.nameOf, Setup.card?_of_copies h, Setup.nameOf]

theorem Setup.abilityOf_of_copies {t' : Table} (h : t'.copies = t.copies) (card : CardRef) :
    setup.abilityOf t' card = setup.abilityOf t card := by
  simp only [Setup.abilityOf, Table.definition?, h]

end

/-! ## Moves that are made -/

theorem Chain.resolve_ok {setup : Setup} {s s' : Scene} {chain chain' : Chain}
    {reports : List LinkReport} (h : chain.resolve setup s = .ok (reports, chain', s')) :
    chain.state = .resolving ∧ chain' = chain.emptied ∧
      reports = (s.each (settleLink setup) chain.links.reverse).1 ∧
      s' = (s.each (settleLink setup) chain.links.reverse).2.record (resolvedNews reports) := by
  unfold resolve at h
  split at h
  · next ready =>
    cases h
    exact ⟨ready, rfl, rfl, rfl⟩
  · cases h

namespace Match

variable {setup : Setup} {m after : Match} {seat : Seat} {card : CardRef}
  {targets tributes : List CardRef} {stance : Stance} {printed : Card} {zone : Zone}

/-! ## Checks that moves share -/

theorem requireNoChain_ok : m.requireNoChain = .ok () ↔ m.chain.links = [] := by
  rw [requireNoChain, require_eq_ok_iff, List.isEmpty_iff]

theorem printed_ok :
    m.printed setup card = .ok printed ↔ setup.card? m.table card = some printed := by
  unfold Match.printed
  split <;> simp_all

theorem requireOwn_ok :
    m.requireOwn seat card zone = .ok () ↔
      m.table.knows card ∧ card ∈ (m.side seat).cardsIn zone := by
  unfold requireOwn
  simp only [bind_eq_ok, exists_unit, require_eq_ok_iff, Side.holds_iff]

theorem monsterOf_ok {monster : Monster} :
    m.monsterOf seat card = .ok monster ↔ (m.side seat).monster? card = some monster := by
  unfold monsterOf
  split <;> simp_all

/-! ## Moves with monsters -/

/-- The tributes are different monsters of the player, and none is among those paid. -/
theorem checkTributes_ok {paid : List CardRef} (h : m.checkTributes seat paid tributes = .ok ()) :
    tributes.Nodup ∧ ∀ tribute ∈ tributes, tribute ∉ paid ∧
      tribute ∈ (m.side seat).cardsIn .board := by
  induction tributes generalizing paid with
  | nil => exact ⟨.nil, fun _ h => absurd h List.not_mem_nil⟩
  | cons tribute rest ih =>
    unfold checkTributes at h
    simp only [bind_eq_ok, exists_unit, require_eq_ok_iff, requireOwn_ok] at h
    obtain ⟨unpaid, ⟨-, onBoard⟩, hrest⟩ := h
    obtain ⟨nodup, all⟩ := ih hrest
    refine ⟨List.nodup_cons.2 ⟨?_, nodup⟩, ?_⟩
    · exact fun hm => (all tribute hm).1 List.mem_cons_self
    · intro t ht
      rcases List.mem_cons.1 ht with rfl | ht
      · exact ⟨unpaid, onBoard⟩
      · exact ⟨fun hm => (all t ht).1 (List.mem_cons_of_mem _ hm), (all t ht).2⟩

/-- A monster may be played from the hand for some tributes. -/
structure Summonable (setup : Setup) (m : Match) (seat : Seat) (card : CardRef)
    (tributes : List CardRef) (printed : Card) : Prop where
  main : m.table.phase.isMain
  noChain : m.chain.links = []
  first : (m.side seat).hasSummoned = false
  inHand : card ∈ (m.side seat).cardsIn .hand
  known : setup.card? m.table card = some printed
  monster : printed.type.isMonster
  owed : tributes.length = setup.rules.tributesFor printed.level
  nodup : tributes.Nodup
  onBoard : ∀ tribute ∈ tributes, tribute ∈ (m.side seat).cardsIn .board
  room : (m.side seat).board.length - tributes.length < setup.rules.monsterZones

theorem checkSummon_ok {action : String}
    (h : m.checkSummon setup seat card tributes action = .ok printed) :
    Summonable setup m seat card tributes printed := by
  unfold checkSummon at h
  simp only [bind_eq_ok, exists_unit, require_eq_ok_iff, requireMainPhase, requireNoChain_ok,
    requireOwn_ok, printed_ok] at h
  obtain ⟨main, noChain, first, ⟨-, inHand⟩, _, hprinted, monster, owed, htributes, room, heq⟩ := h
  cases pure_eq_ok.1 heq
  obtain ⟨nodup, onBoard⟩ := checkTributes_ok htributes
  exact ⟨main, noChain, first, inHand, hprinted, monster, owed, nodup,
    fun tribute ht => (onBoard tribute ht).2, room⟩

theorem normalSummon_ok {report : SummonReport}
    (h : m.normalSummon setup seat card tributes stance = .ok (report, after)) :
    ∃ printed, Summonable setup m seat card tributes printed ∧
      report.effect = combined (Resolution.fire setup card seat .onSummon
        (m.summoned setup seat card printed tributes stance).toScene).1 ∧
      after = ((m.summoned setup seat card printed tributes stance).act
        (Resolution.fire setup card seat .onSummon)).2 := by
  unfold normalSummon at h
  obtain ⟨printed, checked, heq⟩ := bind_eq_ok.1 h
  cases pure_eq_ok.1 heq
  exact ⟨printed, checkSummon_ok checked, rfl, rfl⟩

theorem setMonster_ok {paid : Nat}
    (h : m.setMonster setup seat card tributes = .ok (paid, after)) :
    ∃ printed monster, Summonable setup m seat card tributes printed ∧
      monster = .faceDown card printed.attack printed.defense m.table.turn
        (setup.catalog.ability printed.id).protection ∧
      after = m.played setup seat tributes monster (setNews seat card tributes.length) := by
  unfold setMonster at h
  obtain ⟨printed, checked, heq⟩ := bind_eq_ok.1 h
  cases pure_eq_ok.1 heq
  exact ⟨printed, _, checkSummon_ok checked, rfl, rfl⟩

theorem flipSummon_ok {report : FlipReport}
    (h : m.flipSummon setup seat card stance = .ok (report, after)) :
    ∃ printed, m.chain.links = [] ∧ card ∈ (m.side seat).cardsIn .board ∧
      setup.card? m.table card = some printed ∧
      report.effect = combined (Resolution.fire setup card seat .onFlip
        (m.flipped seat card printed stance).toScene).1 ∧
      after = ((m.flipped seat card printed stance).act
        (Resolution.fire setup card seat .onFlip)).2 := by
  unfold flipSummon at h
  simp only [bind_eq_ok, exists_unit, require_eq_ok_iff, requireMainPhase, requireNoChain_ok,
    requireOwn_ok, printed_ok, monsterOf_ok] at h
  obtain ⟨-, noChain, ⟨-, onBoard⟩, printed, hprinted, _, -, -, heq⟩ := h
  cases pure_eq_ok.1 heq
  exact ⟨printed, noChain, onBoard, hprinted, rfl, rfl⟩

/-- A monster may be turned to its other stance. -/
structure Turnable (setup : Setup) (m : Match) (seat : Seat) (card : CardRef) (printed : Card)
    (monster : Monster) : Prop where
  main : m.table.phase.isMain
  known : setup.card? m.table card = some printed
  there : (m.side seat).monster? card = some monster
  faceUp : monster.isFaceDown = false
  unmoved : monster.hasMoved = false
  settled : monster.enteredOn ≠ m.table.turn

/-- The match after a monster is turned to its other stance. -/
def turned (seat : Seat) (card : CardRef) (name : String) (stance : Stance) (m : Match) : Match :=
  (m.change (·.modifySide seat (·.modifyMonster card fun monster =>
    { monster with stance := monster.stance.toggled, hasMoved := true }))).record
      (stanceNews seat card name stance)

theorem Turnable.owned {monster : Monster} (h : Turnable setup m seat card printed monster) :
    m.table.knows card ∧ card ∈ (m.side seat).cardsIn .board := by
  have hcard : monster.card = card := by simpa using List.find?_some h.there
  exact ⟨Setup.knows_of_card? h.known,
    List.mem_map.2 ⟨monster, List.mem_of_find?_eq_some h.there, hcard⟩⟩

/-- A monster is turned exactly if it may be.  Whether links wait does not count. -/
theorem changePosition_eq_ok :
    m.changePosition setup seat card = .ok (stance, after) ↔
      ∃ printed monster, Turnable setup m seat card printed monster ∧
        stance = monster.stance.toggled ∧ after = m.turned seat card printed.name stance := by
  unfold changePosition
  simp only [bind_eq_ok, exists_unit, require_eq_ok_iff, requireMainPhase, requireOwn_ok,
    printed_ok, monsterOf_ok]
  constructor
  · rintro ⟨main, -, printed, known, monster, there, faceUp, unmoved, settled, heq⟩
    cases pure_eq_ok.1 heq
    exact ⟨printed, monster, ⟨main, known, there, faceUp, unmoved, settled⟩, rfl, rfl⟩
  · rintro ⟨printed, monster, ok, rfl, rfl⟩
    exact ⟨ok.main, ok.owned, printed, ok.known, monster, ok.there, ok.faceUp, ok.unmoved,
      ok.settled, rfl⟩

theorem changePosition_ok
    (h : m.changePosition setup seat card = .ok (stance, after)) :
    ∃ (printed : Card) (monster : Monster), (m.side seat).monster? card = some monster ∧
      monster.isFaceDown = false ∧ after = m.turned seat card printed.name stance := by
  obtain ⟨printed, monster, ok, -, rfl⟩ := changePosition_eq_ok.1 h
  exact ⟨printed, monster, ok.there, ok.faceUp, rfl⟩

/-! ## Moves with spells and traps -/

/-- A spell or trap may be set from the hand. -/
structure Layable (setup : Setup) (m : Match) (seat : Seat) (card : CardRef) (printed : Card) :
    Prop where
  noChain : m.chain.links = []
  inHand : card ∈ (m.side seat).cardsIn .hand
  known : setup.card? m.table card = some printed
  type : printed.type.isMonster = false
  room : (m.side seat).spellTraps.length < setup.rules.spellTrapZones

theorem setSpellTrap_ok {type : CardType}
    (h : m.setSpellTrap setup seat card = .ok (type, after)) :
    ∃ printed, Layable setup m seat card printed ∧
      after = (m.change (·.modifySide seat fun side =>
        (side.remove .hand card).placeSpellTrap (.laid card m.table.turn))).record
          (layNews seat card printed.type) := by
  unfold setSpellTrap at h
  simp only [bind_eq_ok, exists_unit, require_eq_ok_iff, requireMainPhase, requireNoChain_ok,
    requireOwn_ok, printed_ok] at h
  obtain ⟨-, noChain, ⟨-, inHand⟩, printed, known, notMonster, room, heq⟩ := h
  cases pure_eq_ok.1 heq
  exact ⟨printed, ⟨noChain, inHand, known, notMonster, room⟩, rfl⟩

theorem mem_of_hasSet {side : Side} (h : side.hasSet card) : card ∈ side.cardsIn .spellTrap := by
  obtain ⟨laid, hlaid, -⟩ := (Option.any_eq_true _ _).1 h
  have hcard := List.find?_some hlaid
  exact List.mem_map.2 ⟨laid, List.mem_of_find?_eq_some hlaid, by simpa using hcard⟩

/-- A card may be activated from a zone, directly or onto the chain. -/
theorem linkZone_ok {side : Side} {type : CardType} (h : linkZone side card type = .ok zone) :
    card ∈ side.cardsIn zone ∧
      (type = .creature ∧ zone = .board ∧ (side.monster? card).any (!·.isFaceDown) ∨
        type ≠ .creature ∧ (zone = .hand ∨ zone = .spellTrap)) := by
  unfold linkZone at h
  split at h
  · split at h
    · next up =>
      cases h
      obtain ⟨monster, hmonster, -⟩ := (Option.any_eq_true _ _).1 up
      have hcard := List.find?_some hmonster
      have hmem := List.mem_of_find?_eq_some hmonster
      exact ⟨List.mem_map.2 ⟨monster, hmem, by simpa using hcard⟩, .inl ⟨rfl, rfl, up⟩⟩
    · cases h
  · split at h
    · next set =>
      cases h
      exact ⟨mem_of_hasSet set, .inr ⟨by simp, .inr rfl⟩⟩
    · cases h
  all_goals
    split at h
    · next held =>
      cases h
      exact ⟨Side.holds_iff.1 held, .inr ⟨by simp, .inl rfl⟩⟩
    · split at h
      · next set =>
        cases h
        exact ⟨mem_of_hasSet set, .inr ⟨by simp, .inr rfl⟩⟩
      · cases h

/-- A spell or trap may be activated from a zone. -/
structure Activatable (setup : Setup) (m : Match) (seat : Seat) (card : CardRef) (zone : Zone)
    (printed : Card) : Prop where
  noChain : m.chain.links = []
  known : setup.card? m.table card = some printed
  type : printed.type ≠ .creature
  zone : linkZone (m.side seat) card printed.type = .ok zone

theorem Activatable.held (h : Activatable setup m seat card zone printed) :
    card ∈ (m.side seat).cardsIn zone :=
  (linkZone_ok h.zone).1

theorem activateSpell_ok {report : ActivationReport}
    (h : m.activateSpell setup seat card targets = .ok (report, after)) :
    ∃ printed zone, Activatable setup m seat card zone printed ∧
      (report, after) = m.activate setup seat card zone printed targets := by
  unfold activateSpell at h
  simp only [bind_eq_ok, exists_unit, require_eq_ok_iff, requireMainPhase, requireNoChain_ok,
    printed_ok] at h
  obtain ⟨-, noChain, printed, hprinted, spell, there, heq⟩ := h
  refine ⟨printed, _, ⟨noChain, hprinted, ?_, ?_⟩, (pure_eq_ok.1 heq).symm⟩
  · intro creature
    simp [creature, CardType.isSpell] at spell
  · cases held : (m.side seat).holds .hand card with
    | true => cases htype : printed.type <;> simp_all [CardType.isSpell, linkZone]
    | false => cases htype : printed.type <;> simp_all [CardType.isSpell, linkZone]

theorem activateTrap_ok {report : ActivationReport}
    (h : m.activateTrap setup seat card targets = .ok (report, after)) :
    ∃ printed, Activatable setup m seat card .spellTrap printed ∧
      (report, after) = m.activate setup seat card .spellTrap printed targets := by
  unfold activateTrap at h
  simp only [bind_eq_ok, exists_unit, require_eq_ok_iff, requireNoChain_ok, printed_ok] at h
  obtain ⟨noChain, printed, hprinted, trap, set, heq⟩ := h
  refine ⟨printed, ⟨noChain, hprinted, by simp [trap], ?_⟩, (pure_eq_ok.1 heq).symm⟩
  rw [trap, linkZone, if_pos set]

/-! ## Moves on the chain -/

theorem linkEffect_ok {effect : Effect} :
    linkEffect setup printed = .ok effect ↔
      (setup.catalog.ability printed.id).onResolution.head? = some effect := by
  unfold linkEffect
  cases (setup.catalog.ability printed.id).onResolution with
  | nil => simp
  | cons first rest => simp

/-- An effect may be put on the chain. -/
structure Linkable (setup : Setup) (m : Match) (seat : Seat) (card : CardRef) (zone : Zone)
    (printed : Card) (effect : Effect) : Prop where
  known : setup.card? m.table card = some printed
  unlinked : m.chain.hasCard card = false
  zone : linkZone (m.side seat) card printed.type = .ok zone
  effect : (setup.catalog.ability printed.id).onResolution.head? = some effect

theorem addToChain_ok {id : LinkId} (h : m.addToChain setup seat card targets = .ok (id, after)) :
    ∃ printed zone effect chain, Linkable setup m seat card zone printed effect ∧
      m.chain.add card seat effect targets = .ok (id, chain) ∧
      after = { m.change (liftCard seat card zone) with chain := chain }.record
        (linkNews seat card printed.name chain.links.length effect zone) := by
  unfold addToChain at h
  simp only [bind_eq_ok, exists_unit, require_eq_ok_iff, printed_ok] at h
  obtain ⟨printed, hprinted, unlinked, zone, hzone, effect, heffect, ⟨id', chain⟩, hadd, heq⟩ := h
  cases pure_eq_ok.1 heq
  exact ⟨printed, zone, effect, chain, ⟨hprinted, unlinked, hzone, linkEffect_ok.1 heffect⟩,
    hadd, rfl⟩

theorem passPriority_ok {awaiting : Option Seat}
    (h : m.passPriority seat = .ok (awaiting, after)) :
    ∃ chain, m.chain.pass seat = .ok (awaiting, chain) ∧ after = { m with chain := chain } := by
  unfold passPriority at h
  obtain ⟨⟨awaiting', chain⟩, hpass, heq⟩ := bind_eq_ok.1 h
  cases pure_eq_ok.1 heq
  exact ⟨chain, hpass, rfl⟩

theorem resolveChain_ok {reports : List LinkReport}
    (h : m.resolveChain setup = .ok (reports, after)) :
    m.chain.resolve setup m.toScene = .ok (reports, after.chain, after.toScene) := by
  unfold resolveChain at h
  obtain ⟨⟨reports', chain, s⟩, hresolve, heq⟩ := bind_eq_ok.1 h
  cases pure_eq_ok.1 heq
  exact hresolve

/-! ## The course of turns -/

theorem advancePhase_ok {report : PhaseReport}
    (h : m.advancePhase setup seat = .ok (report, after)) :
    ∃ entered, m.chain.links = [] ∧ following m.table.phase = .ok entered ∧
      report.triggered = (if entered = .battle
        then (fireForBoard setup seat .onBattleStart (m.enterPhase seat entered).toScene).1
        else []) ∧
      after = if entered = .battle
        then ((m.enterPhase seat entered).act (fireForBoard setup seat .onBattleStart)).2
        else m.enterPhase seat entered := by
  unfold advancePhase at h
  simp only [bind_eq_ok, exists_unit, requireNoChain_ok] at h
  obtain ⟨noChain, entered, hentered, heq⟩ := h
  cases pure_eq_ok.1 heq
  refine ⟨entered, noChain, hentered, ?_, ?_⟩
  · split <;> rfl
  · split <;> rfl

/-- The match after its End Phase did not end it: the hand is trimmed, the turn is handed
over, and the next player draws. -/
def nextTurn (setup : Setup) (seat : Seat) (m : Match) : Match :=
  (((m.enforceHandLimit setup seat).2.handOver seat seat.other).drawPhase seat.other).2

theorem endTurn_ok {report : TurnReport} (h : m.endTurn setup seat = .ok (report, after)) :
    m.chain.links = [] ∧ report.effects = (m.endPhase setup seat).1 ∧
      after = if (m.endPhase setup seat).2.table.isActive
        then (m.endPhase setup seat).2.nextTurn setup seat
        else (m.endPhase setup seat).2 := by
  unfold endTurn at h
  simp only [bind_eq_ok, exists_unit, requireNoChain_ok] at h
  obtain ⟨noChain, heq⟩ := h
  refine ⟨noChain, ?_⟩
  split at heq
  · next active =>
    cases pure_eq_ok.1 heq
    rw [if_pos active]
    exact ⟨rfl, rfl⟩
  · next ended =>
    cases pure_eq_ok.1 heq
    rw [if_neg ended]
    exact ⟨rfl, rfl⟩

/-- A move whose answer is wrapped in a report. -/
theorem reported_eq_ok {α : Type} {x : Except Refusal (α × Match)} {wrap : α → MoveReport}
    {report : MoveReport} :
    (do let (answer, after) ← x; return (wrap answer, after)) = Except.ok (report, after) ↔
      ∃ answer, x = .ok (answer, after) ∧ wrap answer = report := by
  cases x with
  | error refusal => simp [bind, Except.bind]
  | ok made =>
    simp only [bind, Except.bind, pure, Except.pure, Except.ok.injEq, Prod.ext_iff]
    exact ⟨fun h => ⟨made.1, ⟨rfl, h.2⟩, h.1⟩, fun ⟨_, h, hw⟩ => ⟨h.1 ▸ hw, h.2⟩⟩

@[simp] theorem overrun_settleLife (m : Match) : m.settleLife.overrun = m.overrun := by
  unfold settleLife
  split
  · split <;> rfl
  · rfl

/-- A move that can be made is played by a user for whom it is, if there is room for all that it
asks for. -/
theorem play_of_onTurn {user : User} {move : Move} {report : MoveReport}
    (hseat : m.seatOf? user = some seat) (active : m.table.isActive)
    (onTurn : move.needsTurn = false ∨ m.table.current = seat)
    (made : m.make setup seat move = .ok (report, after)) :
    m.play setup user move =
      if after.overrun then .error .overrun else .ok (report, after.settleLife) := by
  have going : m.table.ensureActive = .ok () := if_pos active
  unfold play
  simp only [hseat, going, require_eq_ok_iff.2 onTurn, made]
  cases room : after.overrun <;> simp [require, room, bind, Except.bind, pure, Except.pure]

/-- What is needed for a move to be played. -/
theorem play_eq_ok_iff {user : User} {move : Move} {report : MoveReport} :
    m.play setup user move = .ok (report, after) ↔
      ∃ seat made, m.seatOf? user = some seat ∧ m.table.isActive ∧
        (move.needsTurn = false ∨ m.table.current = seat) ∧
        m.make setup seat move = .ok (report, made) ∧ made.overrun = false ∧
        after = made.settleLife := by
  constructor
  · intro h
    unfold play at h
    split at h
    · cases h
    · next seat hseat =>
      simp only [bind_eq_ok, exists_unit, require_eq_ok_iff, Table.ensureActive] at h
      obtain ⟨active, onTurn, ⟨report', made⟩, hmade, room, heq⟩ := h
      cases pure_eq_ok.1 heq
      refine ⟨seat, made, hseat, ?_, onTurn, hmade, room, rfl⟩
      split at active
      · assumption
      · cases active
  · rintro ⟨seat, made, hseat, active, onTurn, hmade, room, rfl⟩
    rw [play_of_onTurn hseat active onTurn hmade, room]
    rfl

theorem play_ok {user : User} {move : Move} {report : MoveReport}
    (h : m.play setup user move = .ok (report, after)) :
    ∃ seat made, m.seatOf? user = some seat ∧ m.table.isActive ∧
      (move.needsTurn = false ∨ m.table.current = seat) ∧
      m.make setup seat move = .ok (report, made) ∧ after = made.settleLife := by
  obtain ⟨seat, made, hseat, active, onTurn, hmade, -, rfl⟩ := play_eq_ok_iff.1 h
  exact ⟨seat, made, hseat, active, onTurn, hmade, rfl⟩

/-- No match that is left by a move is overrun. -/
theorem overrun_of_play {user : User} {move : Move} {report : MoveReport}
    (h : m.play setup user move = .ok (report, after)) : after.overrun = false := by
  obtain ⟨_, made, -, -, -, -, room, rfl⟩ := play_eq_ok_iff.1 h
  rw [overrun_settleLife, room]

end Match

end CardDuel
