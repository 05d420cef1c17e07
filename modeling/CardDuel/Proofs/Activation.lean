import CardDuel.Proofs.Blindness
import CardDuel.Proofs.Marks

/-!
# Activation and the chain

A spell or trap may be activated directly, or put on the chain.  If its ability has one effect
that happens when it resolves, and nobody answers on the chain, both come to the same.

* `Chain.alone`: a chain of one link, and what becomes of it when both players pass.
* `settleLink_alike`: carrying out the only link leaves the table as carrying out the effect
  and putting the card away does.
* `Match.Settled`: what holds between two moves.
* `Match.chain_of_activate`: the statement for one match, and `Arena.activation_eq_chain`: for
  all matches that can come about.
-/

namespace CardDuel

open Resolution Scene

/-! ## A chain of one link -/

namespace Chain

variable (setup : Setup) {chain : Chain} {s s' : Scene}

/-- The chain of one link. -/
def alone (link : Link) (state : ChainState) : Chain := ⟨[link], state, link.id.number + 1⟩

/-- The link that is added when there are none. -/
def firstLink (chain : Chain) (card : CardRef) (seat : Seat) (effect : Effect)
    (targets : List CardRef) : Link :=
  ⟨⟨chain.nextLink⟩, 1, card, seat, effect, targets⟩

theorem add_of_idle (idle : chain.state = .idle) (links : chain.links = []) (card : CardRef)
    (seat : Seat) (effect : Effect) (targets : List CardRef) :
    chain.add card seat effect targets =
      .ok (⟨chain.nextLink⟩,
        alone (chain.firstLink card seat effect targets) (.window seat.other 0)) := by
  have free : chain.addFault? card seat = none := by simp [addFault?, idle, hasCard, links]
  rw [add, free, links]
  rfl

theorem pass_alone (link : Link) (seat : Seat) :
    (alone link (.window seat 0)).pass seat =
      .ok (some seat.other, alone link (.window seat.other 1)) := by
  simp [pass, alone]

theorem pass_alone_again (link : Link) (seat : Seat) :
    (alone link (.window seat 1)).pass seat = .ok (none, alone link .resolving) := by
  simp [pass, alone]

theorem resolve_alone (link : Link) (s : Scene) :
    (alone link .resolving).resolve setup s =
      .ok ([(settleLink setup link s).1], (alone link .resolving).emptied,
        (settleLink setup link s).2.record (resolvedNews [(settleLink setup link s).1])) := rfl

/-! ## Carrying it out -/

/-- The request that a link is. -/
def request (link : Link) : Request :=
  ⟨link.effect, link.controller, some link.card, link.targets⟩

/-- An effect of a negated card changes nothing. -/
theorem run_of_negated {link : Link} (negated : link.card ∈ s.table.negated) :
    ∃ fault, run setup (request link) s = (.failed fault, s) := by
  refine ⟨setup.nameOf s.table link.card ++ "'s effect is negated", ?_⟩
  simp [run, runWith, fault?, request, negated]

theorem runLink_alike {chained : CardSet} (alike : Alike chained s s') (link : Link) :
    (runLink setup link s').1.success = (run setup (request link) s).1.success ∧
      Alike chained (run setup (request link) s).2 (runLink setup link s').2 := by
  have marks : s'.table.negated = s.table.negated := alike.reads (·.negated) fun _ => rfl
  unfold runLink
  rw [marks]
  split
  · next negated =>
    -- The two refusals are worded differently, but both are failures that change nothing.
    obtain ⟨fault, refused⟩ := run_of_negated setup negated
    rw [refused]
    exact ⟨rfl, alike⟩
  · obtain ⟨outcome, after⟩ := blind_run setup (request link) alike
    exact ⟨congrArg Outcome.success outcome, after⟩

theorem erase_insert_empty (card : CardRef) :
    (CardSet.empty.insert card).erase card = .empty := by
  refine CardSet.eq_empty fun c hc => ?_
  obtain ⟨there, other⟩ := CardSet.mem_erase.1 hc
  rcases CardSet.mem_insert.1 there with rfl | none
  · exact other rfl
  · exact CardSet.not_mem_empty c none

/-- A card on the chain is put away like a card that was only lifted. -/
theorem spend_alike {card : CardRef} (alike : Alike (CardSet.empty.insert card) s s')
    (empty : s.table.chained = .empty) (placed : s.table.Placed [card]) :
    (spend setup card s').table = s.table.placeInPile card .graveyard .top := by
  obtain ⟨owner, howner, hput, -⟩ := placed.placeInPile? .graveyard .top
  have chained : s'.table.chained = CardSet.empty.insert card := by
    rw [alike.table]
    rfl
  have there : card ∈ s'.table.chained := by
    rw [chained]
    exact CardSet.mem_insert.2 (.inl rfl)
  -- Off the chain again, the table is the one on which the card is loose.
  have lifted : ({ s'.table with chained := s'.table.chained.erase card } : Table) = s.table := by
    rw [chained, erase_insert_empty, alike.table, ← empty]
    rfl
  unfold spend Scene.change
  rw [if_pos there]
  simp only [lifted, alike.owner?, howner, hput, Table.placeInPile, Option.getD_some]
  rfl

/-- The only link does what its effect does, and its card is put away. -/
theorem settleLink_alike {link : Link} (alike : Alike (CardSet.empty.insert link.card) s s')
    (empty : s.table.chained = .empty) (placed : s.table.Placed [link.card]) :
    (settleLink setup link s').1.outcome.success = (run setup (request link) s).1.success ∧
      (settleLink setup link s').2.table =
        (run setup (request link) s).2.table.placeInPile link.card .graveyard .top ∧
      (settleLink setup link s').2.overrun = (run setup (request link) s).2.overrun := by
  obtain ⟨success, after⟩ := runLink_alike setup alike link
  have ran : Scene.Affected s (run setup (request link) s).2 :=
    (run_course (request link) s).steps.affected
  exact ⟨success, spend_alike setup after (ran.table.chained.trans empty)
    (placed.rearranged ran.table.toRearranged), (overrun_spend link.card _).trans after.overrun⟩

end Chain

/-! ## Between two moves -/

namespace Match

variable {setup : Setup} {m m' after : Match} {seat : Seat} {card : CardRef} {zone : Zone}
  {printed : Card} {effect : Effect} {targets : List CardRef}

/-- What holds of a live match between two moves: the cards are in their places, the chain and
the table agree, two different users play, nobody has lost yet while the match goes on, and there
was room for all that was asked for. -/
structure Settled (setup : Setup) (m : Match) : Prop where
  placed : m.table.Placed []
  coupled : m.Coupled setup
  distinct : m.players.host ≠ m.players.opponent
  undecided : m.table.isActive → loser? m.table = none
  room : m.overrun = false

/-- After it is checked whether a player has lost, nobody has, or the match is over. -/
theorem undecided_settleLife (m : Match) (active : m.settleLife.table.isActive) :
    loser? m.settleLife.table = none := by
  unfold settleLife at active ⊢
  by_cases going : m.table.isActive
  · rw [if_pos going] at active ⊢
    cases lost : loser? m.table with
    | none => exact lost
    | some loser =>
      rw [lost, isActive_finish] at active
      cases active
  · rw [if_neg going] at active
    exact absurd active going

theorem loser?_congr {t t' : Table} (current : t'.current = t.current)
    (life : ∀ seat, (t'.side seat).life = (t.side seat).life) : loser? t' = loser? t := by
  unfold loser?
  rw [current]
  simp only [life]

theorem seatOf?_get (distinct : m.players.host ≠ m.players.opponent) (seat : Seat) :
    m.seatOf? (m.players.get seat) = some seat := by
  unfold seatOf? Seats.find? Seat.all
  cases seat with
  | host => simp [Seats.get]
  | opponent => simp [Seats.get, distinct]

/-- A match that is won without links has its status changed, and nothing else. -/
theorem table_finish (noLinks : m.chain.links = []) (winner : Seat) (reason : WinReason) :
    (m.finish winner reason).table = { m.table with status := .finished winner reason } := by
  show m.chain.cleared _ = _
  rw [Chain.cleared, noLinks]
  rfl

/-- Whether a player has lost is seen from the table. -/
theorem table_settleLife (same : m'.table = m.table) (noLinks : m.chain.links = [])
    (noLinks' : m'.chain.links = []) : m'.settleLife.table = m.settleLife.table := by
  unfold settleLife
  rw [same]
  split
  · cases loser? m.table with
    | none => exact same
    | some loser => rw [table_finish noLinks, table_finish noLinks', same]
  · exact same

theorem play_of_make {user : User} {move : Move} {report : MoveReport}
    (hseat : m.seatOf? user = some seat) (active : m.table.isActive)
    (free : move.needsTurn = false) (made : m.make setup seat move = .ok (report, after))
    (room : after.overrun = false) : m.play setup user move = .ok (report, after.settleLife) :=
  play_eq_ok_iff.2 ⟨seat, after, hseat, active, .inl free, made, room, rfl⟩

/-! ## A match in which one link waits -/

/-- The match on a scene in which one link waits. -/
def waiting (s : Scene) (link : Link) (state : ChainState) : Match := ⟨s, .alone link state⟩

theorem settleLife_waiting {s : Scene} (link : Link) (state : ChainState)
    (undecided : loser? s.table = none) :
    (waiting s link state).settleLife = waiting s link state :=
  settleLife_of_undecided (m := waiting s link state) undecided

section

variable (setup) {s : Scene} (link : Link) (distinct : s.log.players.host ≠ s.log.players.opponent)
  (active : s.table.isActive)

include distinct active

theorem play_waiting {state : ChainState} {resolver : Seat} {move : Move} {report : MoveReport}
    (free : move.needsTurn = false)
    (made : (waiting s link state).make setup resolver move = .ok (report, after))
    (room : after.overrun = false) :
    (waiting s link state).play setup (s.log.players.get resolver) move =
      .ok (report, after.settleLife) :=
  play_of_make (seatOf?_get (m := waiting s link state) distinct resolver) active free made room

theorem pass_waiting (undecided : loser? s.table = none) (room : s.overrun = false) (seat : Seat) :
    (waiting s link (.window seat 0)).play setup (s.log.players.get seat) .passPriority =
      .ok (.passed (some seat.other), waiting s link (.window seat.other 1)) := by
  have made : (waiting s link (.window seat 0)).make setup seat .passPriority =
      .ok (.passed (some seat.other), waiting s link (.window seat.other 1)) := by
    rw [make, passPriority, waiting, Chain.pass_alone]
    rfl
  rw [play_waiting setup link distinct active rfl made room, settleLife_waiting link _ undecided]

theorem pass_waiting_again (undecided : loser? s.table = none) (room : s.overrun = false)
    (seat : Seat) :
    (waiting s link (.window seat 1)).play setup (s.log.players.get seat) .passPriority =
      .ok (.passed none, waiting s link .resolving) := by
  have made : (waiting s link (.window seat 1)).make setup seat .passPriority =
      .ok (.passed none, waiting s link .resolving) := by
    rw [make, passPriority, waiting, Chain.pass_alone_again]
    rfl
  rw [play_waiting setup link distinct active rfl made room, settleLife_waiting link _ undecided]

/-- Either player may have the chain resolved. -/
theorem resolve_waiting (room : (Chain.settleLink setup link s).2.overrun = false)
    (resolver : Seat) :
    let settled := Chain.settleLink setup link s
    (waiting s link .resolving).play setup (s.log.players.get resolver) .resolveChain =
      .ok (.resolved [settled.1], settleLife ⟨settled.2.record (Chain.resolvedNews [settled.1]),
        (Chain.alone link .resolving).emptied⟩) := by
  intro settled
  have made : (waiting s link .resolving).make setup resolver .resolveChain =
      .ok (.resolved [settled.1], ⟨settled.2.record (Chain.resolvedNews [settled.1]),
        (Chain.alone link .resolving).emptied⟩) := by
    rw [make, resolveChain, waiting, Chain.resolve_alone]
    rfl
  exact play_waiting setup link distinct active rfl made room

end

/-! ## Both ways -/

/-- A card that may be activated may be put on the chain. -/
theorem Activatable.linkable (ok : Activatable setup m seat card zone printed)
    (single : (setup.abilityOf m.table card).onResolution = [effect]) :
    Linkable setup m seat card zone printed effect where
  known := ok.known
  unlinked := by simp [Chain.hasCard, ok.noChain]
  zone := ok.zone
  effect := by rw [← Setup.abilityOf_eq ok.known, single]; rfl

theorem addToChain_of_linkable {id : LinkId} {chain : Chain}
    (ok : Linkable setup m seat card zone printed effect)
    (added : m.chain.add card seat effect targets = .ok (id, chain)) :
    m.addToChain setup seat card targets =
      .ok (id, { m.change (liftCard seat card zone) with chain := chain }.record
        (linkNews seat card printed.name chain.links.length effect zone)) := by
  have hprinted : m.printed setup card = .ok printed := printed_ok.2 ok.known
  have heffect : linkEffect setup printed = .ok effect := linkEffect_ok.2 ok.effect
  simp [addToChain, hprinted, require, ok.unlinked, ok.zone, heffect, added, bind, Except.bind,
    pure, Except.pure]

/-- An activated card whose ability has one effect when it resolves. -/
theorem activate_single (seat : Seat) (zone : Zone) (printed : Card) (targets : List CardRef)
    (single : (setup.abilityOf m.table card).onResolution = [effect]) :
    let ran := run setup ⟨effect, seat, some card, targets⟩
      (m.lifted seat card zone printed).toScene
    (m.activate setup seat card zone printed targets).1.outcome.success = ran.1.success ∧
      (m.activate setup seat card zone printed targets).2.table =
        ran.2.table.placeInPile card .graveyard .top ∧
      (m.activate setup seat card zone printed targets).2.overrun = ran.2.overrun := by
  have same : setup.abilityOf (m.lifted seat card zone printed).table card =
      setup.abilityOf m.table card := rfl
  unfold activate act runAbility
  rw [same, single]
  refine ⟨?_, rfl, rfl⟩
  simp [each_cons, activationOutcome, Outcome.someOf]

/-- The scene after a card of a player is put on the chain as the only link. -/
def afterLink (seat : Seat) (card : CardRef) (zone : Zone) (printed : Card) (effect : Effect)
    (m : Match) : Scene :=
  (m.toScene.change (liftCard seat card zone)).record
    (linkNews seat card printed.name 1 effect zone)

/-- A card that is activated and a card that is put on the chain leave the same zone. -/
theorem alike_afterLink (off : zone ≠ .board) (empty : m.table.chained = .empty) :
    Alike (CardSet.empty.insert card) (m.lifted seat card zone printed).toScene
      (m.afterLink seat card zone printed effect) := by
  refine ⟨?_, rfl⟩
  show liftCard seat card zone m.table = _
  rw [liftCard, if_neg off, empty]
  rfl

theorem isActive_afterLink :
    (m.afterLink seat card zone printed effect).table.isActive = m.table.isActive :=
  Table.isActive_congr (status_liftCard _)

theorem loser?_afterLink :
    loser? (m.afterLink seat card zone printed effect).table = loser? m.table :=
  loser?_congr (current_liftCard _) (life_liftCard _)

/-- A card with one effect that may be activated may be put on the chain. -/
theorem link_of_activatable (h : m.Settled setup) (active : m.table.isActive)
    (ok : Activatable setup m seat card zone printed)
    (single : (setup.abilityOf m.table card).onResolution = [effect]) :
    m.play setup (m.players.get seat) (.addToChain card targets) =
      .ok (.linked ⟨m.chain.nextLink⟩, waiting (m.afterLink seat card zone printed effect)
        (m.chain.firstLink card seat effect targets) (.window seat.other 0)) := by
  have made : m.make setup seat (.addToChain card targets) =
      .ok (.linked ⟨m.chain.nextLink⟩, waiting (m.afterLink seat card zone printed effect)
        (m.chain.firstLink card seat effect targets) (.window seat.other 0)) := by
    rw [make, addToChain_of_linkable (ok.linkable single)
      (Chain.add_of_idle (h.coupled.rests ok.noChain).1 ok.noChain card seat effect targets)]
    rfl
  have undecided : loser? (m.afterLink seat card zone printed effect).table = none := by
    rw [loser?_afterLink, h.undecided active]
  rw [play_of_make (seatOf?_get h.distinct seat) active rfl made h.room,
    settleLife_waiting _ _ undecided]

/-- The only link leaves the table that the activation leaves. -/
theorem settleLink_of_activatable (targets : List CardRef) (h : m.Settled setup)
    (ok : Activatable setup m seat card zone printed)
    (single : (setup.abilityOf m.table card).onResolution = [effect]) :
    let link := m.chain.firstLink card seat effect targets
    let direct := m.activate setup seat card zone printed targets
    let settled := Chain.settleLink setup link (m.afterLink seat card zone printed effect)
    settled.1.outcome.success = direct.1.outcome.success ∧
      settled.2.table = direct.2.table ∧ settled.2.overrun = direct.2.overrun := by
  intro link direct settled
  have empty := (h.coupled.rests ok.noChain).2
  have off : zone ≠ .board := by
    rcases (linkZone_ok ok.zone).2 with ⟨creature, -⟩ | ⟨-, rfl | rfl⟩
    · exact absurd creature ok.type
    · decide
    · decide
  have lifted : (m.lifted seat card zone printed).table.Placed [card] := h.placed.remove ok.held
  have alike : Alike (CardSet.empty.insert link.card) (m.lifted seat card zone printed).toScene
      (m.afterLink seat card zone printed effect) := alike_afterLink off empty
  have settling := Chain.settleLink_alike setup alike empty lifted
  have activating := activate_single seat zone printed targets single
  exact ⟨settling.1.trans activating.1.symm, settling.2.1.trans activating.2.1.symm,
    settling.2.2.trans activating.2.2.symm⟩

/-- If a card with one effect may be activated, it may be put on the chain as well, both players
may pass, the chain may be resolved, and that leaves the same table. -/
theorem chain_of_activate (targets : List CardRef) (h : m.Settled setup) (active : m.table.isActive)
    (ok : Activatable setup m seat card zone printed)
    (single : (setup.abilityOf m.table card).onResolution = [effect])
    (room : (m.activate setup seat card zone printed targets).2.overrun = false) :
    ∃ id link linked passed ready final,
      m.play setup (m.players.get seat) (.addToChain card targets) = .ok (.linked id, linked) ∧
      linked.play setup (m.players.get seat.other) .passPriority =
        .ok (.passed (some seat), passed) ∧
      passed.play setup (m.players.get seat) .passPriority = .ok (.passed none, ready) ∧
      (∀ resolver, ready.play setup (m.players.get resolver) .resolveChain =
        .ok (.resolved [link], final)) ∧
      final.table = (m.activate setup seat card zone printed targets).2.settleLife.table ∧
      link.outcome.success =
        (m.activate setup seat card zone printed targets).1.outcome.success := by
  let s := m.afterLink seat card zone printed effect
  let link := m.chain.firstLink card seat effect targets
  have distinct : s.log.players.host ≠ s.log.players.opponent := h.distinct
  have going : s.table.isActive := isActive_afterLink.trans active
  have undecided : loser? s.table = none := loser?_afterLink.trans (h.undecided active)
  have second := pass_waiting setup link distinct going undecided h.room seat.other
  rw [Seat.other_other] at second
  obtain ⟨success, table, overrun⟩ := settleLink_of_activatable targets h ok single
  refine ⟨_, _, _, _, _, _, link_of_activatable h active ok single, second,
    pass_waiting_again setup link distinct going undecided h.room seat,
    resolve_waiting setup link distinct going (overrun.trans room), ?_, success⟩
  exact table_settleLife table ok.noChain rfl

/-- A move that activates a card lifts it, carries its ability out and puts it away. -/
theorem activation_ok {user : User} {move : Move} {reply : MoveReport}
    (activates : move = .activateSpell card targets ∨ move = .activateTrap card targets)
    (played : m.play setup user move = .ok (reply, after)) :
    ∃ seat zone printed, m.seatOf? user = some seat ∧ m.table.isActive ∧
      Activatable setup m seat card zone printed ∧
      reply = .activated (m.activate setup seat card zone printed targets).1 ∧
      (m.activate setup seat card zone printed targets).2.overrun = false ∧
      after = (m.activate setup seat card zone printed targets).2.settleLife := by
  obtain ⟨seat, made, hseat, active, -, hmade, room, rfl⟩ := play_eq_ok_iff.1 played
  rcases activates with rfl | rfl
  · obtain ⟨report, hmove, rfl⟩ := reported_eq_ok.1 hmade
    obtain ⟨printed, zone, ok, heq⟩ := activateSpell_ok hmove
    obtain ⟨rfl, rfl⟩ := Prod.mk.inj heq
    exact ⟨seat, zone, printed, hseat, active, ok, rfl, room, rfl⟩
  · obtain ⟨report, hmove, rfl⟩ := reported_eq_ok.1 hmade
    obtain ⟨printed, ok, heq⟩ := activateTrap_ok hmove
    obtain ⟨rfl, rfl⟩ := Prod.mk.inj heq
    exact ⟨seat, .spellTrap, printed, hseat, active, ok, rfl, room, rfl⟩

/-! ## Every live match is settled -/

theorem players_of_plays {plays : List Play} (h : Plays setup m plays m')
    (placed : m.table.Placed []) : m'.players = m.players := by
  induction h with
  | done m => rfl
  | next legal rest ih =>
    have stages := play_stages placed legal
    exact (ih (placed_of_stages stages placed).1).trans (log_of_stages stages).players

theorem undecided_start (living : 0 < setup.rules.startingLife) (lobby : Lobby) (game : GameName)
    (players : Seats User) (decks : Seats (List CardId)) (seed : UInt64) :
    loser? (start setup lobby game players decks seed).table = none := by
  have life (seat : Seat) :
      ((start setup lobby game players decks seed).table.side seat).life =
        setup.rules.startingLife := by
    rw [(steady_start setup lobby game players decks seed).life]
    cases seat <;> rfl
  unfold loser?
  rw [List.find?_eq_none]
  intro seat _
  rw [life, decide_eq_true_iff]
  omega

end Match

namespace Arena

variable {setup : Setup} {calls : List Call} {lobby : Lobby} {m : Match}

/-- Two different users play. -/
theorem distinct_of_live (live : ((start setup).serveAll calls).lobbies lobby = .live m) :
    m.players.host ≠ m.players.opponent := by
  obtain ⟨opened, ⟨_, _, game, players, decks, seed, -, distinct, -, rfl⟩, hplays⟩ :=
    live_history live
  rw [Match.players_of_plays hplays (Match.placed_start _ _ _ _ _ _), Match.players_start]
  exact distinct

theorem settled_of_live (living : 0 < setup.rules.startingLife)
    (live : ((start setup).serveAll calls).lobbies lobby = .live m) : m.Settled setup := by
  have undecided (active : m.table.isActive) : Match.loser? m.table = none := by
    refine kept_of_live (fun m => m.table.isActive → Match.loser? m.table = none)
      (fun _ _ _ _ _ _ => Match.undecided_start living _ _ _ _ _)
      (fun p _ legal _ active => ?_) live active
    obtain ⟨_, made, -, -, -, -, hafter⟩ := Match.play_ok legal
    rw [hafter] at active ⊢
    exact Match.undecided_settleLife made active
  exact ⟨placed_of_live live, coupled_of_live live, distinct_of_live live, undecided,
    overrun_of_live live⟩

/-- A move that is made in a live match is made in the arena. -/
theorem play_of_play {arena : Arena} {user : User} {move : Move} {report : MoveReport}
    {after : Match} (is : arena.setup = setup) (live : arena.lobbies lobby = .live m)
    (played : m.play setup user move = .ok (report, after)) :
    arena.play (.user user) lobby move = .ok (report, arena.put lobby (.live after)) := by
  subst is
  exact play_of_legal (p := ⟨m, user, move, report, after⟩) live played

/-- Activating a spell or trap whose ability has one effect when it resolves comes to the same as
putting it on the chain when nobody answers: both players pass, either has the chain resolved,
and the table in the end is the same. -/
theorem activation_eq_chain (setup : Setup) (living : 0 < setup.rules.startingLife)
    (calls : List Call) (lobby : Lobby) (m : Match)
    (live : ((start setup).serveAll calls).lobbies lobby = .live m) (seat : Seat)
    (card : CardRef) (targets : List CardRef)
    (single : (setup.abilityOf m.table card).onResolution.length = 1) (move : Move)
    (activates : move = .activateSpell card targets ∨ move = .activateTrap card targets)
    (reply : MoveReport) (after : Arena)
    (activated : ((start setup).serveAll calls).play (.user (m.players.get seat)) lobby move =
      .ok (reply, after)) :
    ∃ report id link linked passed ready final direct chained,
      reply = .activated report ∧
      ((start setup).serveAll calls).play (.user (m.players.get seat)) lobby
        (.addToChain card targets) = .ok (.linked id, linked) ∧
      linked.play (.user (m.players.get seat.other)) lobby .passPriority =
        .ok (.passed (some seat), passed) ∧
      passed.play (.user (m.players.get seat)) lobby .passPriority =
        .ok (.passed none, ready) ∧
      (∀ resolver, ready.play (.user (m.players.get resolver)) lobby .resolveChain =
        .ok (.resolved [link], final)) ∧
      after.lobbies lobby = .live direct ∧ final.lobbies lobby = .live chained ∧
      chained.table = direct.table ∧ link.outcome.success = report.outcome.success := by
  have settled := settled_of_live living live
  obtain ⟨effect, single⟩ := List.length_eq_one_iff.1 single
  obtain ⟨user, m', direct, huser, live', played, rfl⟩ := play_ok activated
  cases huser
  rw [live] at live'
  cases live'
  rw [setup_serveAll] at played
  obtain ⟨seat', zone, printed, hseat, active, ok, rfl, room, rfl⟩ :=
    Match.activation_ok activates played
  rw [Match.seatOf?_get settled.distinct] at hseat
  cases hseat
  obtain ⟨id, link, linked, passed, ready, final, adds, passes, passes', resolves, table, success⟩ :=
    Match.chain_of_activate targets settled active ok single room
  have is := setup_serveAll setup calls
  exact ⟨_, id, link, _, _, _, _, _, final, rfl, play_of_play is live adds,
    play_of_play is (put_self _ _ _) passes, play_of_play is (put_self _ _ _) passes',
    fun resolver => play_of_play is (put_self _ _ _) (resolves resolver), put_self _ _ _,
    put_self _ _ _, table, success⟩

/-- The rite may be activated, and the chain comes to the same. -/
theorem rite_both_ways :
    let m := Sample.after Sample.rite []
    let arena := (start Sample.setup).serveAll (Sample.calls Sample.rite [])
    ∃ (reply : MoveReport) (after ready final : Arena) (link : LinkReport) (direct chained : Match),
      arena.play (.user (m.players.get .host)) Sample.lobby (.activateSpell ⟨0⟩ []) =
        .ok (reply, after) ∧
      ready.play (.user (m.players.get .opponent)) Sample.lobby .resolveChain =
        .ok (.resolved [link], final) ∧
      after.lobbies Sample.lobby = .live direct ∧ final.lobbies Sample.lobby = .live chained ∧
      chained.table = direct.table := by
  intro m arena
  have live : arena.lobbies Sample.lobby = .live m := by rfl
  have commits : (arena.play (.user (m.players.get .host)) Sample.lobby
      (.activateSpell ⟨0⟩ [])).isOk := by decide +kernel
  cases activated : arena.play (.user (m.players.get .host)) Sample.lobby
      (.activateSpell ⟨0⟩ []) with
  | error refusal =>
    rw [activated] at commits
    cases commits
  | ok made =>
    obtain ⟨reply, after⟩ := made
    obtain ⟨_, _, link, _, _, ready, final, direct, chained, -, -, -, -, resolves, hdirect, hchained,
      table, -⟩ := activation_eq_chain Sample.setup (by decide) (Sample.calls Sample.rite [])
        Sample.lobby m live .host ⟨0⟩ [] (by decide +kernel) (.activateSpell ⟨0⟩ []) (.inl rfl)
        reply after activated
    exact ⟨reply, after, ready, final, link, direct, chained, rfl, resolves .opponent, hdirect,
      hchained, table⟩

end Arena

end CardDuel
