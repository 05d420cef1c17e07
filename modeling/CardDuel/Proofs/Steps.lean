import CardDuel.Proofs.Placement
import CardDuel.Proofs.Tidings
import CardDuel.Resolution.Run
import Mathlib.Logic.Relation

/-!
# The steps that effects are made of

However an effect is carried out, in the end it is a sequence of small steps: a card is
drawn, a card is moved, life points change, a card is marked.  This file names the steps
once and for all, so that whatever every step keeps is kept by every effect.

* `Act`: one step of an effect itself, and `Acts`: some of them one after the other.
* `Step`: an act, or the news that a further effect is set off, and `Steps`: some steps.
* `draw_acts`, `mill_acts` and so on: each kind of effect that sets off nothing further
  consists of acts.  What destruction and summons do is in `CardDuel.Proofs.Executions`,
  since they set off further effects.
* `Deed`: what an act does and tells, and `Act.deed`: there are nine such things.
* `Scene.Affected`: what no step touches.  The physical cards, the chain, the turn and the
  result of the duel stay as they are, marks are only added, and the log only grows.
* `Steps.affected` and `Steps.tells`: no effect touches these, and every card that an effect
  moves is named in the log.
-/

namespace CardDuel

/-! ## What effects leave alone -/

/-- The log has only grown. -/
structure Log.Extends (log log' : Log) : Prop where
  lobby : log'.lobby = log.lobby
  game : log'.game = log.game
  players : log'.players = log.players
  events : log.events <+: log'.events

theorem Log.Extends.refl (log : Log) : Log.Extends log log := ⟨rfl, rfl, rfl, List.prefix_rfl⟩

theorem Log.Extends.trans {log log' log'' : Log} (h : Log.Extends log log')
    (h' : Log.Extends log' log'') : Log.Extends log log'' :=
  ⟨h'.lobby.trans h.lobby, h'.game.trans h.game, h'.players.trans h.players,
    h.events.trans h'.events⟩

theorem Log.extends_record (log : Log) (turn : Nat) (news : News) :
    Log.Extends log (log.record turn news) :=
  ⟨rfl, rfl, rfl, List.prefix_append _ _⟩

/-- The table after effects: cards have changed places, and marks have been added. -/
structure Table.Affected (t t' : Table) : Prop extends Table.Rearranged t t' where
  chained : t'.chained = t.chained
  turn : t'.turn = t.turn
  current : t'.current = t.current
  phase : t'.phase = t.phase
  status : t'.status = t.status
  used : ∀ card ∈ t.used, card ∈ t'.used
  negated : ∀ card ∈ t.negated, card ∈ t'.negated

namespace Table

variable {t t' t'' : Table} {seat : Seat}

theorem Affected.refl (t : Table) : Affected t t :=
  ⟨.refl t, rfl, rfl, rfl, rfl, rfl, fun _ h => h, fun _ h => h⟩

theorem Affected.trans (h : Affected t t') (h' : Affected t' t'') : Affected t t'' :=
  ⟨h.toRearranged.trans h'.toRearranged, h'.chained.trans h.chained, h'.turn.trans h.turn,
    h'.current.trans h.current, h'.phase.trans h.phase, h'.status.trans h.status,
    fun card hm => h'.used card (h.used card hm),
    fun card hm => h'.negated card (h.negated card hm)⟩

theorem affected_modifySide {change : Side → Side}
    (h : (change (t.side seat)).cards.Perm (t.side seat).cards) :
    Affected t (t.modifySide seat change) :=
  ⟨rearranged_modifySide h, rfl, rfl, rfl, rfl, rfl, fun _ h => h, fun _ h => h⟩

theorem affected_life (t : Table) (seat : Seat) (life : Int) :
    Affected t (t.modifySide seat ({ · with life := life })) := by
  have same (z : Zone) :
      ({ t.side seat with life := life } : Side).cardsIn z = (t.side seat).cardsIn z := by
    cases z <;> rfl
  exact affected_modifySide (.of_eq (Side.cards_congr same))

theorem affected_marks (t : Table) (rng : Rng) {used : CardSet}
    (kept : ∀ card ∈ t.used, card ∈ used) : Affected t { t with rng := rng, used := used } :=
  ⟨⟨rfl, .refl _, id⟩, rfl, rfl, rfl, rfl, rfl, kept, fun _ h => h⟩

theorem affected_negated (t : Table) (card : CardRef) :
    Affected t { t with negated := t.negated.insert card } :=
  ⟨⟨rfl, .refl _, id⟩, rfl, rfl, rfl, rfl, rfl, fun _ h => h,
    fun _ h => CardSet.mem_insert.2 (.inr h)⟩

theorem affected_shuffleDeck (t : Table) (seat : Seat) : Affected t (t.shuffleDeck seat) :=
  ⟨rearranged_shuffleDeck t seat, rfl, rfl, rfl, rfl, rfl, fun _ h => h, fun _ h => h⟩

theorem affected_moveToPile? {card : CardRef} {pile : Pile} {place : DeckPlace} {zone : Zone}
    (h : t.moveToPile? card pile place = some (zone, t')) : Affected t t' := by
  have hr := rearranged_moveToPile? h
  obtain ⟨owner, holder, -, -, rfl⟩ := moveToPile?_eq_some.1 h
  exact ⟨hr, rfl, rfl, rfl, rfl, rfl, fun _ h => h, fun _ h => h⟩

theorem affected_moveToPile (t : Table) (card : CardRef) (pile : Pile) (place : DeckPlace) :
    Affected t (t.moveToPile card pile place) := by
  rw [moveToPile]
  split
  · next h => exact affected_moveToPile? h
  · exact .refl t

theorem affected_modifyMonster {change : Monster → Monster}
    (h : ∀ m, (change m).card = m.card) (t : Table) (card : CardRef) :
    Affected t (t.modifyMonster card change) := by
  rw [modifyMonster]
  split
  · refine affected_modifySide ?_
    rw [Side.cards_congr (Side.cardsIn_modifyMonster h _ _)]
  · exact .refl t

end Table

/-- The scene after effects: the table is affected, and the log has grown. -/
structure Scene.Affected (s s' : Scene) : Prop where
  table : Table.Affected s.table s'.table
  log : Log.Extends s.log s'.log

namespace Scene

variable {s s' s'' : Scene}

theorem Affected.refl (s : Scene) : Affected s s := ⟨.refl _, .refl _⟩

theorem Affected.trans (h : Affected s s') (h' : Affected s' s'') : Affected s s'' :=
  ⟨h.table.trans h'.table, h.log.trans h'.log⟩

theorem affected_record (s : Scene) (news : News) : Affected s (s.record news) :=
  ⟨.refl _, s.log.extends_record _ _⟩

theorem affected_change {f : Table → Table} (h : Table.Affected s.table (f s.table)) :
    Affected s (s.change f) :=
  ⟨h, .refl _⟩

/-- A change of the table with news of it. -/
theorem affected_report {f : Table → Table} {news : News}
    (h : Table.Affected s.table (f s.table)) : Affected s ((s.change f).record news) :=
  (affected_change h).trans (affected_record _ _)

end Scene

/-! ## Steps -/

namespace Resolution

/-- One step of an effect itself. -/
inductive Act (setup : Setup) : Scene → Scene → Prop where
  | draw (seat : Seat) (count : Nat) (s : Scene) : Act setup s (draw seat count s).2
  | mill {seat : Seat} {card : CardRef} {s : Scene}
      (top : (s.side seat).deck.head? = some card) : Act setup s (millTop setup seat card s).2
  /-- Words are taken from the stream to choose among cards. -/
  | choose (cards : List CardRef) (s : Scene) :
      Act setup s (s.change fun t => { t with rng := (t.rng.shuffle cards).2 })
  | discard (seat : Seat) (card : CardRef) (s : Scene) :
      Act setup s (discardCard setup seat card s).2
  | find (seat : Seat) (card : CardRef) (s : Scene) :
      Act setup s (takeFromDeck setup seat card s).2
  | reshuffle (seat : Seat) (count : Nat) (condition : Option String) (s : Scene) :
      Act setup s ((s.change (·.shuffleDeck seat)).record (searchNews seat count condition))
  | toHand (actor : Seat) (card : CardRef) (s : Scene) :
      Act setup s (returnToHand setup actor card s).2
  | toGraveyard (actor : Seat) (card : CardRef) (s : Scene) :
      Act setup s (sendToGraveyard setup actor card s).2
  | toDeck (r : Request) (s : Scene) : Act setup s (returnToDeck setup r s).2
  | banish (source : Option Zone) (target : CardRef) (s : Scene) :
      Act setup s (banishCard setup source target s).2
  | destroy {target : CardRef} {owner : Seat} {s s' : Scene}
      (gone : destroyed setup target s = .ok (owner, s')) : Act setup s s'
  | summon {r : Request} {card : CardRef} {printed : Card} {s s' : Scene}
      (there : specialSummoned setup r s = .ok (card, printed, s')) : Act setup s s'
  | life (seat : Seat) (change : Int) (s : Scene) : Act setup s (changeLife seat change s)
  | modify (r : Request) (s : Scene) : Act setup s (modifyAttack setup r s).2
  | negate (r : Request) (s : Scene) : Act setup s (negate setup r s).2
  | use (r : Request) (s : Scene) : Act setup s (markUsed r s)

/-- Some steps of an effect itself, one after the other. -/
abbrev Acts (setup : Setup) : Scene → Scene → Prop := Relation.ReflTransGen (Act setup)

/-- One step of an effect with what it sets off. -/
inductive Step (setup : Setup) : Scene → Scene → Prop where
  | act {s s' : Scene} (act : Act setup s s') : Step setup s s'
  /-- There is news that a further effect is set off. -/
  | trigger (card : CardRef) (seat : Seat) (timing : Timing) (e : Effect) (s : Scene) :
      Step setup s (s.record (triggerNews setup s.table card seat timing e))

/-- Some steps one after the other. -/
abbrev Steps (setup : Setup) : Scene → Scene → Prop := Relation.ReflTransGen (Step setup)

variable {setup : Setup} {s s' : Scene}

theorem Acts.steps (acts : Acts setup s s') : Steps setup s s' :=
  Relation.ReflTransGen.mono (fun _ _ => Step.act) _ _ acts

/-! ## Effects that set off nothing -/

/-- If each item takes steps, then all items one after the other take steps. -/
theorem each_along {α β : Type} {R : Scene → Scene → Prop} {act : α → Scene → β × Scene}
    (h : ∀ x s, Relation.ReflTransGen R s (act x s).2) (xs : List α) (s : Scene) :
    Relation.ReflTransGen R s (Scene.each act xs s).2 :=
  Scene.each_keeps (fun x s' hs => hs.trans (h x s')) xs .refl

theorem draw_acts (seat : Seat) (count : Nat) (s : Scene) :
    Acts setup s (draw seat count s).2 :=
  .single (.draw seat count s)

/-- The cards that are milled lie on top of the deck one after the other. -/
theorem each_millTop_acts (seat : Seat) (cards : List CardRef) (s : Scene)
    (h : cards <+: (s.side seat).deck) :
    Acts setup s (Scene.each (millTop setup seat) cards s).2 := by
  induction cards generalizing s with
  | nil => exact .refl
  | cons card cards ih =>
    obtain ⟨rest, hdeck⟩ := h
    have top : (s.side seat).deck.head? = some card := by rw [← hdeck]; rfl
    refine .head (.mill top) ?_
    rw [Scene.each_cons]
    apply ih
    have after : ((millTop setup seat card s).2.side seat).deck = (s.side seat).deck.drop 1 := by
      simp [millTop, Scene.side, Scene.change, Scene.record, Side.turnOver, Side.setPile]
    rw [after, ← hdeck]
    exact List.prefix_append _ _

theorem mill_acts (seat : Seat) (count : Nat) (s : Scene) :
    Acts setup s (mill setup seat count s).2 := by
  have h : Acts setup s (Scene.each (millTop setup seat) ((s.side seat).deck.take count) s).2 :=
    each_millTop_acts seat _ s (List.take_prefix _ _)
  unfold mill
  dsimp only
  split
  · exact .refl
  · split <;> exact h

theorem each_discardCard_acts (seat : Seat) (cards : List CardRef) (s : Scene) :
    Acts setup s (Scene.each (discardCard setup seat) cards s).2 :=
  each_along (fun card s => .single (.discard seat card s)) cards s

theorem discard_acts (seat : Seat) (count : Nat) (targets : List CardRef) (s : Scene) :
    Acts setup s (discard setup seat count targets s).2 := by
  unfold discard
  cases targets with
  | nil =>
    have chosen : Act setup s _ := .choose (s.side seat).hand s
    simp only [List.isEmpty_nil, ↓reduceIte]
    split
    · exact .single chosen
    · split <;> exact .head chosen (each_discardCard_acts seat _ _)
  | cons target targets =>
    simp only [List.isEmpty_cons, Bool.false_eq_true, ↓reduceIte]
    split
    · exact .refl
    · split <;> exact each_discardCard_acts seat _ s

theorem search_acts (r : Request) (s : Scene) : Acts setup s (search setup r s).2 := by
  unfold search
  dsimp only
  split
  · exact .refl
  · have taken : Acts setup s (Scene.each (takeFromDeck setup r.actor)
        (r.candidates setup s.table r.actor .deck) s).2 :=
      each_along (fun card s => .single (.find r.actor card s)) _ s
    exact taken.tail (.reshuffle _ _ _ _)

theorem toHand_acts (r : Request) (s : Scene) : Acts setup s (toHand setup r s).2 := by
  have all (cards : List CardRef) : Acts setup s (s.each (returnToHand setup r.actor) cards).2 :=
    each_along (fun card s => .single (.toHand r.actor card s)) cards s
  unfold toHand
  dsimp only
  split
  · exact .refl
  · generalize (if r.effect.source.getD .graveyard = .board then _ else _ : List CardRef) = cards
    split
    · exact .refl
    · exact all cards

theorem toGraveyard_acts (r : Request) (s : Scene) :
    Acts setup s (toGraveyard setup r s).2 := by
  have all (cards : List CardRef) (outcome : Outcome) :
      Acts setup s (if cards.isEmpty then (noTarget, s)
        else (outcome, (s.each (sendToGraveyard setup r.actor) cards).2)).2 := by
    split
    · exact .refl
    · exact each_along (fun card s => .single (.toGraveyard r.actor card s)) cards s
  exact all _ _

theorem banish_acts (r : Request) (s : Scene) : Acts setup s (banish setup r s).2 := by
  unfold banish
  split
  · exact .refl
  · exact each_along (fun card s => .single (.banish r.effect.source card s)) _ s

/-- All kinds of effects but destruction and summons. -/
theorem perform_acts (setup : Setup) (followUp : FollowUp) {r : Request}
    (destroys : r.effect.kind ≠ .destroy) (summons : r.effect.kind ≠ .summon) (s : Scene) :
    Acts setup s (perform setup followUp r s).2 := by
  unfold perform
  cases kind : r.effect.kind with
  | draw => exact draw_acts _ _ s
  | mill => exact mill_acts _ _ s
  | discard => exact discard_acts _ _ _ s
  | destroy => exact absurd kind destroys
  | banish => exact banish_acts r s
  | damage => exact .single (.life _ _ s)
  | gainLife => exact .single (.life _ _ s)
  | toHand => exact toHand_acts r s
  | search => exact search_acts r s
  | toGraveyard => exact toGraveyard_acts r s
  | returnToDeck => exact .single (.toDeck r s)
  | modifyAttack => exact .single (.modify r s)
  | summon => exact absurd kind summons
  | negate => exact .single (.negate r s)
  | protection => exact .refl

/-! ## What acts do -/

/-- What one act does to a scene, and what it tells of it. -/
inductive Deed (setup : Setup) (s : Scene) : Scene → Prop where
  | nothing : Deed setup s s
  /-- Words are taken from the stream, or a once-per-turn effect is marked as used. -/
  | mark (rng : Rng) (used : CardSet) (kept : ∀ card ∈ s.table.used, card ∈ used) :
      Deed setup s (s.change fun t => { t with rng := rng, used := used })
  | negate (target : CardRef) {news : News} (kind : news.type = .effectNegated)
      (told : news.details = setup.cardDetails s.table target) :
      Deed setup s ((s.change fun t => { t with negated := t.negated.insert target }).record news)
  | move {card : CardRef} {pile : Pile} {place : DeckPlace} {news : News}
      (kind : news.type.isOfCards) (about : news.details.About card) :
      Deed setup s ((s.change (·.moveToPile card pile place)).record news)
  /-- Cards are turned over from a deck, and room may have been asked for. -/
  | turnOver {seat : Seat} {count : Nat} {pile : Pile} {news : News} (mark : Bool)
      (kind : news.type.isOfCards)
      (names : ∀ card ∈ (s.side seat).deck.take count, news.details.Names card)
      (about : ∀ card, news.details.About card → card ∈ (s.side seat).deck.take count) :
      Deed setup s ((({ s with overrun := mark } : Scene).change
        (·.modifySide seat (·.turnOver count pile))).record news)
  | shuffle (seat : Seat) {news : News} (kind : news.type.isOfCards)
      (about : ∀ card, ¬ news.details.About card) :
      Deed setup s ((s.change (·.shuffleDeck seat)).record news)
  /-- A monster comes onto a board that has room for it. -/
  | arrive {seat : Seat} {left : Zone} {card : CardRef} {printed : Card} {news : News}
      (held : card ∈ (s.side seat).cardsIn left)
      (room : (s.side seat).board.length < setup.rules.monsterZones)
      (known : setup.card? s.table card = some printed) (monster : printed.type.isMonster)
      (kind : news.type = .specialSummon) (about : news.details.About card) :
      Deed setup s ((s.change (·.modifySide seat fun side => (side.remove left card).placeMonster
        (arrival setup card printed .attack s.table.turn))).record news)
  | boost {target : CardRef} {controller : Seat} {m now : Monster} (e : Effect)
      (there : s.table.monster? target = some (controller, m))
      (changed : boosted m e.value e.untilEndOfTurn = now) :
      Deed setup s ((s.change
        (·.modifyMonster target (boosted · e.value e.untilEndOfTurn))).record
          (attackNews setup s.table controller target e (wrap (now.attack + now.bonus))))
  | life (seat : Seat) (change : Int) : Deed setup s (changeLife seat change s)

theorem deed_draw (setup : Setup) (seat : Seat) (count : Nat) (s : Scene) :
    Deed setup s (draw seat count s).2 := by
  have listed (card : CardRef) (hm : card ∈ (s.side seat).deck.take count) :
      Document.nat card.number ∈
        ((s.side seat).deck.take count).map fun card => Document.nat card.number :=
    List.mem_map.2 ⟨card, hm, rfl⟩
  unfold draw
  dsimp only
  split
  all_goals
    exact .turnOver _ rfl (fun card hm => .inr ⟨_, by simp [Details.get?], listed card hm⟩)
      fun card about => by simp [Details.About, Details.get?] at about

theorem deed_millTop {seat : Seat} {card : CardRef} (top : (s.side seat).deck.head? = some card) :
    Deed setup s (millTop setup seat card s).2 := by
  have one : (s.side seat).deck.take 1 = [card] := by
    rw [List.take_one, top]
    rfl
  have told := setup.about_cardDetails s.table card
    [("from", .text Zone.deck.label), ("reason", .text "mill")]
  refine .turnOver s.overrun rfl (fun c hm => ?_) fun c about => ?_
  · rw [one] at hm
    rw [List.mem_singleton.1 hm]
    exact told.names
  · rw [one]
    exact List.mem_singleton.2 (about.unique told)

/-- A card that is moved as far as it can be. -/
theorem deed_moveToPile? {card : CardRef} {pile : Pile} {place : DeckPlace} {left : Zone}
    {moved : Table} {news : News} (there : s.table.moveToPile? card pile place = some (left, moved))
    (kind : news.type.isOfCards) (about : news.details.About card) :
    Deed setup s ((s.change fun _ => moved).record news) := by
  have same : s.change (fun _ => moved) = s.change (·.moveToPile card pile place) := by
    simp only [Scene.change, Table.moveToPile, there]
  rw [same]
  exact .move kind about

theorem deed_destroyed {target : CardRef} {owner : Seat}
    (gone : destroyed setup target s = .ok (owner, s')) : Deed setup s s' := by
  unfold destroyed at gone
  dsimp only at gone
  split at gone
  · cases gone
  · split at gone
    · cases gone
    · split at gone
      · cases gone
      · cases gone
        exact .move rfl (setup.about_cardDetails s.table target _)

/-- What a Special Summon needs, and the scene that it leaves. -/
theorem specialSummoned_eq_ok {r : Request} {card : CardRef} {printed : Card} :
    specialSummoned setup r s = .ok (card, printed, s') ↔
      (s.side r.actor).board.length < setup.rules.monsterZones ∧
      summonCandidate? setup r (r.effect.source.getD .hand) s.table = some card ∧
      setup.card? s.table card = some printed ∧ printed.type.isMonster ∧
      ∃ left, (s.side r.actor).zoneOf? card = some left ∧
        (s.change (·.modifySide r.actor fun side => (side.remove left card).placeMonster
          (arrival setup card printed .attack s.table.turn))).record {
            type := .specialSummon
            seat := some r.actor
            description := printed.name ++ " was Special Summoned"
            details := setup.cardDetails s.table card ++
              [("from", .text left.label), ("position", .text Stance.attack.label)] } = s' := by
  unfold specialSummoned
  dsimp only
  constructor
  · intro there
    split at there
    · cases there
    · next room =>
      split at there
      · cases there
      · next chosen =>
        split at there
        · cases there
        · next known =>
          split at there
          · cases there
          · next monster =>
            split at there
            · cases there
            · next left _ taken =>
              obtain ⟨zone, held, same⟩ := Option.map_eq_some_iff.1 taken
              cases same
              cases there
              exact ⟨Nat.not_le.1 room, chosen, known, by simpa using monster, left, held, rfl⟩
  · rintro ⟨room, chosen, known, monster, left, held, rfl⟩
    rw [if_neg (Nat.not_le.2 room)]
    simp only [chosen, known, monster, Bool.not_true, Bool.false_eq_true, ↓reduceIte, Side.take?,
      held, Option.map_some]

/-- A card that comes onto the board leaves the zone that held it. -/
theorem deed_specialSummoned {r : Request} {card : CardRef} {printed : Card}
    (there : specialSummoned setup r s = .ok (card, printed, s')) : Deed setup s s' := by
  obtain ⟨room, -, known, monster, left, held, rfl⟩ := specialSummoned_eq_ok.1 there
  exact .arrive (Side.mem_of_zoneOf? held) room known monster rfl
    (setup.about_cardDetails s.table card _)

theorem boosted_card (value : Int) (untilEndOfTurn : Bool) (m : Monster) :
    (boosted m value untilEndOfTurn).card = m.card := by
  unfold boosted
  split <;> rfl

/-- Every act is one of these. -/
theorem Act.deed (h : Act setup s s') : Deed setup s s' := by
  cases h with
  | draw seat count s => exact deed_draw setup seat count s
  | mill top => exact deed_millTop top
  | choose cards s => exact .mark _ s.table.used fun _ h => h
  | discard seat card s => exact .move rfl (setup.about_cardDetails s.table card [])
  | find seat card s => exact .move rfl (setup.about_cardDetails s.table card _)
  | reshuffle seat count condition s =>
    refine .shuffle seat rfl fun card about => ?_
    simp [searchNews, Details.About, Details.get?] at about
  | toHand actor card s =>
    unfold returnToHand
    split
    · exact .nothing
    · next moved => exact deed_moveToPile? moved rfl (setup.about_cardDetails s.table card _)
  | toGraveyard actor card s =>
    unfold sendToGraveyard
    split
    · exact .nothing
    · next moved => exact deed_moveToPile? moved rfl (setup.about_cardDetails s.table card _)
  | toDeck r s =>
    unfold returnToDeck
    dsimp only
    split
    · exact .nothing
    · split
      · exact .nothing
      · split
        · exact .move rfl (setup.about_cardDetails s.table _ _)
        · exact .nothing
  | banish source target s =>
    unfold banishCard
    dsimp only
    split
    · exact .nothing
    · split
      · exact .nothing
      · exact .move rfl (setup.about_cardDetails s.table target _)
  | destroy gone => exact deed_destroyed gone
  | summon there => exact deed_specialSummoned there
  | life seat change s => exact .life seat change
  | modify r s =>
    unfold modifyAttack
    dsimp only
    split
    · exact .nothing
    · split
      · exact .nothing
      · split
        · exact .nothing
        · next there => exact .boost r.effect there rfl
  | negate r s =>
    unfold Resolution.negate
    split
    · exact .nothing
    · split
      · exact .negate _ rfl rfl
      · exact .nothing
  | use r s =>
    unfold markUsed
    split
    · split
      · exact .mark s.table.rng _ fun _ h => CardSet.mem_insert.2 (.inr h)
      · exact .nothing
    · exact .nothing

/-! ## What effects keep -/

/-- What no act touches. -/
theorem Deed.affected (h : Deed setup s s') : Scene.Affected s s' := by
  cases h with
  | nothing => exact .refl s
  | mark rng used kept => exact Scene.affected_change (Table.affected_marks _ rng kept)
  | negate target kind told => exact Scene.affected_report (Table.affected_negated _ _)
  | move kind about => exact Scene.affected_report (Table.affected_moveToPile _ _ _ _)
  | @turnOver seat count pile news mark kind names about =>
    have moved : Table.Affected s.table (s.table.modifySide seat (·.turnOver count pile)) :=
      Table.affected_modifySide (Side.turnOver_perm _ _ _)
    exact ⟨moved, s.log.extends_record _ _⟩
  | shuffle seat kind about => exact Scene.affected_report (Table.affected_shuffleDeck _ _)
  | arrive held room known monster kind about =>
    exact Scene.affected_report
      (Table.affected_modifySide ((Side.placeMonster_perm _ _).trans (Side.remove_perm held)))
  | boost e there changed =>
    exact Scene.affected_report (Table.affected_modifyMonster (boosted_card _ _) _ _)
  | life seat change => exact Scene.affected_report (Table.affected_life _ _ _)

theorem affected_draw (setup : Setup) (seat : Seat) (count : Nat) (s : Scene) :
    Scene.Affected s (draw seat count s).2 :=
  (deed_draw setup seat count s).affected

theorem Step.affected (h : Step setup s s') : Scene.Affected s s' := by
  cases h with
  | act act => exact act.deed.affected
  | trigger card seat timing e s => exact Scene.affected_record s _

theorem Steps.affected (h : Steps setup s s') : Scene.Affected s s' := by
  induction h with
  | refl => exact .refl s
  | tail _ step ih => exact ih.trans step.affected

/-- Every card that an act moves is named. -/
theorem Deed.tells (h : Deed setup s s') : Scene.Tells (·.isOfEffect) s s' := by
  have ofCards {type : EventType} (h : type.isOfCards) : type.isOfEffect :=
    EventType.isOfEffect_of_isOfCards h
  cases h with
  | nothing => exact .refl s
  | mark rng used kept => exact Scene.tells_change fun _ => Table.stays_of_side (fun _ => rfl) rfl
  | negate target kind told =>
    exact Scene.tells_report (by rw [kind]; rfl) fun _ =>
      .inr (Table.stays_of_side (fun _ => rfl) rfl)
  | move kind about =>
    exact Scene.tells_card (ofCards kind) about.names fun _ hc => Table.stays_moveToPile _ _ _ hc
  | @turnOver seat count pile news mark kind names about =>
    show Scene.Tells (·.isOfEffect) ({ s with overrun := mark } : Scene) _
    refine Scene.tells_report (ofCards kind) fun card => ?_
    by_cases hm : card ∈ (s.side seat).deck.take count
    · exact .inl (names card hm)
    · exact .inr (Table.stays_modifySide (Side.stays_turnOver hm))
  | shuffle seat kind about =>
    exact Scene.tells_report (ofCards kind) fun _ => .inr (Table.stays_shuffleDeck _ _)
  | arrive held room known monster kind about =>
    have ofEffect : EventType.isOfEffect .specialSummon := rfl
    exact Scene.tells_card (kind ▸ ofEffect) about.names fun _ hc =>
      Table.stays_modifySide ((Side.stays_remove _ hc).trans (Side.stays_placeMonster hc))
  | boost e there changed =>
    exact Scene.tells_report rfl fun _ =>
      .inr (Table.stays_modifyMonster (boosted_card _ _) _ _)
  | life seat change =>
    refine Scene.tells_report rfl fun _ => .inr (Table.stays_modifySide ?_)
    exact Side.stays_of_cardsIn fun z => by cases z <;> rfl

theorem Steps.tells (h : Steps setup s s') : Scene.Tells (·.isOfEffect) s s' := by
  induction h with
  | refl => exact .refl s
  | tail _ step ih =>
    refine ih.trans ?_
    cases step with
    | act act => exact act.deed.tells
    | trigger card seat timing e s => exact Scene.tells_record rfl

end Resolution

end CardDuel
