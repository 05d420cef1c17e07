import CardDuel.Proofs.Choices
import CardDuel.Proofs.Failures
import Mathlib.Data.Set.Card

/-!
# Movements that happened

An effect that discards cards, searches a deck, or sends chosen cards to a hand or a graveyard
writes one event for each card that it takes.  It looks at the choice once, before the first card
moves, and then takes the cards one after the other.  So a card that was chosen twice is told
twice, though it can move only once.

* `Table.Apart`: no card lies in two places.
* `Resolution.Carries`: an action that moves one card to a pile and tells it.
* `Scene.Moves`: the log tells some cards, one event for each, and those are the cards that have
  changed their places.
* `Request.moving`: the cards that an effect takes, one after the other.
* `Resolution.movements_match_unless_repeated`: the events that tell of movements are as many as
  the cards that have moved, and each is about another card, exactly if no card is taken twice.
-/

namespace CardDuel

open CardText

/-! ## Cards that lie in one place -/

namespace Table

variable {t : Table} {loose : List CardRef} {seat seat' owner : Seat} {zone zone' : Zone}
  {card : CardRef} {pile : Pile}

/-- No card lies in two places, and nothing but physical cards lies anywhere. -/
structure Apart (t : Table) : Prop where
  once : t.census.Nodup
  known : ∀ card ∈ t.census, t.knows card

theorem Placed.apart (h : t.Placed loose) : t.Apart :=
  ⟨(List.nodup_append.1 h.nodup).2.1, fun _ hm => h.knows (List.mem_append_right _ hm)⟩

namespace Apart

theorem nodup_cards (h : t.Apart) (seat : Seat) : (t.side seat).cards.Nodup := by
  have sides := (List.nodup_append.1 (census_eq t ▸ h.once)).1
  cases seat with
  | host => exact (List.nodup_append.1 sides).1
  | opponent => exact (List.nodup_append.1 sides).2.1

theorem nodup_cardsIn (h : t.Apart) (seat : Seat) (zone : Zone) :
    ((t.side seat).cardsIn zone).Nodup :=
  (List.nodup_flatMap.1 (h.nodup_cards seat)).1 zone zone.mem_all

theorem place_unique (h : t.Apart) (there : card ∈ (t.side seat).cardsIn zone)
    (there' : card ∈ (t.side seat').cardsIn zone') : seat = seat' ∧ zone = zone' := by
  have sides := (List.nodup_append.1 (census_eq t ▸ h.once)).1
  have apart := (List.nodup_append.1 sides).2.2
  have same : seat = seat' := by
    have one := Side.mem_cards_of_mem there
    have two := Side.mem_cards_of_mem there'
    cases seat <;> cases seat'
    · rfl
    · exact absurd rfl (apart card one card two)
    · exact absurd rfl (apart card two card one)
    · rfl
  subst same
  have count := List.nodup_iff_count.1 (h.nodup_cards seat) card
  exact ⟨rfl, Side.zone_unique count there there'⟩

end Apart

theorem onBoard_of_monster? {monster : Monster} (found : t.monster? card = some (seat, monster)) :
    card ∈ (t.side seat).cardsIn .board := by
  obtain ⟨holder, -, found⟩ := List.exists_of_findSome?_eq_some found
  obtain ⟨there, held, same⟩ := Option.map_eq_some_iff.1 found
  obtain ⟨rfl, rfl⟩ := Prod.mk.inj same
  have named : there.card = card := by simpa using List.find?_some held
  exact named ▸ List.mem_map_of_mem (List.mem_of_find?_eq_some held)

/-- The card is a physical card, and lies in a zone. -/
structure Has (t : Table) (card : CardRef) : Prop where
  known : t.knows card
  there : ∃ seat, card ∈ (t.side seat).cards

theorem Apart.has (h : t.Apart) (there : card ∈ (t.side seat).cardsIn zone) : t.Has card :=
  ⟨h.known card (Placed.mem_census_of_mem_cards (Side.mem_cards_of_mem there)), seat,
    Side.mem_cards_of_mem there⟩

/-- A card that lies in a zone can be moved to a pile of its owner. -/
theorem Has.moveToPile? (h : t.Has card) (pile : Pile) (place : DeckPlace) :
    ∃ owner holder zone, t.owner? card = some owner ∧
      t.moveToPile? card pile place =
        some (zone, (t.modifySide holder (·.remove zone card)).push owner pile card place) := by
  obtain ⟨owner, owned⟩ := exists_owner h.known
  obtain ⟨seat, there⟩ := h.there
  have located : ∃ at_, t.locate? card = some at_ := by
    refine Option.ne_none_iff_exists'.1 fun none => ?_
    exact locate?_eq_none.1 none seat there
  obtain ⟨⟨holder, zone⟩, found⟩ := located
  exact ⟨owner, holder, zone, owned, moveToPile?_eq_some.2 ⟨owner, holder, owned, found, rfl⟩⟩

/-- A card that is moved to a pile lies there. -/
theorem Has.mem_pile (h : t.Has card) (owned : t.owner? card = some owner) (pile : Pile)
    (place : DeckPlace) :
    card ∈ ((t.moveToPile card pile place).side owner).cardsIn pile.zone := by
  obtain ⟨owner', holder, zone, owned', moved⟩ := h.moveToPile? pile place
  obtain rfl : owner' = owner := Option.some.inj (owned'.symm.trans owned)
  let taken : Table := t.modifySide holder (·.remove zone card)
  rw [moveToPile, moved]
  show card ∈ ((taken.push owner' pile card place).side owner').cardsIn pile.zone
  obtain ⟨cards, put, order⟩ := (taken.side owner').push_eq pile card place taken.rng
  show card ∈ ((taken.modifySide owner' fun side =>
    (side.push pile card place taken.rng).1).side owner').cardsIn pile.zone
  rw [side_modifySide_self, put, Side.cardsIn_setPile, if_pos rfl]
  exact order.mem_iff.2 List.mem_cons_self

theorem owner?_moveToPile (t : Table) (moved card : CardRef) (pile : Pile) (place : DeckPlace) :
    (t.moveToPile moved pile place).owner? card = t.owner? card := by
  rw [owner?, (affected_moveToPile t moved pile place).copies, owner?]

/-- However cards are moved, a card that lies in a zone does so afterwards. -/
theorem Has.after (h : t.Has card) (moved : CardRef) (pile : Pile) (place : DeckPlace) :
    (t.moveToPile moved pile place).Has card := by
  have known : (t.moveToPile moved pile place).knows card := by
    rw [knows, (affected_moveToPile t moved pile place).copies]
    exact h.known
  by_cases same : card = moved
  · subst same
    obtain ⟨owner, owned⟩ := exists_owner h.known
    exact ⟨known, owner, Side.mem_cards_of_mem (h.mem_pile owned pile place)⟩
  · obtain ⟨seat, there⟩ := h.there
    obtain ⟨zone, there⟩ := Side.mem_cards.1 there
    have stays := stays_moveToPile t pile place same
    exact ⟨known, seat, Side.mem_cards_of_mem ((stays.zones seat zone).2 there)⟩

end Table

/-! ## Movements that are told -/

/-- Whether the event tells where one card has gone. -/
def EventType.isMovement : EventType → Bool
  | cardDiscarded | cardToHand | cardToGraveyard => true
  | _ => false

namespace Scene

variable {s s' s'' : Scene} {cards : List CardRef}

/-- The log tells the movements of some cards, with one event for each, and those are the cards
that have changed their places. -/
structure Moves (cards : List CardRef) (s s' : Scene) : Prop where
  told : ∃ new, s'.log.events = s.log.events ++ new ∧
    List.Forall₂ (fun event card => event.details.About card)
      (new.filter (·.type.isMovement)) cards
  gone : ∀ card ∈ cards, ¬ Table.Stays card s.table s'.table
  others : ∀ card ∉ cards, Table.Stays card s.table s'.table

theorem Moves.nothing (s : Scene) : Moves [] s s :=
  ⟨⟨[], (List.append_nil _).symm, .nil⟩, fun _ hm => absurd hm List.not_mem_nil,
    fun card _ => .refl card s.table⟩

/-- No card moves, and no movement is told. -/
structure Idles (s s' : Scene) : Prop where
  told : ∃ new, s'.log.events = s.log.events ++ new ∧ new.filter (·.type.isMovement) = []
  stays : ∀ card, Table.Stays card s.table s'.table

theorem idles_change {f : Table → Table} (h : ∀ card, Table.Stays card s.table (f s.table)) :
    Idles s (s.change f) :=
  ⟨⟨[], (List.append_nil _).symm, rfl⟩, h⟩

theorem idles_report {f : Table → Table} {news : News} (kind : news.type.isMovement = false)
    (h : ∀ card, Table.Stays card s.table (f s.table)) :
    Idles s ((s.change f).record news) :=
  ⟨⟨[_], rfl, List.filter_eq_nil_iff.2 fun event hm => by
    rw [List.mem_singleton.1 hm]
    simpa [Log.stamp] using kind⟩, h⟩

theorem Moves.after_idles (h : Idles s s') (moves : Moves cards s' s'') : Moves cards s s'' := by
  obtain ⟨quiet, log, none⟩ := h.told
  obtain ⟨new, log', told⟩ := moves.told
  refine ⟨⟨quiet ++ new, by rw [log', log, List.append_assoc], ?_⟩, fun card hm stays => ?_,
    fun card other => (h.stays card).trans (moves.others card other)⟩
  · rw [List.filter_append, none]
    exact told
  · exact moves.gone card hm ((h.stays card).symm.trans stays)

theorem Moves.then_idles (moves : Moves cards s s') (h : Idles s' s'') : Moves cards s s'' := by
  obtain ⟨new, log, told⟩ := moves.told
  obtain ⟨quiet, log', none⟩ := h.told
  refine ⟨⟨new ++ quiet, by rw [log', log, List.append_assoc], ?_⟩, fun card hm stays => ?_,
    fun card other => (moves.others card other).trans (h.stays card)⟩
  · rw [List.filter_append, none, List.append_nil]
    exact told
  · exact moves.gone card hm (stays.trans (h.stays card).symm)

end Scene

namespace Resolution

/-- What is done moves one card to a pile of its owner, and tells this of a card that lies in a
zone. -/
structure Carries {β : Type} (act : CardRef → Scene → β × Scene) (pile : Pile) : Prop where
  table : ∀ card s, (act card s).2.table = s.table.moveToPile card pile .top
  told : ∀ card s, s.table.Has card → ∃ turn news,
    (act card s).2.log = s.log.record turn news ∧ news.type.isMovement ∧ news.details.About card

section

variable {β : Type} {act : CardRef → Scene → β × Scene} {pile : Pile} {s : Scene}
  {cards : List CardRef} {card : CardRef} {owner : Seat} (carries : Carries act pile)

include carries

theorem Carries.has (h : s.table.Has card) (moved : CardRef) : (act moved s).2.table.Has card := by
  rw [carries.table]
  exact h.after moved pile .top

/-- Each card that lies in a zone is told once for each time that it is taken. -/
theorem Carries.told_each (lie : ∀ card ∈ cards, s.table.Has card) :
    ∃ new, (s.each act cards).2.log.events = s.log.events ++ new ∧
      List.Forall₂ (fun event card => event.details.About card)
        (new.filter (·.type.isMovement)) cards := by
  induction cards generalizing s with
  | nil => exact ⟨[], (List.append_nil _).symm, .nil⟩
  | cons card cards ih =>
    obtain ⟨turn, news, log, kind, about⟩ := carries.told card s (lie card List.mem_cons_self)
    have lie' (other : CardRef) (hm : other ∈ cards) : (act card s).2.table.Has other :=
      carries.has (lie other (List.mem_cons_of_mem _ hm)) card
    obtain ⟨new, log', told⟩ := ih lie'
    refine ⟨s.log.stamp turn news :: new, ?_, ?_⟩
    · rw [Scene.each_cons, log', log, Log.events_record, List.append_assoc]
      rfl
    · rw [List.filter_cons_of_pos (by exact kind)]
      exact .cons about told

/-- A card that lies on the pile stays there. -/
theorem Carries.stays_on_pile (h : s.table.Has card) (owned : s.table.owner? card = some owner)
    (there : card ∈ (s.side owner).cardsIn pile.zone) :
    card ∈ ((s.each act cards).2.side owner).cardsIn pile.zone := by
  induction cards generalizing s with
  | nil => exact there
  | cons moved cards ih =>
    have owned' : (act moved s).2.table.owner? card = some owner := by
      rw [carries.table, Table.owner?_moveToPile]
      exact owned
    refine ih (carries.has h moved) owned' ?_
    rw [Scene.side, carries.table]
    by_cases same : card = moved
    · subst same
      exact h.mem_pile owned pile .top
    · exact ((Table.stays_moveToPile s.table pile .top same).zones owner pile.zone).2 there

/-- Each card that is taken lies on the pile of its owner in the end. -/
theorem Carries.mem_pile (h : s.table.Has card) (owned : s.table.owner? card = some owner)
    (taken : card ∈ cards) : card ∈ ((s.each act cards).2.side owner).cardsIn pile.zone := by
  induction cards generalizing s with
  | nil => exact absurd taken List.not_mem_nil
  | cons moved cards ih =>
    have owned' : (act moved s).2.table.owner? card = some owner := by
      rw [carries.table, Table.owner?_moveToPile]
      exact owned
    rcases List.mem_cons.1 taken with rfl | later
    · show card ∈ (((act card s).2.each act cards).2.side owner).cardsIn pile.zone
      refine carries.stays_on_pile (carries.has h card) owned' ?_
      rw [Scene.side, carries.table]
      exact h.mem_pile owned pile .top
    · exact ih (carries.has h moved) owned' later

/-- Cards of other zones that are taken one after the other are the cards that move. -/
theorem Carries.moves (apart : s.table.Apart)
    (lie : ∀ card ∈ cards, ∃ seat zone, zone ≠ pile.zone ∧ card ∈ (s.side seat).cardsIn zone) :
    s.Moves cards (s.each act cards).2 where
  told := by
    refine carries.told_each fun card hm => ?_
    obtain ⟨_, _, -, there⟩ := lie card hm
    exact apart.has there
  gone card hm stays := by
    obtain ⟨seat, zone, other, there⟩ := lie card hm
    have has := apart.has there
    obtain ⟨owner, owned⟩ := Table.exists_owner has.known
    have put := (stays.zones owner pile.zone).1 (carries.mem_pile has owned hm)
    exact other (apart.place_unique there put).2
  others card other := Scene.stays_each carries.table other s

end

variable {setup : Setup}

theorem carries_discardCard (setup : Setup) (seat : Seat) :
    Carries (discardCard setup seat) .graveyard := by
  refine ⟨fun _ _ => rfl, fun card s _ => ⟨_, _, rfl, rfl, ?_⟩⟩
  exact setup.about_cardDetails s.table card []

theorem carries_takeFromDeck (setup : Setup) (seat : Seat) :
    Carries (takeFromDeck setup seat) .hand := by
  refine ⟨fun _ _ => rfl, fun card s _ => ⟨_, _, rfl, rfl, ?_⟩⟩
  exact setup.about_cardDetails s.table card _

theorem carries_returnToHand (setup : Setup) (actor : Seat) :
    Carries (returnToHand setup actor) .hand := by
  refine ⟨table_returnToHand actor, fun card s has => ?_⟩
  obtain ⟨_, _, _, -, moved⟩ := has.moveToPile? .hand .top
  unfold returnToHand
  rw [moved]
  exact ⟨_, _, rfl, rfl, setup.about_cardDetails s.table card _⟩

theorem carries_sendToGraveyard (setup : Setup) (actor : Seat) :
    Carries (sendToGraveyard setup actor) .graveyard := by
  refine ⟨fun card s => ?_, fun card s has => ?_⟩
  · unfold sendToGraveyard Table.moveToPile
    cases s.table.moveToPile? card .graveyard .top <;> rfl
  · obtain ⟨_, _, _, -, moved⟩ := has.moveToPile? .graveyard .top
    unfold sendToGraveyard
    rw [moved]
    exact ⟨_, _, rfl, rfl, setup.about_cardDetails s.table card _⟩

end Resolution

/-! ## What effects take -/

/-- The kinds of effects that take cards one by one to a hand or a graveyard, with an event for
each. -/
def EffectKind.transfers : EffectKind → Bool
  | .discard | .search | .toHand | .toGraveyard => true
  | _ => false

/-- The pile that an effect of these kinds takes cards to. -/
def EffectKind.destination : EffectKind → Pile
  | .search | .toHand => .hand
  | _ => .graveyard

namespace Request

variable {r : Request} {setup : Setup} {t : Table} {seat : Seat} {zone : Zone} {card : CardRef}

/-- The cards that an effect of these kinds takes one after the other.  A card that was chosen
twice is taken twice. -/
def moving (r : Request) (setup : Setup) (t : Table) : List CardRef :=
  match r.effect.kind with
  | .discard =>
    let hand := (t.side r.affectedSeat).hand
    (if r.targets.isEmpty then (t.rng.shuffle hand).1 else r.targets.filter (· ∈ hand)).take r.count
  | .search => r.candidates setup t r.actor .deck
  | .toHand =>
    if r.effect.source = some .board then
      (r.targets.filter fun card => (t.monster? card).isSome).take r.effect.targetLimit
    else r.candidates setup t r.actor .graveyard
  | .toGraveyard =>
    (r.targets.filter (Resolution.isOutsideGraveyard t)).take r.effect.targetLimit
  | _ => []

theorem nodup_candidates (once : ((t.side seat).cardsIn zone).Nodup) (distinct : r.targets.Nodup) :
    (r.candidates setup t seat zone).Nodup := by
  refine (List.take_sublist _ _).nodup ?_
  split
  · exact once.filter _
  · exact distinct.filter _

/-- Whatever is taken lies in another zone than the pile that it is taken to. -/
theorem lies_of_moving (setup : Setup) (t : Table) (hm : card ∈ r.moving setup t) :
    ∃ seat zone, zone ≠ r.effect.kind.destination.zone ∧ card ∈ (t.side seat).cardsIn zone := by
  unfold moving at hm
  cases kind : r.effect.kind with
  | discard =>
    rw [kind] at hm
    refine ⟨r.affectedSeat, .hand, nofun, ?_⟩
    have there := List.mem_of_mem_take hm
    split at there
    · exact (Rng.shuffle_perm _ _).mem_iff.1 there
    · exact of_decide_eq_true (List.mem_filter.1 there).2
  | search =>
    rw [kind] at hm
    exact ⟨r.actor, .deck, nofun, mem_of_candidate hm⟩
  | toHand =>
    rw [kind] at hm
    dsimp only at hm
    split at hm
    · have known := (List.mem_filter.1 (List.mem_of_mem_take hm)).2
      obtain ⟨⟨seat, monster⟩, found⟩ := Option.isSome_iff_exists.1 known
      exact ⟨seat, .board, nofun, Table.onBoard_of_monster? found⟩
    · exact ⟨r.actor, .graveyard, nofun, mem_of_candidate hm⟩
  | toGraveyard =>
    rw [kind] at hm
    have outside := (List.mem_filter.1 (List.mem_of_mem_take hm)).2
    unfold Resolution.isOutsideGraveyard at outside
    split at outside
    · next seat zone found =>
      exact ⟨seat, zone, by simpa [EffectKind.destination, Pile.zone] using outside,
        Table.mem_of_locate? found⟩
    · cases outside
  | _ =>
    rw [kind] at hm
    exact absurd hm List.not_mem_nil

/-- Nothing is taken twice if nothing was chosen twice. -/
theorem nodup_moving (apart : t.Apart) (distinct : r.targets.Nodup) :
    (r.moving setup t).Nodup := by
  unfold moving
  cases r.effect.kind with
  | discard =>
    refine (List.take_sublist _ _).nodup ?_
    split
    · exact (Rng.shuffle_perm _ _).nodup_iff.2 (apart.nodup_cardsIn r.affectedSeat .hand)
    · exact distinct.filter _
  | search => exact nodup_candidates (apart.nodup_cardsIn _ _) distinct
  | toHand =>
    dsimp only
    split
    · exact (List.take_sublist _ _).nodup (distinct.filter _)
    · exact nodup_candidates (apart.nodup_cardsIn _ _) distinct
  | toGraveyard => exact (List.take_sublist _ _).nodup (distinct.filter _)
  | _ => exact List.nodup_nil

end Request

namespace Resolution

variable {setup : Setup} {followUp : FollowUp} {r : Request} {s : Scene}

/-- A discard chooses cards, and then discards them one after the other. -/
theorem discard_each (seat : Seat) (count : Nat) (targets : List CardRef) (s : Scene) :
    let hand := (s.side seat).hand
    let pool := if targets.isEmpty then s.table.rng.shuffle hand
      else (targets.filter (· ∈ hand), s.table.rng)
    (discard setup seat count targets s).2 =
      ((s.change ({ · with rng := pool.2 })).each (discardCard setup seat)
        (pool.1.take count)).2 := by
  intro hand pool
  unfold discard
  show (if (pool.1.take count).isEmpty then _ else _ : Outcome × Scene).2 = _
  split
  · next none =>
    rw [List.isEmpty_iff.1 none, Scene.each_nil]
    rfl
  · dsimp only
    split <;> rfl

theorem discard_moves (kind : r.effect.kind = .discard) (apart : s.table.Apart) :
    s.Moves (r.moving setup s.table) (discard setup r.affectedSeat r.count r.targets s).2 := by
  let hand := (s.side r.affectedSeat).hand
  let pool := if r.targets.isEmpty then s.table.rng.shuffle hand
    else (r.targets.filter (· ∈ hand), s.table.rng)
  let ready := s.change ({ · with rng := pool.2 })
  have idle : s.Idles ready := Scene.idles_change fun _ => Table.stays_of_side (fun _ => rfl) rfl
  have apart' : ready.table.Apart := ⟨apart.once, apart.known⟩
  have chosen : r.moving setup s.table = pool.1.take r.count := by
    simp only [Request.moving, kind, pool, hand, Scene.side]
    split <;> rfl
  rw [chosen, discard_each]
  refine .after_idles idle ((carries_discardCard setup r.affectedSeat).moves apart' ?_)
  intro card hm
  have lie := Request.lies_of_moving setup s.table (chosen ▸ hm)
  rwa [kind] at lie

theorem search_moves (kind : r.effect.kind = .search) (apart : s.table.Apart) :
    s.Moves (r.moving setup s.table) (search setup r s).2 := by
  have chosen : r.moving setup s.table = r.candidates setup s.table r.actor .deck := by
    simp only [Request.moving, kind]
  have lie (card : CardRef) (hm : card ∈ r.candidates setup s.table r.actor .deck) :=
    Request.lies_of_moving setup s.table (chosen ▸ hm)
  rw [kind] at lie
  rw [chosen]
  unfold search
  dsimp only
  split
  · next none =>
    rw [List.isEmpty_iff.1 none]
    exact .nothing s
  · exact ((carries_takeFromDeck setup r.actor).moves apart lie).then_idles
      (Scene.idles_report rfl fun _ => Table.stays_shuffleDeck _ r.actor)

/-- An effect that adds cards to a hand takes its cards one after the other. -/
theorem toHand_each (kind : r.effect.kind = .toHand) (sourced : r.effect.Sourced) :
    (toHand setup r s).2 =
      (s.each (returnToHand setup r.actor) (r.moving setup s.table)).2 := by
  unfold toHand
  simp only [Request.moving, kind]
  rcases sourced.toHand kind with source | source
  · simp only [source, Option.getD_some, reduceCtorEq, decide_false, Bool.false_and,
      Bool.false_eq_true, ↓reduceIte, Option.some.injEq]
    split
    · next none => rw [List.isEmpty_iff.1 none, Scene.each_nil]
    · rfl
  · simp only [source, Option.getD_some, decide_true, Bool.true_and, ↓reduceIte]
    split
    · next nobody =>
      rw [List.isEmpty_iff.1 nobody, List.filter_nil, List.take_nil, Scene.each_nil]
    · split
      · next none => rw [List.isEmpty_iff.1 none, Scene.each_nil]
      · rfl

/-- So does an effect that sends cards to the graveyard. -/
theorem toGraveyard_each (kind : r.effect.kind = .toGraveyard) (sourced : r.effect.Sourced) :
    (toGraveyard setup r s).2 =
      (s.each (sendToGraveyard setup r.actor) (r.moving setup s.table)).2 := by
  unfold toGraveyard
  simp only [Request.moving, kind, sourced.toGraveyard kind]
  split
  · next none => rw [List.isEmpty_iff.1 none, Scene.each_nil]
  · rfl

theorem perform_moves (setup : Setup) (followUp : FollowUp)
    (transfers : r.effect.kind.transfers) (sourced : r.effect.Sourced) (apart : s.table.Apart) :
    s.Moves (r.moving setup s.table) (perform setup followUp r s).2 := by
  have lie (card : CardRef) (hm : card ∈ r.moving setup s.table) :=
    Request.lies_of_moving setup s.table hm
  unfold perform
  cases kind : r.effect.kind with
  | discard => exact discard_moves kind apart
  | search => exact search_moves kind apart
  | toHand =>
    rw [kind] at lie
    show s.Moves _ (toHand setup r s).2
    rw [toHand_each kind sourced]
    exact (carries_returnToHand setup r.actor).moves apart lie
  | toGraveyard =>
    rw [kind] at lie
    show s.Moves _ (toGraveyard setup r s).2
    rw [toGraveyard_each kind sourced]
    exact (carries_sendToGraveyard setup r.actor).moves apart lie
  | _ => simp [kind, EffectKind.transfers] at transfers

/-- The cards that an effect of these kinds takes one after the other: none if a rule for all
effects forbids it. -/
def taking (setup : Setup) (r : Request) (t : Table) : List CardRef :=
  if (fault? setup r t).isSome then [] else r.moving setup t

theorem idles_markUsed (r : Request) (s : Scene) : s.Idles (markUsed r s) := by
  have same : s.Idles s := ⟨⟨[], (List.append_nil _).symm, rfl⟩, fun card => .refl card s.table⟩
  unfold markUsed
  split
  · split
    · exact Scene.idles_change fun _ => Table.stays_of_side (fun _ => rfl) rfl
    · exact same
  · exact same

theorem runWith_moves (transfers : r.effect.kind.transfers) (sourced : r.effect.Sourced)
    (apart : s.table.Apart) :
    s.Moves (taking setup r s.table) (runWith setup followUp r s).2 := by
  unfold taking
  cases forbidden : fault? setup r s.table with
  | some fault =>
    rw [runWith_of_fault forbidden]
    exact .nothing s
  | none =>
    have performed := perform_moves setup followUp transfers sourced apart
    rw [runWith_of_allowed forbidden]
    show s.Moves (r.moving setup s.table) (if _ then _ else _)
    split
    · exact performed.then_idles (idles_markUsed r _)
    · exact performed

/-! ## Events and cards that moved -/

/-- A list is as long as it has members exactly if it names none twice. -/
theorem length_eq_ncard_iff_nodup {cards : List CardRef} :
    cards.length = {card | card ∈ cards}.ncard ↔ cards.Nodup := by
  have members : {card | card ∈ cards} = (cards.toFinset : Set CardRef) := by
    ext card
    simp
  rw [members, Set.ncard_coe_finset, eq_comm]
  exact Multiset.toFinset_card_eq_card_iff_nodup

theorem about_of_mem {events : List Event} {cards : List CardRef} {card : CardRef}
    (told : List.Forall₂ (fun event card => event.details.About card) events cards) :
    card ∈ cards ↔ ∃ event ∈ events, event.details.About card := by
  induction told with
  | nil => simp
  | @cons event named _ _ about _ ih =>
    rw [List.mem_cons, ih, List.exists_mem_cons_iff]
    refine or_congr_left ⟨?_, fun about' => about'.unique about⟩
    rintro rfl
    exact about

/-- Each event is about another card exactly if no card is told twice. -/
theorem pairwise_about_iff_nodup {events : List Event} {cards : List CardRef}
    (told : List.Forall₂ (fun event card => event.details.About card) events cards) :
    events.Pairwise (fun event other =>
        ∀ card, event.details.About card → ¬ other.details.About card) ↔ cards.Nodup := by
  induction told with
  | nil => exact ⟨fun _ => .nil, fun _ => .nil⟩
  | @cons event named events cards about rest ih =>
    rw [List.pairwise_cons, List.nodup_cons, ih, about_of_mem rest]
    refine and_congr_left fun _ => ⟨?_, ?_⟩
    · rintro others ⟨other, later, about'⟩
      exact others other later named about about'
    · intro fresh other later card about' about''
      obtain rfl := about'.unique about
      exact fresh ⟨other, later, about''⟩

/-- Of every effect that is read from a text and that discards cards, searches the deck, or sends
cards to a hand or a graveyard, whatever was chosen for it: the events that it writes about single
cards tell the cards that it takes, in this order, and these are exactly the cards that change
their places.  So the events are as many as the cards that have moved, and each is about another
card, exactly if no card is taken twice, which cannot happen unless a card was chosen twice. -/
theorem movements_match_unless_repeated (setup : Setup) (text : String) (e : Effect)
    (read : e ∈ (readAbility text).effects) (transfers : e.kind.transfers) (actor : Seat)
    (source : Option CardRef) (targets : List CardRef) (s : Scene) (apart : s.table.Apart) :
    let r : Request := ⟨e, actor, source, targets⟩
    let after := (run setup r s).2
    let moved := {card | ¬ Table.Stays card s.table after.table}
    let taken := taking setup r s.table
    ∃ new, after.log.events = s.log.events ++ new ∧
      let told := new.filter (·.type.isMovement)
      List.Forall₂ (fun event card => event.details.About card) told taken ∧
      moved = {card | card ∈ taken} ∧
      (told.length = moved.ncard ∧ told.Pairwise (fun event other =>
          ∀ card, event.details.About card → ¬ other.details.About card) ↔ taken.Nodup) ∧
      (targets.Nodup → taken.Nodup) := by
  intro r after moved taken
  have moves : s.Moves taken after := runWith_moves transfers (sourced_of_read read) apart
  obtain ⟨new, log, told⟩ := moves.told
  have same : moved = {card | card ∈ taken} := by
    ext card
    refine ⟨fun gone => ?_, moves.gone card⟩
    by_contra other
    exact gone (moves.others card other)
  refine ⟨new, log, told, same, ?_, fun distinct => ?_⟩
  · rw [same, told.length_eq, length_eq_ncard_iff_nodup, pairwise_about_iff_nodup told, and_self]
  · show (taking setup r s.table).Nodup
    unfold taking
    split
    · exact List.nodup_nil
    · exact Request.nodup_moving apart distinct

end Resolution

namespace Sample

/-- What is read from "Discard 2 cards." -/
def pairDiscard : Effect where
  kind := .discard
  value := 2
  text := "Discard 2 cards"

end Sample

namespace Resolution

open Sample in
/-- The rite is chosen twice.  It is discarded once, and told twice. -/
theorem rite_discarded_twice :
    let after := (run setup ⟨pairDiscard, .host, none, [⟨1⟩, ⟨1⟩]⟩ twoInHand).2
    pairDiscard ∈ (readAbility "Discard 2 cards.").effects ∧
      (∃ new, after.log.events = twoInHand.log.events ++ new ∧
        (new.filter (·.type.isMovement)).length = 2) ∧
      {card | ¬ Table.Stays card twoInHand.table after.table}.ncard = 1 := by
  intro after
  have read : pairDiscard ∈ (readAbility "Discard 2 cards.").effects := by decide +kernel
  have dealing : dealt.table.Placed [] :=
    (Table.addCards_spec _ _ (Table.placed_of_start _ _) (Table.fresh_start _ _)).1
  have apart : twoInHand.table.Apart :=
    (dealing.rearranged (deed_draw setup .host 2 dealt).affected.table.toRearranged).apart
  obtain ⟨new, log, told, moved, -, -⟩ := movements_match_unless_repeated setup
    "Discard 2 cards." pairDiscard read rfl .host none [⟨1⟩, ⟨1⟩] twoInHand apart
  have taken : taking setup ⟨pairDiscard, .host, none, [⟨1⟩, ⟨1⟩]⟩ twoInHand.table =
      [⟨1⟩, ⟨1⟩] := by
    decide +kernel
  rw [taken] at told moved
  refine ⟨read, ⟨new, log, told.length_eq⟩, ?_⟩
  show {card | ¬ Table.Stays card twoInHand.table after.table}.ncard = 1
  rw [moved]
  simp

end Resolution

end CardDuel
