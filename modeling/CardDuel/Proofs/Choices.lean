import CardDuel.Proofs.Executions
import CardDuel.Proofs.Histories
import CardDuel.Proofs.Opening
import CardDuel.Proofs.Sources

/-!
# Conditions and choices

"Add 1 dragon monster from your deck to your hand": the text of a card may say what kind of card
its effect takes.  Three kinds of effects take cards of a described kind out of a pile of the
player, and each of them does so in two ways.  Without targets it looks through the pile for cards
that fit.  With targets it takes those of them that are in the pile, and the description is not
looked at again.

* `CardText.picksFrom_of_read`: what an effect that was read from a text with a description is
  like: it takes from one of the piles, and not the card that it comes from.
* `Resolution.acted`: what an effect has done by itself, before anything that it sets off.
* `Request.settled`: what a choice of targets comes down to.
* `Resolution.condition_binds_unless_chosen`: what an effect takes by itself meets the condition
  if nothing was chosen, and is what the choice comes down to otherwise.
-/

namespace CardDuel

open CardText

/-! ## Effects with a description -/

/-- The effects that take cards of a described kind out of a pile of the player. -/
def EffectKind.picks : EffectKind → Bool
  | .search | .toHand | .summon => true
  | _ => false

/-- An effect that takes cards out of one pile of the player, and not the card that it comes
from. -/
structure Effect.PicksFrom (e : Effect) (pile : Pile) : Prop where
  source : e.source = some pile.zone
  others : e.targetsSelf = false
  search : e.kind = .search → pile = .deck
  toHand : e.kind = .toHand → pile = .graveyard

/-- If the effect takes cards of a described kind, then it takes them out of one pile. -/
def Effect.Aimed (e : Effect) : Prop :=
  e.kind.picks → e.condition.isSome → ∃ pile, e.PicksFrom pile

theorem Effect.Shaped.aimed {e : Effect} (h : e.Shaped) : e.Aimed := by
  intro picks described
  obtain ⟨c, named⟩ := Option.isSome_iff_exists.1 described
  have others : e.targetsSelf = false := by
    refine Bool.eq_false_iff.2 fun itself => ?_
    obtain ⟨-, none⟩ | ⟨kind, -⟩ := h.targetsSelf itself
    · nomatch named.symm.trans none
    · rw [kind] at picks
      cases picks
  have source := h.source
  have selects := (h.condition c named).1
  cases kind : e.kind with
  | search =>
    rw [kind] at source
    exact ⟨.deck, List.mem_singleton.1 source, others, fun _ => rfl, by simp [kind]⟩
  | toHand =>
    have graveyard : e.source = some .graveyard := by
      simpa [Effect.selects, Effect.isModifier, kind] using selects
    exact ⟨.graveyard, graveyard, others, by simp [kind], fun _ => rfl⟩
  | summon =>
    simp only [kind, EffectKind.sources, List.mem_cons, List.not_mem_nil, or_false] at source
    obtain source | source | source := source
    · exact ⟨.hand, source, others, by simp [kind], by simp [kind]⟩
    · exact ⟨.graveyard, source, others, by simp [kind], by simp [kind]⟩
    · exact ⟨.deck, source, others, by simp [kind], by simp [kind]⟩
  | _ => simp [kind, EffectKind.picks] at picks

/-- An effect of a text that takes cards of a described kind takes them out of one pile. -/
theorem CardText.picksFrom_of_read {e : Effect} {text c : String}
    (read : e ∈ (readAbility text).effects) (picks : e.kind.picks)
    (described : e.condition = some c) : ∃ pile, e.PicksFrom pile := by
  have aimed : e.Aimed := by
    refine holds_of_clauses (fun _ _ _ => nofun) (fun _ e clause _ _ _ picks described => ?_) read
    obtain ⟨pile, aim⟩ := (shaped_of_readClause clause).aimed picks described
    exact ⟨pile, aim.source, aim.others, aim.search, aim.toHand⟩
  exact aimed picks (described ▸ rfl)

/-! ## Cards that leave a zone -/

namespace Scene

variable {β : Type} {act : CardRef → Scene → β × Scene} {s : Scene} {cards : List CardRef}
  {card : CardRef} {pile : Pile} {seat : Seat} {zone : Zone}
  (moves : ∀ card s, (act card s).2.table = s.table.moveToPile card pile .top)

include moves

/-- Cards that are moved one after the other leave all others where they are. -/
theorem stays_each (other : card ∉ cards) (s : Scene) :
    Table.Stays card s.table (s.each act cards).2.table := by
  induction cards generalizing s with
  | nil => exact .refl card s.table
  | cons first cards ih =>
    obtain ⟨ne, other⟩ := not_or.1 (mt List.mem_cons.2 other)
    have stays : Table.Stays card s.table (act first s).2.table := by
      rw [moves]
      exact Table.stays_moveToPile s.table pile .top ne
    exact stays.trans (ih other _)

/-- Cards that are moved one after the other leave the zone in which they lay, and none of them
comes back. -/
theorem not_mem_each (placed : s.table.Placed []) (there : card ∈ (s.side seat).cardsIn zone)
    (other : zone ≠ pile.zone) (taken : card ∈ cards) :
    card ∉ ((s.each act cards).2.side seat).cardsIn zone := by
  have away (s : Scene) (cards : List CardRef) (gone : card ∉ (s.side seat).cardsIn zone) :
      card ∉ ((s.each act cards).2.side seat).cardsIn zone := by
    have step (moved : CardRef) (s : Scene) (gone : card ∉ (s.side seat).cardsIn zone) :
        card ∉ ((act moved s).2.side seat).cardsIn zone := by
      intro back
      rw [side, moves] at back
      exact gone (Table.mem_of_mem_moveToPile other back)
    exact each_keeps step cards gone
  induction cards generalizing s with
  | nil => exact absurd taken List.not_mem_nil
  | cons first cards ih =>
    by_cases gone : card ∉ ((act first s).2.side seat).cardsIn zone
    · exact away _ cards gone
    · have still := not_not.1 gone
      have later : card ∈ cards := by
        refine (List.mem_cons.1 taken).resolve_left ?_
        rintro rfl
        rw [side, moves] at still
        exact Table.not_mem_moveToPile placed there other still
      refine ih ?_ still later
      rw [moves]
      exact placed.rearranged (Table.affected_moveToPile s.table first pile .top).toRearranged

end Scene

/-! ## What is taken -/

namespace Request

variable {setup : Setup} {r : Request} {t : Table} {seat : Seat} {zone : Zone} {card : CardRef}

/-- What a choice of targets comes down to: as many as the effect takes of those that are in the
zone or, for a summon, the first target, if it is a monster of the zone and there is room. -/
def settled (r : Request) (setup : Setup) (t : Table) (zone : Zone) : List CardRef :=
  let side := t.side r.actor
  if r.effect.kind = .summon then
    if side.board.length < setup.rules.monsterZones then
      (r.targets.take 1).filter fun card =>
        side.holds zone card && (setup.card? t card).any (·.type.isMonster)
    else []
  else (r.targets.filter (side.holds zone)).take r.effect.targetLimit

/-- A card that an effect may take when nobody has chosen anything. -/
structure Fits (r : Request) (setup : Setup) (t : Table) (zone : Zone) (card : CardRef) :
    Prop where
  there : card ∈ (t.side r.actor).cardsIn zone
  accepted : r.accepts setup t card

theorem Fits.meets {c : String} (h : r.Fits setup t zone card)
    (described : r.effect.condition = some c) :
    ∃ printed, setup.card? t card = some printed ∧ printed.meets c := by
  have accepted := h.accepted
  simp only [accepts, described] at accepted
  exact (Option.any_eq_true _ _).1 accepted

/-- The cards that an effect takes out of a zone. -/
def taken (r : Request) (setup : Setup) (t : Table) (zone : Zone) : List CardRef :=
  if r.effect.kind = .summon then
    if (t.side r.actor).board.length < setup.rules.monsterZones then
      (Resolution.summonCandidate? setup r zone t).toList.filter fun card =>
        (setup.card? t card).any (·.type.isMonster)
    else []
  else r.candidates setup t r.actor zone

theorem taken_of_ne_summon (kind : r.effect.kind ≠ .summon) :
    r.taken setup t zone = r.candidates setup t r.actor zone :=
  if_neg kind

theorem mem_taken_summon (kind : r.effect.kind = .summon) :
    card ∈ r.taken setup t zone ↔
      (t.side r.actor).board.length < setup.rules.monsterZones ∧
      Resolution.summonCandidate? setup r zone t = some card ∧
      ∃ printed, setup.card? t card = some printed ∧ printed.type.isMonster := by
  rw [taken, if_pos kind]
  split
  · next room =>
    rw [List.mem_filter, Option.mem_toList, Option.any_eq_true]
    exact ⟨fun h => ⟨room, h⟩, fun h => h.2⟩
  · next full =>
    exact ⟨nofun, fun h => absurd h.1 full⟩

theorem fits_of_candidate (nobody : r.targets = [])
    (taken : card ∈ r.candidates setup t r.actor zone) : r.Fits setup t zone card := by
  have fitting := List.mem_of_mem_take taken
  simp only [nobody, List.isEmpty_nil, ↓reduceIte, List.mem_filter] at fitting
  exact ⟨fitting.1, fitting.2⟩

theorem fits_of_summonCandidate (others : r.effect.targetsSelf = false) (nobody : r.targets = [])
    (found : Resolution.summonCandidate? setup r zone t = some card) :
    r.Fits setup t zone card := by
  simp only [Resolution.summonCandidate?, others, Bool.false_eq_true, ↓reduceIte, nobody] at found
  have fitting := List.find?_some found
  rw [Bool.and_eq_true] at fitting
  exact ⟨List.mem_of_find?_eq_some found, fitting.2⟩

/-- Without a choice an effect takes what fits. -/
theorem fits_of_taken (others : r.effect.targetsSelf = false) (nobody : r.targets = [])
    (took : card ∈ r.taken setup t zone) : r.Fits setup t zone card := by
  by_cases kind : r.effect.kind = .summon
  · obtain ⟨-, found, -⟩ := (mem_taken_summon kind).1 took
    exact fits_of_summonCandidate others nobody found
  · rw [taken_of_ne_summon kind] at took
    exact fits_of_candidate nobody took

/-- What was chosen is taken, whatever is printed on it. -/
theorem taken_of_chosen (others : r.effect.targetsSelf = false) (chosen : r.targets ≠ []) :
    r.taken setup t zone = r.settled setup t zone := by
  unfold taken settled
  split
  · obtain ⟨target, targets, same⟩ := List.exists_cons_of_ne_nil chosen
    simp only [Resolution.summonCandidate?, others, Bool.false_eq_true, ↓reduceIte, same,
      List.take_succ_cons, List.take_zero]
    split
    · by_cases held : (t.side r.actor).holds zone target <;>
        simp [List.filter_cons, held]
    · rfl
  · simp [candidates, chosen]

theorem mem_zone_of_taken (others : r.effect.targetsSelf = false)
    (took : card ∈ r.taken setup t zone) : card ∈ (t.side r.actor).cardsIn zone := by
  by_cases chosen : r.targets = []
  · exact (fits_of_taken others chosen took).there
  · rw [taken_of_chosen others chosen] at took
    unfold settled at took
    dsimp only at took
    split at took
    · split at took
      · have fitting := (List.mem_filter.1 took).2
        rw [Bool.and_eq_true] at fitting
        exact Side.holds_iff.1 fitting.1
      · cases took
    · exact Side.holds_iff.1 (List.mem_filter.1 (List.mem_of_mem_take took)).2

end Request

namespace Resolution

variable {setup : Setup} {r : Request} {s : Scene} {card : CardRef} {pile : Pile}

/-- Carries out nothing further. -/
def nothingFurther : FollowUp := fun _ _ _ s => ([], s)

/-- The scene when an effect has acted by itself. -/
def acted (setup : Setup) (r : Request) (s : Scene) : Scene :=
  if (fault? setup r s.table).isSome then s else (perform setup nothingFurther r s).2

/-- After an effect has taken its cards, only what it sets off is left to be carried out. -/
theorem acted_steps (picks : r.effect.kind.picks) :
    Steps setup (acted setup r s) (run setup r s).2 := by
  have further :
      Steps setup (perform setup nothingFurther r s).2 (perform setup (fire setup) r s).2 := by
    unfold perform
    cases kind : r.effect.kind with
    | search => exact .refl
    | toHand => exact .refl
    | summon =>
      simp only [summon]
      split
      · exact .refl
      · exact (fire_course _ _ _ _).steps
    | _ => simp [kind, EffectKind.picks] at picks
  unfold acted run runWith
  cases fault? setup r s.table with
  | some fault => exact .refl
  | none =>
    refine further.trans ?_
    dsimp only
    split
    · exact .single (.act (.use r _))
    · exact .refl

theorem table_returnToHand (actor : Seat) (card : CardRef) (s : Scene) :
    (returnToHand setup actor card s).2.table = s.table.moveToPile card .hand .top := by
  unfold returnToHand Table.moveToPile
  cases s.table.moveToPile? card .hand .top <;> rfl

theorem acted_of_allowed (allowed : fault? setup r s.table = none) :
    acted setup r s = (perform setup nothingFurther r s).2 := by
  simp [acted, allowed]

theorem acted_of_fault {fault : String} (forbidden : fault? setup r s.table = some fault) :
    acted setup r s = s := by
  simp [acted, forbidden]

/-- A search moves its candidates and then shuffles the deck. -/
theorem stays_search (other : card ∉ r.candidates setup s.table r.actor .deck) :
    Table.Stays card s.table (search setup r s).2.table := by
  unfold search
  dsimp only
  split
  · exact .refl card s.table
  · have stays : Table.Stays card s.table
        (s.each (takeFromDeck setup r.actor) (r.candidates setup s.table r.actor .deck)).2.table :=
      Scene.stays_each (fun _ _ => rfl) other s
    exact stays.trans (Table.stays_shuffleDeck _ r.actor)

theorem not_stays_search (placed : s.table.Placed [])
    (there : card ∈ (s.side r.actor).cardsIn .deck)
    (took : card ∈ r.candidates setup s.table r.actor .deck) :
    ¬ Table.Stays card s.table (search setup r s).2.table := by
  intro stays
  let moved := s.each (takeFromDeck setup r.actor) (r.candidates setup s.table r.actor .deck)
  have some : (r.candidates setup s.table r.actor .deck).isEmpty = false := by
    simpa using List.ne_nil_of_mem took
  have made : (search setup r s).2.table = moved.2.table.shuffleDeck r.actor := by
    simp only [search, some, Bool.false_eq_true, ↓reduceIte]
    rfl
  have other : Zone.deck ≠ Pile.hand.zone := nofun
  have gone : card ∉ (moved.2.side r.actor).cardsIn .deck :=
    Scene.not_mem_each (fun _ _ => rfl) placed there other took
  have shuffled : Table.Stays card moved.2.table (moved.2.table.shuffleDeck r.actor) :=
    Table.stays_shuffleDeck moved.2.table r.actor
  rw [made] at stays
  exact gone ((shuffled.zones r.actor .deck).1 ((stays.zones r.actor .deck).2 there))

/-- A recovery from a pile moves its candidates. -/
theorem table_toHand (source : r.effect.source = some pile.zone) :
    (toHand setup r s).2.table =
      (s.each (returnToHand setup r.actor)
        (r.candidates setup s.table r.actor pile.zone)).2.table := by
  have other : pile.zone ≠ .board := by cases pile <;> decide
  unfold toHand
  simp only [source, Option.getD_some, other, decide_false, Bool.false_and, Bool.false_eq_true,
    ↓reduceIte]
  split
  · next none =>
    rw [List.isEmpty_iff.1 none]
    rfl
  · rfl

theorem stays_summon (source : r.effect.source = some pile.zone)
    (kind : r.effect.kind = .summon) (other : card ∉ r.taken setup s.table pile.zone) :
    Table.Stays card s.table (summon setup nothingFurther r s).2.table := by
  unfold summon
  split
  · exact .refl card s.table
  · next summoned printed there found =>
    obtain ⟨room, chosen, known, monster, left, -, rfl⟩ := specialSummoned_eq_ok.1 found
    rw [source, Option.getD_some] at chosen
    have ne : card ≠ summoned := by
      rintro rfl
      exact other ((Request.mem_taken_summon kind).2 ⟨room, chosen, printed, known, monster⟩)
    exact Table.stays_modifySide ((Side.stays_remove left ne).trans (Side.stays_placeMonster ne))

theorem not_stays_summon (placed : s.table.Placed []) (source : r.effect.source = some pile.zone)
    (others : r.effect.targetsSelf = false) (kind : r.effect.kind = .summon)
    (took : card ∈ r.taken setup s.table pile.zone) :
    ¬ Table.Stays card s.table (summon setup nothingFurther r s).2.table := by
  have there : card ∈ (s.side r.actor).cardsIn pile.zone := Request.mem_zone_of_taken others took
  obtain ⟨room, chosen, printed, known, monster⟩ := (Request.mem_taken_summon kind).1 took
  have held : ∃ left, (s.side r.actor).zoneOf? card = some left := by
    refine Option.ne_none_iff_exists'.1 fun none => ?_
    exact Side.zoneOf?_eq_none.1 none (Side.mem_cards_of_mem there)
  obtain ⟨left, held⟩ := held
  have found := specialSummoned_eq_ok.2
    ⟨room, by rwa [source, Option.getD_some], known, monster, left, held, rfl⟩
  intro stays
  unfold summon at stays
  simp only [found] at stays
  have arrived : card ∈ (s.side r.actor).cardsIn .board := by
    refine (stays.zones r.actor .board).1 ?_
    show card ∈ ((s.table.modifySide r.actor _).side r.actor).cardsIn .board
    rw [Table.side_modifySide_self]
    simp [Side.placeMonster, Side.cardsIn, arrival, Monster.faceUp]
  exact absurd (placed.zone_unique there arrived) (by cases pile <;> decide)

/-- What an effect takes is all that it moves by itself. -/
theorem stays_acted (picks : r.effect.kind.picks) (aim : r.effect.PicksFrom pile)
    (other : card ∉ r.taken setup s.table pile.zone) :
    Table.Stays card s.table (acted setup r s).table := by
  cases forbidden : fault? setup r s.table with
  | some fault =>
    rw [acted_of_fault forbidden]
    exact .refl card s.table
  | none =>
    rw [acted_of_allowed forbidden]
    unfold perform
    cases kind : r.effect.kind with
    | search =>
      obtain rfl := aim.search kind
      rw [Request.taken_of_ne_summon (by simp [kind])] at other
      exact stays_search other
    | toHand =>
      rw [Request.taken_of_ne_summon (by simp [kind])] at other
      show Table.Stays card s.table (toHand setup r s).2.table
      rw [table_toHand aim.source]
      exact Scene.stays_each (table_returnToHand r.actor) other s
    | summon => exact stays_summon aim.source kind other
    | _ => simp [kind, EffectKind.picks] at picks

/-- In a table that is in order, an effect that nothing forbids moves what it takes. -/
theorem not_stays_acted (placed : s.table.Placed []) (allowed : fault? setup r s.table = none)
    (picks : r.effect.kind.picks) (aim : r.effect.PicksFrom pile)
    (took : card ∈ r.taken setup s.table pile.zone) :
    ¬ Table.Stays card s.table (acted setup r s).table := by
  have there : card ∈ (s.side r.actor).cardsIn pile.zone :=
    Request.mem_zone_of_taken aim.others took
  rw [acted_of_allowed allowed]
  unfold perform
  cases kind : r.effect.kind with
  | search =>
    obtain rfl := aim.search kind
    rw [Request.taken_of_ne_summon (by simp [kind])] at took
    exact not_stays_search placed there took
  | toHand =>
    obtain rfl := aim.toHand kind
    rw [Request.taken_of_ne_summon (by simp [kind])] at took
    show ¬ Table.Stays card s.table (toHand setup r s).2.table
    rw [table_toHand aim.source]
    intro stays
    have other : Pile.graveyard.zone ≠ Pile.hand.zone := nofun
    exact Scene.not_mem_each (table_returnToHand r.actor) placed there other took
      ((stays.zones r.actor _).2 there)
  | summon => exact not_stays_summon placed aim.source aim.others kind took
  | _ => simp [kind, EffectKind.picks] at picks

/-- Of every effect that is read from a text and that takes cards of a described kind out of a pile
into the hand or onto the board: without targets, each card that the effect moves by itself lies in
that pile and meets the condition, as printed.  With targets it moves just what the choice comes
down to, and does not look at the condition: nothing else ever, and all of it if every card is in
one place and no rule for all effects forbids it.  What happens after that is what the effect sets
off. -/
theorem condition_binds_unless_chosen (setup : Setup) (text : String) (e : Effect) (c : String)
    (read : e ∈ (readAbility text).effects) (picks : e.kind.picks)
    (described : e.condition = some c)
    (actor : Seat) (source : Option CardRef) (targets : List CardRef) (s : Scene) :
    ∃ pile : Pile, e.source = some pile.zone ∧
      let r : Request := ⟨e, actor, source, targets⟩
      Steps setup (acted setup r s) (run setup r s).2 ∧
      (targets = [] → ∀ card, ¬ Table.Stays card s.table (acted setup r s).table →
        card ∈ (s.side actor).cardsIn pile.zone ∧
          ∃ printed, setup.card? s.table card = some printed ∧ printed.meets c) ∧
      (targets ≠ [] →
        (∀ card, ¬ Table.Stays card s.table (acted setup r s).table →
          card ∈ r.settled setup s.table pile.zone) ∧
        (s.table.Placed [] → fault? setup r s.table = none →
          ∀ card ∈ r.settled setup s.table pile.zone,
            ¬ Table.Stays card s.table (acted setup r s).table)) := by
  obtain ⟨pile, aim⟩ := picksFrom_of_read read picks described
  let r : Request := ⟨e, actor, source, targets⟩
  have took (card : CardRef) (moved : ¬ Table.Stays card s.table (acted setup r s).table) :
      card ∈ r.taken setup s.table pile.zone := by
    by_contra other
    exact moved (stays_acted picks aim other)
  refine ⟨pile, aim.source, acted_steps picks, fun nobody card moved => ?_, fun chosen => ?_⟩
  · have fits := Request.fits_of_taken aim.others nobody (took card moved)
    exact ⟨fits.there, fits.meets described⟩
  · have same : r.taken setup s.table pile.zone = r.settled setup s.table pile.zone :=
      Request.taken_of_chosen aim.others chosen
    refine ⟨fun card moved => same ▸ took card moved, fun placed allowed card settled => ?_⟩
    exact not_stays_acted placed allowed picks aim (same ▸ settled)

end Resolution

namespace Sample

/-- A spell whose text asks for a dragon. -/
def call : String := "Add 1 dragon monster from your deck to your hand."

/-- The effect that is read from it. -/
def dragonSearch : Effect where
  kind := .search
  value := 1
  condition := some "dragon"
  source := some .deck
  text := "Add 1 dragon monster from your deck to your hand"

end Sample

namespace Resolution

open Sample in
/-- No card of the deck is a dragon.  The rite moves if it is chosen, and nothing moves if nothing
is. -/
theorem rite_answers_call :
    dragonSearch ∈ (readAbility call).effects ∧ rite.meets "dragon" = false ∧
      ¬ Table.Stays ⟨1⟩ dealt.table
        (acted setup ⟨dragonSearch, .host, none, [⟨1⟩]⟩ dealt).table ∧
      ∀ card, Table.Stays card dealt.table
        (acted setup ⟨dragonSearch, .host, none, []⟩ dealt).table := by
  have read : dragonSearch ∈ (readAbility call).effects := by decide +kernel
  have placed : dealt.table.Placed [] :=
    (Table.addCards_spec _ _ (Table.placed_of_start _ _) (Table.fresh_start _ _)).1
  obtain ⟨pile, from_, -, -, chosen⟩ := condition_binds_unless_chosen setup call dragonSearch
    "dragon" read rfl rfl .host none [⟨1⟩] dealt
  obtain ⟨pile', from', -, nobody, -⟩ := condition_binds_unless_chosen setup call dragonSearch
    "dragon" read rfl rfl .host none [] dealt
  refine ⟨read, by decide +kernel, ?_, fun card => ?_⟩
  · obtain rfl : pile = .deck := by cases pile <;> first | rfl | cases from_
    exact (chosen nofun).2 placed (by decide +kernel) ⟨1⟩ (by decide +kernel)
  · obtain rfl : pile' = .deck := by cases pile' <;> first | rfl | cases from'
    by_contra moved
    obtain ⟨there, printed, known, fits⟩ := nobody rfl card moved
    have none : ∀ card ∈ (dealt.side .host).deck,
        (setup.card? dealt.table card).all (fun printed => !printed.meets "dragon") := by
      decide +kernel
    have misfit := none card there
    rw [known, Option.all_some, fits] at misfit
    cases misfit

end Resolution

end CardDuel
