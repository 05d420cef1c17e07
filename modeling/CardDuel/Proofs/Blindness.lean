import CardDuel.Proofs.Census
import CardDuel.Resolution.Run

/-!
# Effects do not see the chain

What an effect does depends on neither the cards that wait on the chain nor the log.  Two
scenes that differ in these only are alike: the same effect ends the same way on both, and
leaves them alike.

* `Table.withChained`: a table with other cards on the chain.  Reading a table commutes with
  it, and so does every change that effects make.
* `Scene.Alike`, `Scene.Agree`: two scenes that are alike, and two answers on them.
* `Resolution.Blind`: a function that answers alike scenes alike.  `blind_draw`,
  `blind_destroy` and so on: one lemma for each kind of effect.
* `blind_fire` and `blind_run`: effects with all that they set off.
-/

namespace CardDuel

/-- The table with other cards on the chain. -/
def Table.withChained (t : Table) (chained : CardSet) : Table := { t with chained := chained }

namespace Table

variable (t : Table) (chained : CardSet)

theorem shuffleDeck_withChained (seat : Seat) :
    (t.withChained chained).shuffleDeck seat = (t.shuffleDeck seat).withChained chained := rfl

theorem moveToPile?_withChained (card : CardRef) (pile : Pile) (place : DeckPlace) :
    (t.withChained chained).moveToPile? card pile place =
      (t.moveToPile? card pile place).map fun (zone, moved) =>
        (zone, moved.withChained chained) := by
  have owner : (t.withChained chained).owner? card = t.owner? card := rfl
  have there : (t.withChained chained).locate? card = t.locate? card := rfl
  unfold moveToPile?
  rw [owner, there]
  cases t.owner? card with
  | none => rfl
  | some owner =>
    cases t.locate? card with
    | none => rfl
    | some found => rfl

theorem moveToPile_withChained (card : CardRef) (pile : Pile) (place : DeckPlace) :
    (t.withChained chained).moveToPile card pile place =
      (t.moveToPile card pile place).withChained chained := by
  unfold moveToPile
  rw [moveToPile?_withChained]
  cases t.moveToPile? card pile place with
  | none => rfl
  | some moved => rfl

theorem modifyMonster_withChained (card : CardRef) (change : Monster → Monster) :
    (t.withChained chained).modifyMonster card change =
      (t.modifyMonster card change).withChained chained := by
  have there : (t.withChained chained).monster? card = t.monster? card := rfl
  unfold modifyMonster
  rw [there]
  cases t.monster? card with
  | none => rfl
  | some found => rfl

end Table

/-! ## Scenes that are alike -/

namespace Scene

variable {α β : Type} {chained : CardSet} {s s' : Scene}

/-- The second scene has other cards on the chain and perhaps another log, and is like the
first one apart from that. -/
structure Alike (chained : CardSet) (s s' : Scene) : Prop where
  table : s'.table = s.table.withChained chained
  overrun : s'.overrun = s.overrun

/-- Two answers are the same, and the scenes that come with them are alike. -/
def Agree (chained : CardSet) (x x' : α × Scene) : Prop := x'.1 = x.1 ∧ Alike chained x.2 x'.2

/-- What does not look at the chain reads the same on both. -/
theorem Alike.reads (h : Alike chained s s') (read : Table → β)
    (blind : ∀ t : Table, read (t.withChained chained) = read t) :
    read s'.table = read s.table := by
  rw [h.table, blind]

theorem Alike.side (h : Alike chained s s') (seat : Seat) : s'.side seat = s.side seat :=
  h.reads (·.side seat) fun _ => rfl

theorem Alike.locate? (h : Alike chained s s') (card : CardRef) :
    s'.table.locate? card = s.table.locate? card :=
  h.reads (·.locate? card) fun _ => rfl

theorem Alike.monster? (h : Alike chained s s') (card : CardRef) :
    s'.table.monster? card = s.table.monster? card :=
  h.reads (·.monster? card) fun _ => rfl

theorem Alike.owner? (h : Alike chained s s') (card : CardRef) :
    s'.table.owner? card = s.table.owner? card :=
  h.reads (·.owner? card) fun _ => rfl

theorem Alike.card? (h : Alike chained s s') (setup : Setup) (card : CardRef) :
    setup.card? s'.table card = setup.card? s.table card :=
  h.reads (setup.card? · card) fun _ => rfl

theorem Alike.nameOf (h : Alike chained s s') (setup : Setup) (card : CardRef) :
    setup.nameOf s'.table card = setup.nameOf s.table card :=
  h.reads (setup.nameOf · card) fun _ => rfl

theorem Alike.record (h : Alike chained s s') (news news' : News) :
    Alike chained (s.record news) (s'.record news') := ⟨h.table, h.overrun⟩

theorem Alike.reserve (h : Alike chained s s') (count : Nat) :
    Alike chained (s.reserve count) (s'.reserve count) :=
  ⟨h.table, by rw [overrun_reserve, overrun_reserve, h.overrun]⟩

theorem Alike.change (h : Alike chained s s') {f f' : Table → Table}
    (commutes : f' (s.table.withChained chained) = (f s.table).withChained chained) :
    Alike chained (s.change f) (s'.change f') := by
  refine ⟨?_, h.overrun⟩
  show f' s'.table = _
  rw [h.table, commutes]
  rfl

theorem Alike.moveToPile (h : Alike chained s s') (card : CardRef) (pile : Pile)
    (place : DeckPlace) :
    Alike chained (s.change (·.moveToPile card pile place))
      (s'.change (·.moveToPile card pile place)) :=
  h.change (Table.moveToPile_withChained _ _ card pile place)

end Scene

namespace Resolution

open Scene

/-- The function answers alike scenes alike. -/
def Blind {α : Type} (f : Scene → α × Scene) : Prop :=
  ∀ ⦃chained : CardSet⦄ ⦃s s' : Scene⦄, Alike chained s s' → Agree chained (f s) (f s')

theorem blind_each {α β : Type} {act : α → Scene → β × Scene} (h : ∀ x, Blind (act x))
    (xs : List α) : Blind (Scene.each act xs) := by
  intro chained s s' alike
  induction xs generalizing s s' with
  | nil => exact ⟨rfl, alike⟩
  | cons x xs ih =>
    obtain ⟨same, after⟩ := h x alike
    obtain ⟨rest, final⟩ := ih after
    refine ⟨?_, final⟩
    rw [Scene.each_cons, Scene.each_cons, same]
    exact congrArg (List.cons _) rest

variable (setup : Setup)

/-! ## Hand and deck -/

theorem blind_draw (seat : Seat) (count : Nat) : Blind (draw seat count) := by
  intro chained s s' alike
  unfold draw
  rw [alike.side]
  dsimp only
  split
  · exact ⟨rfl, ((alike.reserve count).change rfl).record _ _⟩
  · exact ⟨rfl, ((alike.reserve count).change rfl).record _ _⟩

theorem blind_millTop (seat : Seat) (card : CardRef) : Blind (millTop setup seat card) :=
  fun _ _ _ alike => ⟨rfl, (alike.change rfl).record _ _⟩

theorem blind_mill (seat : Seat) (count : Nat) : Blind (mill setup seat count) := by
  intro chained s s' alike
  unfold mill
  rw [alike.side]
  dsimp only
  have milled := blind_each (blind_millTop setup seat) ((s.side seat).deck.take count) alike
  split
  · exact ⟨rfl, alike⟩
  · split
    · exact ⟨rfl, milled.2⟩
    · exact ⟨rfl, milled.2⟩

theorem blind_discardCard (seat : Seat) (card : CardRef) : Blind (discardCard setup seat card) :=
  fun _ _ _ alike =>
    ⟨rfl, (alike.moveToPile _ _ _).record _ _⟩

theorem blind_discard (seat : Seat) (count : Nat) (targets : List CardRef) :
    Blind (discard setup seat count targets) := by
  intro chained s s' alike
  have rng : s'.table.rng = s.table.rng := alike.reads (·.rng) fun _ => rfl
  unfold discard
  rw [alike.side, rng]
  dsimp only
  generalize (if targets.isEmpty then _ else _ : List CardRef × Rng) = choice
  obtain ⟨pool, rng⟩ := choice
  have chosen :
      Alike chained (s.change ({ · with rng := rng })) (s'.change ({ · with rng := rng })) :=
    alike.change rfl
  have discarded := blind_each (blind_discardCard setup seat) (pool.take count) chosen
  dsimp only
  split
  · exact ⟨rfl, chosen⟩
  · split
    · exact ⟨rfl, discarded.2⟩
    · exact ⟨rfl, discarded.2⟩

theorem blind_takeFromDeck (seat : Seat) (card : CardRef) :
    Blind (takeFromDeck setup seat card) := fun _ _ _ alike =>
  ⟨alike.nameOf setup card, (alike.moveToPile _ _ _).record _ _⟩

theorem candidates_alike {chained : CardSet} {s s' : Scene} (alike : Alike chained s s')
    (r : Request) (seat : Seat) (zone : Zone) :
    r.candidates setup s'.table seat zone = r.candidates setup s.table seat zone :=
  alike.reads (r.candidates setup · seat zone) fun _ => rfl

theorem blind_search (r : Request) : Blind (search setup r) := by
  intro chained s s' alike
  unfold search
  dsimp only
  rw [candidates_alike setup alike]
  split
  · exact ⟨rfl, alike⟩
  · obtain ⟨names, taken⟩ := blind_each (blind_takeFromDeck setup r.actor)
      (r.candidates setup s.table r.actor .deck) alike
    refine ⟨?_, (taken.change (Table.shuffleDeck_withChained _ _ _)).record _ _⟩
    rw [names]

/-! ## Targets that go elsewhere -/

/-- A card that is moved to a pile is moved on both. -/
theorem moveToPile?_alike {chained : CardSet} {s s' : Scene} (alike : Alike chained s s')
    (card : CardRef) (pile : Pile) (place : DeckPlace) :
    s'.table.moveToPile? card pile place =
      (s.table.moveToPile? card pile place).map
        fun (zone, moved) => (zone, moved.withChained chained) := by
  rw [alike.table, Table.moveToPile?_withChained]

theorem blind_returnToHand (actor : Seat) (card : CardRef) :
    Blind (returnToHand setup actor card) := by
  intro chained s s' alike
  unfold returnToHand
  rw [moveToPile?_alike alike]
  cases s.table.moveToPile? card .hand .top with
  | none => exact ⟨rfl, alike⟩
  | some moved => exact ⟨congrArg some (alike.nameOf setup card), (alike.change rfl).record _ _⟩

theorem blind_toHand (r : Request) : Blind (toHand setup r) := by
  intro chained s s' alike
  have chosen : (r.targets.filter fun card => (s'.table.monster? card).isSome) =
      r.targets.filter fun card => (s.table.monster? card).isSome :=
    alike.reads (fun t => r.targets.filter fun card => (t.monster? card).isSome) fun _ => rfl
  unfold toHand
  dsimp only
  rw [candidates_alike setup alike, chosen]
  split
  · exact ⟨rfl, alike⟩
  · generalize (if r.effect.source.getD .graveyard = .board then _ else _ : List CardRef) = cards
    obtain ⟨names, moved⟩ := blind_each (blind_returnToHand setup r.actor) cards alike
    split
    · exact ⟨rfl, alike⟩
    · refine ⟨?_, moved⟩
      rw [names]

theorem blind_sendToGraveyard (actor : Seat) (card : CardRef) :
    Blind (sendToGraveyard setup actor card) := by
  intro chained s s' alike
  unfold sendToGraveyard
  rw [moveToPile?_alike alike]
  cases s.table.moveToPile? card .graveyard .top with
  | none => exact ⟨rfl, alike⟩
  | some moved => exact ⟨congrArg some (alike.nameOf setup card), (alike.change rfl).record _ _⟩

theorem blind_toGraveyard (r : Request) : Blind (toGraveyard setup r) := by
  intro chained s s' alike
  have chosen : r.targets.filter (isOutsideGraveyard s'.table) =
      r.targets.filter (isOutsideGraveyard s.table) :=
    alike.reads (fun t => r.targets.filter (isOutsideGraveyard t)) fun _ => rfl
  have sending (cards : List CardRef) :
      Agree chained
        (if cards.isEmpty then (noTarget, s)
          else (Outcome.done ("Sent " ++ ", ".intercalate
            ((s.each (sendToGraveyard setup r.actor) cards).1.filterMap id) ++ " to the graveyard"),
              (s.each (sendToGraveyard setup r.actor) cards).2))
        (if cards.isEmpty then (noTarget, s')
          else (Outcome.done ("Sent " ++ ", ".intercalate
            ((s'.each (sendToGraveyard setup r.actor) cards).1.filterMap id) ++ " to the graveyard"),
              (s'.each (sendToGraveyard setup r.actor) cards).2)) := by
    obtain ⟨names, moved⟩ := blind_each (blind_sendToGraveyard setup r.actor) cards alike
    split
    · exact ⟨rfl, alike⟩
    · refine ⟨?_, moved⟩
      rw [names]
  unfold toGraveyard
  cases r.effect.source with
  | none =>
    dsimp only
    rw [chosen]
    exact sending _
  | some zone =>
    dsimp only
    rw [candidates_alike setup alike, chosen]
    exact sending _

theorem blind_returnToDeck (r : Request) : Blind (returnToDeck setup r) := by
  intro chained s s' alike
  unfold returnToDeck
  dsimp only
  cases r.targets with
  | nil => exact ⟨rfl, alike⟩
  | cons target rest =>
    dsimp only
    rw [alike.locate?, alike.nameOf]
    cases s.table.locate? target with
    | none => exact ⟨rfl, alike⟩
    | some found =>
      dsimp only
      split
      · exact ⟨rfl, (alike.moveToPile _ _ _).record _ _⟩
      · exact ⟨rfl, alike⟩

theorem blind_banishCard (source : Option Zone) (target : CardRef) :
    Blind (banishCard setup source target) := by
  intro chained s s' alike
  unfold banishCard
  dsimp only
  rw [alike.locate?, alike.nameOf]
  cases s.table.locate? target with
  | none => exact ⟨rfl, alike⟩
  | some found =>
    dsimp only
    split
    · exact ⟨rfl, alike⟩
    · exact ⟨rfl, (alike.moveToPile _ _ _).record _ _⟩

theorem blind_banish (r : Request) : Blind (banish setup r) := by
  intro chained s s' alike
  unfold banish
  split
  · exact ⟨rfl, alike⟩
  · obtain ⟨parts, moved⟩ := blind_each
      (blind_banishCard setup r.effect.source) r.limitedTargets alike
    exact ⟨congrArg Outcome.allOf parts, moved⟩

/-! ## Effects that move no card -/

theorem blind_changeLife (seat : Seat) (change : Int) {chained : CardSet} {s s' : Scene}
    (alike : Alike chained s s') :
    Alike chained (changeLife seat change s) (changeLife seat change s') := by
  unfold changeLife
  rw [alike.side]
  exact (alike.change rfl).record _ _

theorem blind_damage (actor : Seat) (amount : Int) : Blind (damage actor amount) := by
  intro chained s s' alike
  have after := blind_changeLife actor.other (-(max amount 0)) alike
  unfold damage
  dsimp only
  rw [alike.side, after.side]
  exact ⟨rfl, after⟩

theorem blind_gainLife (actor : Seat) (amount : Int) : Blind (gainLife actor amount) := by
  intro chained s s' alike
  have after := blind_changeLife actor (max amount 0) alike
  unfold gainLife
  dsimp only
  rw [alike.side, after.side]
  exact ⟨rfl, after⟩

theorem blind_modifyAttack (r : Request) : Blind (modifyAttack setup r) := by
  intro chained s s' alike
  unfold modifyAttack
  dsimp only
  split
  · exact ⟨rfl, alike⟩
  · split
    · exact ⟨rfl, alike⟩
    · next target _ =>
      rw [alike.monster?, alike.nameOf]
      cases s.table.monster? target with
      | none => exact ⟨rfl, alike⟩
      | some found =>
        exact ⟨rfl, (alike.change (Table.modifyMonster_withChained _ _ _ _)).record _ _⟩

theorem blind_negate (r : Request) : Blind (Resolution.negate setup r) := by
  intro chained s s' alike
  unfold Resolution.negate
  cases r.targets with
  | nil => exact ⟨rfl, alike⟩
  | cons target rest =>
    have known : s'.table.knows target = s.table.knows target :=
      alike.reads (·.knows target) fun _ => rfl
    dsimp only
    rw [known, alike.nameOf]
    split
    · exact ⟨rfl, (alike.change rfl).record _ _⟩
    · exact ⟨rfl, alike⟩

/-! ## Coming onto the field and leaving it -/

/-- A card is destroyed on both, or on neither for the same reason. -/
theorem destroyed_alike {chained : CardSet} {s s' : Scene} (alike : Alike chained s s')
    (target : CardRef) :
    (∃ fault, destroyed setup target s = .error fault ∧ destroyed setup target s' = .error fault) ∨
      ∃ owner gone gone', destroyed setup target s = .ok (owner, gone) ∧
        destroyed setup target s' = .ok (owner, gone') ∧ Alike chained gone gone' := by
  unfold destroyed
  dsimp only
  rw [alike.locate?, alike.nameOf, alike.monster?, alike.owner?]
  cases s.table.locate? target with
  | none => exact .inl ⟨_, rfl, rfl⟩
  | some found =>
    dsimp only
    split
    · exact .inl ⟨_, rfl, rfl⟩
    · split
      · exact .inl ⟨_, rfl, rfl⟩
      · exact .inr ⟨_, _, _, rfl, rfl, (alike.moveToPile _ _ _).record _ _⟩

/-- A monster is summoned on both, or on neither for the same reason. -/
theorem specialSummoned_alike {chained : CardSet} {s s' : Scene} (alike : Alike chained s s')
    (r : Request) :
    (∃ fault, specialSummoned setup r s = .error fault ∧
        specialSummoned setup r s' = .error fault) ∨
      ∃ card printed there there', specialSummoned setup r s = .ok (card, printed, there) ∧
        specialSummoned setup r s' = .ok (card, printed, there') ∧ Alike chained there there' := by
  have candidate (zone : Zone) :
      summonCandidate? setup r zone s'.table = summonCandidate? setup r zone s.table :=
    alike.reads (summonCandidate? setup r zone) fun _ => rfl
  have turn : s'.table.turn = s.table.turn := alike.reads (·.turn) fun _ => rfl
  unfold specialSummoned
  dsimp only
  rw [alike.side, candidate, turn]
  split
  · exact .inl ⟨_, rfl, rfl⟩
  · cases summonCandidate? setup r (r.effect.source.getD .hand) s.table with
    | none => exact .inl ⟨_, rfl, rfl⟩
    | some card =>
      dsimp only
      rw [alike.card?]
      cases setup.card? s.table card with
      | none => exact .inl ⟨_, rfl, rfl⟩
      | some printed =>
        dsimp only
        split
        · exact .inl ⟨_, rfl, rfl⟩
        · cases (s.side r.actor).take? card with
          | none => exact .inl ⟨_, rfl, rfl⟩
          | some taken => exact .inr ⟨_, _, _, _, rfl, rfl, (alike.change rfl).record _ _⟩

section

variable {followUp : FollowUp} (follows : ∀ card seat timing, Blind (followUp card seat timing))

include follows

theorem blind_destroyCard (target : CardRef) : Blind (destroyCard setup followUp target) := by
  intro chained s s' alike
  unfold destroyCard
  rcases destroyed_alike setup alike target with
    ⟨fault, first, second⟩ | ⟨owner, gone, gone', first, second, after⟩
  · rw [first, second]
    exact ⟨rfl, alike⟩
  · obtain ⟨parts, final⟩ := follows target owner .onDestroy after
    rw [first, second]
    refine ⟨?_, final⟩
    show withFollowUps _ _ = withFollowUps _ _
    rw [parts, alike.nameOf]

theorem blind_destroy (r : Request) : Blind (destroy setup followUp r) := by
  intro chained s s' alike
  unfold destroy
  split
  · exact ⟨rfl, alike⟩
  · obtain ⟨parts, final⟩ := blind_each
      (blind_destroyCard setup follows) r.limitedTargets alike
    exact ⟨congrArg Outcome.allOf parts, final⟩

theorem blind_summon (r : Request) : Blind (summon setup followUp r) := by
  intro chained s s' alike
  unfold summon
  rcases specialSummoned_alike setup alike r with
    ⟨fault, first, second⟩ | ⟨card, printed, there, there', first, second, after⟩
  · rw [first, second]
    exact ⟨rfl, alike⟩
  · obtain ⟨parts, final⟩ := follows card r.actor .onSummon after
    rw [first, second]
    exact ⟨congrArg (withFollowUps _) parts, final⟩

/-! ## Carrying effects out -/

theorem blind_perform (r : Request) : Blind (perform setup followUp r) := by
  intro chained s s' alike
  unfold perform
  cases r.effect.kind with
  | draw => exact blind_draw _ _ alike
  | mill => exact blind_mill setup _ _ alike
  | discard => exact blind_discard setup _ _ _ alike
  | destroy => exact blind_destroy setup follows r alike
  | banish => exact blind_banish setup r alike
  | damage => exact blind_damage _ _ alike
  | gainLife => exact blind_gainLife _ _ alike
  | toHand => exact blind_toHand setup r alike
  | search => exact blind_search setup r alike
  | toGraveyard => exact blind_toGraveyard setup r alike
  | returnToDeck => exact blind_returnToDeck setup r alike
  | modifyAttack => exact blind_modifyAttack setup r alike
  | summon => exact blind_summon setup follows r alike
  | negate => exact blind_negate setup r alike
  | protection => exact ⟨rfl, alike⟩

omit follows in
theorem alike_markUsed {chained : CardSet} {s s' : Scene} (alike : Alike chained s s')
    (r : Request) : Alike chained (markUsed r s) (markUsed r s') := by
  unfold markUsed
  split
  · split
    · exact alike.change rfl
    · exact alike
  · exact alike

omit follows in
theorem fault?_alike {chained : CardSet} {s s' : Scene} (alike : Alike chained s s')
    (r : Request) : fault? setup r s'.table = fault? setup r s.table :=
  alike.reads (fault? setup r) fun _ => rfl

theorem blind_runWith (r : Request) : Blind (runWith setup followUp r) := by
  intro chained s s' alike
  unfold runWith
  rw [fault?_alike setup alike]
  cases fault? setup r s.table with
  | some fault => exact ⟨rfl, alike⟩
  | none =>
    obtain ⟨outcome, after⟩ := blind_perform setup follows r alike
    refine ⟨outcome, ?_⟩
    dsimp only
    rw [outcome]
    split
    · exact alike_markUsed after r
    · exact after

theorem blind_trigger (card : CardRef) (seat : Seat) (timing : Timing) (e : Effect) :
    Blind (trigger setup followUp card seat timing e) :=
  fun _ _ _ alike => blind_runWith setup follows _ (alike.record _ _)

end

/-- What happens by itself does not see the chain, however deep it goes. -/
theorem blind_fireWithin (depth : Nat) (card : CardRef) (seat : Seat) (timing : Timing) :
    Blind (fireWithin setup depth card seat timing) := by
  induction depth generalizing card seat timing with
  | zero => exact fun _ _ _ alike => ⟨rfl, alike⟩
  | succ depth ih =>
    intro chained s s' alike
    have ability : setup.abilityOf s'.table card = setup.abilityOf s.table card :=
      alike.reads (setup.abilityOf · card) fun _ => rfl
    unfold fireWithin
    rw [ability]
    exact blind_each (blind_trigger setup ih card seat timing) _ alike

theorem blind_fire (card : CardRef) (seat : Seat) (timing : Timing) :
    Blind (fire setup card seat timing) :=
  blind_fireWithin setup _ card seat timing

/-- An activated effect does not see the chain. -/
theorem blind_run (r : Request) : Blind (run setup r) := blind_runWith setup (blind_fire setup) r

end Resolution

end CardDuel
