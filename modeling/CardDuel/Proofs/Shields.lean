import CardDuel.Proofs.Spans

/-!
# Protection holds

A text may say that its monster cannot be destroyed by card effects, or that it cannot be chosen as
a target.  This is read from the text once.  Each way onto the board then writes it down on the
monster, and destruction and the choice of targets look it up there.

* `Event.Destroys`: the event tells that an effect destroyed a card on a board.
* `Scene.Spares`: the log has grown, and no new event tells this of a card that is safe from it.
  `Scene.Spared`: no event does.
* `Act.spares`, `Motion.spares`, `Response.spares` and `Action.spares`: whatever happens in a match
  is of this kind.
* `Resolution.runWith_of_veiled`: an effect with a target that cannot be chosen is refused.
* `Arena.protection_holds`: both statements over all calls that an arena may serve.
-/

namespace CardDuel

open Resolution

/-! ## Destruction in the log -/

/-- These are the details of a card that an effect destroyed on a board. -/
structure Details.Destroys (details : Details) (card : CardRef) : Prop where
  about : details.About card
  place : details.get? "from" = some (.text Zone.board.label)
  reason : details.get? "reason" = some (.text "effect_destroy")

/-- The event tells that an effect destroyed a card on a board. -/
structure Event.Destroys (event : Event) (card : CardRef) : Prop where
  type : event.type = .cardToGraveyard
  details : event.details.Destroys card

/-- The news do not tell of a card that was destroyed. -/
def News.Harmless (news : News) : Prop :=
  news.type = .cardToGraveyard → news.details.get? "reason" ≠ some (.text "effect_destroy")

theorem News.harmless_of_type {news : News} (other : (news.type == .cardToGraveyard) = false) :
    news.Harmless :=
  fun same => absurd same (beq_eq_false_iff_ne.1 other)

/-- By its text the card cannot be destroyed by effects. -/
def Setup.Shields (setup : Setup) (t : Table) (card : CardRef) : Prop :=
  ∃ printed, setup.card? t card = some printed ∧ printed.ability.protection.fromEffects

namespace Scene

variable {setup : Setup} {s s' s'' : Scene}

/-- The log has grown, and no new event tells of a card that was destroyed though it is safe from
that.  There are the same cards as before. -/
structure Spares (setup : Setup) (s s' : Scene) : Prop where
  copies : s'.table.copies = s.table.copies
  told : ∃ new, s'.log.events = s.log.events ++ new ∧
    ∀ event ∈ new, ∀ card, event.Destroys card → ¬ setup.Shields s.table card

theorem Spares.refl (s : Scene) : Spares setup s s :=
  ⟨rfl, [], (List.append_nil _).symm, List.forall_mem_nil _⟩

theorem shields_of_copies {t t' : Table} (copies : t'.copies = t.copies) {card : CardRef} :
    setup.Shields t' card ↔ setup.Shields t card := by
  unfold Setup.Shields
  rw [Setup.card?_of_copies copies]

theorem Spares.trans (h : Spares setup s s') (h' : Spares setup s' s'') : Spares setup s s'' := by
  obtain ⟨new, log, spares⟩ := h.told
  obtain ⟨new', log', spares'⟩ := h'.told
  refine ⟨h'.copies.trans h.copies, new ++ new', by rw [log', log, List.append_assoc], ?_⟩
  intro event hm card destroys
  rcases List.mem_append.1 hm with old | new
  · exact spares event old card destroys
  · exact mt (shields_of_copies h.copies).2 (spares' event new card destroys)

/-- No event tells of a card that was destroyed though it is safe from that. -/
def Spared (setup : Setup) (s : Scene) : Prop :=
  ∀ event ∈ s.log.events, ∀ card, event.Destroys card → ¬ setup.Shields s.table card

theorem Spares.spared (h : Spares setup s s') (spared : s.Spared setup) : s'.Spared setup := by
  obtain ⟨new, log, spares⟩ := h.told
  intro event hm card destroys shields
  rw [log] at hm
  have shields := (shields_of_copies h.copies).1 shields
  rcases List.mem_append.1 hm with old | new
  · exact spared event old card destroys shields
  · exact spares event new card destroys shields

theorem spares_change {f : Table → Table} (copies : (f s.table).copies = s.table.copies) :
    Spares setup s (s.change f) :=
  ⟨copies, [], (List.append_nil _).symm, List.forall_mem_nil _⟩

/-- A change of the table with harmless news of it. -/
theorem spares_report {f : Table → Table} {news : News}
    (copies : (f s.table).copies = s.table.copies) (harmless : news.Harmless) :
    Spares setup s ((s.change f).record news) := by
  refine ⟨copies, [_], rfl, fun event hm card destroys => ?_⟩
  rw [List.mem_singleton.1 hm] at destroys
  exact absurd destroys.details.reason (harmless destroys.type)

theorem spares_record {news : News} (harmless : news.Harmless) : Spares setup s (s.record news) :=
  spares_report (f := id) rfl harmless

/-- Asking for room changes no card and tells nothing. -/
theorem spares_reserve (count : Nat) : Spares setup s (s.reserve count) :=
  ⟨rfl, [], (List.append_nil _).symm, List.forall_mem_nil _⟩

theorem spares_each {α β : Type} {act : α → Scene → β × Scene}
    (one : ∀ x s, Spares setup s (act x s).2) (xs : List α) (s : Scene) :
    Spares setup s (s.each act xs).2 :=
  each_keeps (fun x _ spares => spares.trans (one x _)) xs (.refl s)

end Scene

/-! ## Monsters on a board -/

namespace Table

variable {setup : Setup} {t : Table} {seat : Seat} {card : CardRef}

/-- A card on a board is a monster with the protection that its text gives. -/
theorem Legal.monster? (h : t.Legal setup) (there : card ∈ (t.side seat).cardsIn .board) :
    ∃ holder monster printed, t.monster? card = some (holder, monster) ∧
      setup.card? t card = some printed ∧ monster.protection = printed.ability.protection := by
  obtain ⟨lying, onBoard, named⟩ := List.mem_map.1 there
  have found : ∃ place, t.monster? card = some place := by
    refine Option.ne_none_iff_exists'.1 fun none => ?_
    have nowhere := List.findSome?_eq_none_iff.1 none seat (by cases seat <;> decide)
    have none := List.find?_eq_none.1 (Option.map_eq_none_iff.1 nowhere) lying onBoard
    exact none (by simp [named])
  obtain ⟨⟨holder, monster⟩, found⟩ := found
  obtain ⟨seat', -, answer⟩ := List.exists_of_findSome?_eq_some found
  obtain ⟨monster', held, same⟩ := Option.map_eq_some_iff.1 answer
  obtain ⟨rfl, rfl⟩ := Prod.mk.inj same
  have same : monster'.card = card := by simpa using List.find?_some held
  obtain ⟨printed, known, -, protection, -⟩ :=
    (h.monsters seat' monster' (List.mem_of_find?_eq_some held)).printed
  exact ⟨seat', monster', printed, found, same ▸ known, protection⟩

end Table

/-! ## What effects destroy -/

namespace Resolution

variable {setup : Setup} {s s' : Scene}

/-- What is destroyed on a board was not safe from it. -/
theorem spares_destroyed {target : CardRef} {owner : Seat} (field : s.table.Legal setup)
    (gone : destroyed setup target s = .ok (owner, s')) : s.Spares setup s' := by
  have copies : s'.table.copies = s.table.copies := (deed_destroyed gone).affected.table.copies
  unfold destroyed at gone
  dsimp only at gone
  split at gone
  · cases gone
  · next holder zone located =>
    split at gone
    · cases gone
    · split at gone
      · cases gone
      · next exposed =>
        cases gone
        refine ⟨copies, [_], rfl, fun event hm card destroys shielded => ?_⟩
        rw [List.mem_singleton.1 hm] at destroys
        obtain rfl : card = target :=
          destroys.details.about.unique (setup.about_cardDetails s.table target _)
        have onBoard : zone = .board := by
          have place := destroys.details.place
          cases zone <;>
            first | rfl | simp [Log.stamp, Setup.cardDetails, Details.get?, Zone.label] at place
        subst onBoard
        obtain ⟨_, monster, printed, found, known, protection⟩ :=
          field.monster? (Table.mem_of_locate? located)
        obtain ⟨printed', known', shield⟩ := shielded
        obtain rfl : printed' = printed := Option.some.inj (known'.symm.trans known)
        rw [found] at exposed
        exact exposed (by simpa [protection] using shield)

theorem spares_draw (seat : Seat) (count : Nat) (s : Scene) :
    s.Spares setup (draw seat count s).2 := by
  unfold draw
  dsimp only
  split <;>
    exact (Scene.spares_reserve count).trans
      (Scene.spares_report rfl (News.harmless_of_type rfl))

theorem Act.spares (act : Act setup s s') (field : s.table.Legal setup) : s.Spares setup s' := by
  have copies := act.deed.affected.table.copies
  have moved (card : CardRef) (pile : Pile) (place : DeckPlace) :
      (s.table.moveToPile card pile place).copies = s.table.copies :=
    (Table.affected_moveToPile s.table card pile place).copies
  cases act with
  | draw seat count s => exact spares_draw seat count s
  | mill top => exact Scene.spares_report rfl fun _ => by simp [Setup.cardDetails, Details.get?]
  | choose cards s => exact Scene.spares_change rfl
  | discard seat card s => exact Scene.spares_report (moved _ _ _) (News.harmless_of_type rfl)
  | find seat card s => exact Scene.spares_report (moved _ _ _) (News.harmless_of_type rfl)
  | reshuffle seat count condition s =>
    exact Scene.spares_report rfl (News.harmless_of_type rfl)
  | toHand actor card s =>
    unfold returnToHand at copies ⊢
    split
    · exact .refl s
    · next there =>
      exact Scene.spares_report (Table.affected_moveToPile? there).copies
        (News.harmless_of_type rfl)
  | toGraveyard actor card s =>
    unfold sendToGraveyard
    split
    · exact .refl s
    · next there =>
      exact Scene.spares_report (Table.affected_moveToPile? there).copies fun _ => by
        simp [Setup.cardDetails, Details.get?]
  | toDeck r s =>
    unfold returnToDeck
    dsimp only
    split
    · exact .refl s
    · split
      · exact .refl s
      · split
        · exact Scene.spares_report (moved _ _ _) (News.harmless_of_type rfl)
        · exact .refl s
  | banish source target s =>
    unfold banishCard
    dsimp only
    split
    · exact .refl s
    · split
      · exact .refl s
      · exact Scene.spares_report (moved _ _ _) (News.harmless_of_type rfl)
  | destroy gone => exact spares_destroyed field gone
  | summon there =>
    obtain ⟨-, -, -, -, left, -, rfl⟩ := specialSummoned_eq_ok.1 there
    exact Scene.spares_report rfl (News.harmless_of_type rfl)
  | life seat change s => exact Scene.spares_report rfl (News.harmless_of_type rfl)
  | modify r s =>
    unfold modifyAttack at copies ⊢
    dsimp only at copies ⊢
    split
    · exact .refl s
    · split
      · exact .refl s
      · split
        · exact .refl s
        · exact Scene.spares_report (Table.affected_modifyMonster (boosted_card _ _) _ _).copies
            (News.harmless_of_type rfl)
  | negate r s =>
    unfold Resolution.negate
    split
    · exact .refl s
    · split
      · exact Scene.spares_report rfl (News.harmless_of_type rfl)
      · exact .refl s
  | use r s =>
    unfold markUsed
    split
    · split
      · exact Scene.spares_change rfl
      · exact .refl s
    · exact .refl s

theorem Steps.spares (steps : Steps setup s s') (field : s.table.Legal setup) :
    s.Spares setup s' := by
  induction steps with
  | refl => exact .refl s
  | tail before step ih =>
    refine ih.trans ?_
    cases step with
    | act act => exact act.spares (legal_entries (Steps.entries before) field)
    | trigger card seat timing e s =>
      exact Scene.spares_record (News.harmless_of_type rfl)

end Resolution

/-! ## What links and moves destroy -/

section

variable {setup : Setup} {s : Scene}

namespace Chain

theorem spares_spend (card : CardRef) (s : Scene) : s.Spares setup (spend setup card s) := by
  let lifted : Table := { s.table with chained := s.table.chained.erase card }
  unfold spend
  dsimp only
  split
  · split
    · next owner placed _ hplaced =>
      have hplaced : lifted.placeInPile? card .graveyard .top = some placed := hplaced
      have put := s.table.pared_unchain card
      rw [Table.placeInPile, hplaced] at put
      exact Scene.spares_report (f := fun _ => placed) put.copies fun _ => by
        simp [Setup.cardDetails, Details.get?]
    · exact Scene.spares_change rfl
  · exact .refl s

theorem spares_settleLinks (links : List Link) (field : s.table.Legal setup) :
    s.Spares setup (s.each (settleLink setup) links).2 := by
  let Kept (s' : Scene) : Prop := s'.table.Legal setup ∧ s.Spares setup s'
  have step (link : Link) (s' : Scene) (kept : Kept s') : Kept (settleLink setup link s').2 := by
    have ran : Steps setup s' (runLink setup link s').2 := runLink_steps link s'
    have put : (runLink setup link s').2.Spares setup (settleLink setup link s').2 :=
      spares_spend link.card _
    exact ⟨legal_entries (ran.entries.trans (clearing_spend setup link.card _).entries) kept.1,
      kept.2.trans ((ran.spares kept.1).trans put)⟩
  exact (Scene.each_keeps step links ⟨field, .refl s⟩ : Kept _).2

end Chain

namespace Match

variable {m m' : Match} {seat : Seat} {move : Move} {ids : List LinkId}

theorem spares_played {tributes : List CardRef} {monster : Monster} {news : News}
    (kind : news.type.isPlay) (m : Match) :
    m.toScene.Spares setup (m.played setup seat tributes monster news).toScene := by
  have one (tribute : CardRef) (s : Scene) : s.Spares setup (payTribute setup seat tribute s).2 :=
    Scene.spares_report (Table.affected_moveToPile s.table tribute .graveyard .top).copies
      (News.harmless_of_type rfl)
  have paying := Scene.spares_each one tributes m.toScene
  have other : (news.type == .cardToGraveyard) = false := by
    refine beq_eq_false_iff_ne.2 fun same => ?_
    rw [same] at kind
    cases kind
  exact paying.trans (Scene.spares_report rfl (News.harmless_of_type other))

theorem spares_activate {card : CardRef} {zone : Zone} {printed : Card} (targets : List CardRef)
    (field : m.table.Legal setup) :
    m.toScene.Spares setup (m.activate setup seat card zone printed targets).2.toScene := by
  let lifted := m.lifted seat card zone printed
  let ran := (lifted.act (runAbility setup card seat targets)).2
  have news : (activationNews seat card printed zone).Harmless := by
    refine News.harmless_of_type ?_
    show ((if printed.type = .trap then EventType.trapActivated else .spellActivated) == _) = _
    split <;> rfl
  have lifting : m.toScene.Spares setup lifted.toScene := Scene.spares_report rfl news
  have field' : lifted.table.Legal setup :=
    legal_entries (clearing_lifted zone printed).entries field
  have running : lifted.toScene.Spares setup ran.toScene :=
    (runAbility_course card seat targets lifted.toScene).steps.spares field'
  have putting : ran.toScene.Spares setup
      (m.activate setup seat card zone printed targets).2.toScene := by
    refine Scene.spares_report (ran.table.pared_placeInPile card .graveyard .top).copies fun _ => ?_
    simp [spentNews, Details.get?]
  exact (lifting.trans running).trans putting

theorem Motion.spares (motion : Motion setup m m') (field : m.table.Legal setup) :
    m.toScene.Spares setup m'.toScene := by
  cases motion with
  | effects steps => exact steps.steps.spares field
  | summon ok onTurn stance =>
    refine spares_played ?_ m
    unfold summonNews
    dsimp only
    split <;> rfl
  | flip there printed stance => exact Scene.spares_report rfl (News.harmless_of_type rfl)
  | lay ok =>
    refine Scene.spares_report rfl (News.harmless_of_type ?_)
    show ((if _ then EventType.trapSet else .spellSet) == _) = _
    split <;> rfl
  | activate ok targets => exact spares_activate targets field
  | enter seat phase playable => exact Scene.spares_report rfl (News.harmless_of_type rfl)
  | trim seat =>
    unfold enforceHandLimit
    dsimp only
    split
    · exact Scene.spares_change (f := (·.modifySide seat (trimHand setup.rules.handLimit))) rfl
    · exact Scene.spares_report rfl (News.harmless_of_type rfl)

theorem Motions.spares (motions : Motions setup m m') (h : m.toScene.Tidy setup) :
    m.toScene.Spares setup m'.toScene := by
  induction motions with
  | refl => exact .refl _
  | tail before motion ih => exact ih.trans (motion.spares (Motions.tidy before h).field)

theorem Response.spares (response : Response setup m ids m') (field : m.table.Legal setup) :
    m.toScene.Spares setup m'.toScene := by
  cases response with
  | turn there faceUp name stance => exact Scene.spares_report rfl (News.harmless_of_type rfl)
  | @link seat card zone _ _ _ _ _ ok added =>
    exact Scene.spares_report (m.table.pared_liftCard seat card zone).copies
      (News.harmless_of_type rfl)
  | pass passed => exact .refl _
  | resolve resolved =>
    obtain ⟨-, -, -, rfl⟩ := Chain.resolve_ok resolved
    exact (Chain.spares_settleLinks m.chain.links.reverse field).trans
      (Scene.spares_record (News.harmless_of_type rfl))

theorem spares_handOver (seat next : Seat) (m : Match) :
    m.toScene.Spares setup (m.handOver seat next).toScene := by
  let ended := (m.change restTable).record (turnEndNews seat m.table.turn)
  have ending : m.toScene.Spares setup ended.toScene :=
    Scene.spares_report rfl (News.harmless_of_type rfl)
  let turn := m.table.turn + 1
  let begun := (ended.change ({ · with current := next, turn := turn, phase := .draw })).record
    (turnNews next turn)
  have beginning : ended.toScene.Spares setup begun.toScene :=
    Scene.spares_report rfl (News.harmless_of_type rfl)
  exact (ending.trans beginning).trans (Scene.spares_record (News.harmless_of_type rfl))

theorem Ending.spares (ending : Ending seat move m m') : m.toScene.Spares setup m'.toScene := by
  have finished (winner : Seat) (reason : WinReason) :
      m.toScene.Spares setup (m.finish winner reason).toScene := by
    let won : Table := { m.table with status := .finished winner reason }
    exact Scene.spares_report (f := fun _ => m.chain.cleared won)
      (won.pared_cleared m.chain).copies (News.harmless_of_type rfl)
  cases ending with
  | lost _ => exact finished _ _
  | deckOut _ _ _ => exact finished _ _
  | surrender _ => exact finished _ _

theorem Action.spares (action : Action setup seat move m ids m') (h : m.toScene.Tidy setup) :
    m.toScene.Spares setup m'.toScene := by
  cases action with
  | none => exact .refl _
  | response response => exact response.spares h.field
  | motions noChain motions => exact motions.spares h
  | set sets ok onTurn hidden => exact spares_played rfl m
  | @turn ended _ ends onTurn noChain before after =>
    have tidy : ended.toScene.Tidy setup := before.tidy h
    have still : ended.table.current = seat := (before.entries h.placed).turn.2.1.trans onTurn
    have begun : (ended.handOver seat seat.other).toScene.Tidy setup := by
      refine ⟨?_, tidy.placed.rearranged (calm_handOver seat seat.other ended).table⟩
      rw [← still]
      exact (Line.turn ended).legal tidy.field
    exact ((before.spares h).trans (spares_handOver seat seat.other ended)).trans
      (after.spares begun)

/-- Whatever a move destroys was not safe from it. -/
theorem play_spares {p : Play} (h : p.before.toScene.Tidy setup) (legal : p.Legal setup) :
    p.before.toScene.Spares setup p.after.toScene := by
  obtain ⟨_, moved, -, -, action, ⟨rfl, -⟩ | ending⟩ := play_action h.placed legal
  · exact action.spares h
  · exact (action.spares h).trans ending.spares

/-- At the beginning of a match nothing has been destroyed. -/
theorem start_spares (setup : Setup) (lobby : Lobby) (game : GameName) (players : Seats User)
    (decks : Seats (List CardId)) (seed : UInt64) :
    Scene.Spares setup (ready setup (.start lobby game players) decks seed)
      (start setup lobby game players decks seed).toScene := by
  let ready := ready setup (.start lobby game players) decks seed
  have started : ready.Spares setup (ready.record (startNews players seed)) :=
    Scene.spares_record (News.harmless_of_type rfl)
  have dealt := started.trans
    (Scene.spares_each (fun seat s => spares_draw seat setup.rules.startingHand s) Seat.all _)
  have turn : (turnNews .host 1).Harmless := News.harmless_of_type rfl
  have begun := dealt.trans (Scene.spares_record turn)
  have main (s : Scene) :
      s.Spares setup ((s.change ({ · with phase := .main1 })).record (phaseNews .host .main1)) :=
    Scene.spares_report rfl (News.harmless_of_type rfl)
  show ready.Spares setup (opening setup (.start lobby game players) decks seed)
  unfold opening
  dsimp only
  split
  · exact (begun.trans (spares_draw .host 1 _)).trans (main _)
  · exact begun.trans (main _)

end Match

/-! ## Choosing what cannot be chosen -/

/-- By its text the card cannot be chosen as a target. -/
def Setup.Veils (setup : Setup) (t : Table) (card : CardRef) : Prop :=
  ∃ printed, setup.card? t card = some printed ∧ printed.ability.protection.fromTargeting

/-- An effect with a target on a board that cannot be chosen is refused, and nothing happens. -/
theorem Resolution.runWith_of_veiled {followUp : FollowUp} {r : Request} {target : CardRef}
    {seat : Seat} (field : s.table.Legal setup) (chosen : target ∈ r.targets)
    (there : target ∈ (s.side seat).cardsIn .board) (veiled : setup.Veils s.table target) :
    ∃ fault, runWith setup followUp r s = (.failed fault, s) := by
  obtain ⟨_, monster, printed, found, known, protection⟩ := field.monster? there
  obtain ⟨printed', known', veil⟩ := veiled
  obtain rfl : printed' = printed := Option.some.inj (known'.symm.trans known)
  -- The target may not be the first that cannot be chosen, but then there is another.
  have some : (r.targets.find? fun target =>
      (s.table.monster? target).any (·.2.protection.fromTargeting)).isSome := by
    refine List.find?_isSome.2 ⟨target, chosen, ?_⟩
    rw [found, Option.any_some, protection]
    exact veil
  have refused : (fault? setup r s.table).isSome := by
    unfold fault?
    rw [Option.isSome_or, Option.isSome_map, some, Bool.or_true]
  obtain ⟨fault, refused⟩ := Option.isSome_iff_exists.1 refused
  exact ⟨fault, by rw [runWith, refused]⟩

end

namespace Sample

/-- A spell that destroys a monster. -/
def bolt : Card where
  id := ⟨6⟩
  name := "Keen Bolt"
  type := .spell
  text := some "Destroy 1 target monster."

/-- What is read from the text of the bolt. -/
def striking : Ability :=
  ⟨[{ kind := .destroy, value := 0, text := "Destroy 1 target monster" }]⟩

theorem ability_bolt : striking = bolt.ability := by decide +kernel

/-- A duel with these two cards, and two cards in each hand at the start. -/
def guarded : Setup where
  catalog := ⟨[⟨warden, shielding, ability_warden⟩, ⟨bolt, striking, ability_bolt⟩]⟩
  rules := { startingHand := 2 }

/-- The host holds the warden and the bolt, and summons the warden. -/
def guards : Seats (List CardId) := ⟨[warden.id, bolt.id], [warden.id, warden.id]⟩

def guarding : List (Seat × Move) := [(.host, .normalSummon ⟨0⟩ [] .attack)]

end Sample

/-! ## Over all calls -/

namespace Arena

/-- In a live match nothing that was safe from it has been destroyed by an effect. -/
theorem spared_of_live {setup : Setup} {calls : List Call} {lobby : Lobby} {m : Match}
    (live : ((start setup).serveAll calls).lobbies lobby = .live m) :
    m.toScene.Spared setup := by
  let Kept (m : Match) : Prop := m.table.Legal setup ∧ m.toScene.Spared setup
  suffices kept : Kept m from kept.2
  refine kept_of_live Kept (fun lobby game players decks seed => ?_) (fun p placed legal kept => ?_)
    live
  · have spares := Match.start_spares setup lobby game players decks seed
    exact ⟨legal_start setup lobby game players decks seed, spares.spared (List.forall_mem_nil _)⟩
  · have spares := Match.play_spares ⟨kept.1, placed⟩ legal
    let Legal (s : Scene) : Prop := s.table.Legal setup
    have legal : Legal p.after.toScene :=
      keeps_along (Match.play_lines placed legal) (fun _ _ line h => line.legal h) kept.1
    exact ⟨legal, spares.spared kept.2⟩

/-- In every live match, the log does not tell of any card that was destroyed on a board by an
effect though it is safe from that by its text.  Whatever move is then made, every effect in the
course of it that has among its targets a monster on a board which cannot be chosen by its text
fails, and leaves the scene as it is. -/
theorem protection_holds (setup : Setup) (calls : List Call) (lobby : Lobby) (m : Match)
    (live : ((start setup).serveAll calls).lobbies lobby = .live m) :
    (∀ event ∈ m.log.events, ∀ card, event.Destroys card → ¬ setup.Shields m.table card) ∧
      ∀ user move report after, m.play setup user move = .ok (report, after) →
        ∀ r before outcome done,
          Span.run r before outcome done ∈ Play.spans setup ⟨m, user, move, report, after⟩ →
          (∃ depth, Resolution.runWith setup (Resolution.fireWithin setup depth) r before =
            (outcome, done)) ∧
          ∀ target ∈ r.targets, ∀ seat, target ∈ (before.side seat).cardsIn .board →
            setup.Veils before.table target → outcome.success = false ∧ done = before := by
  constructor
  · exact spared_of_live live
  · intro user move report after played r before outcome done hm
    let p : Play := ⟨m, user, move, report, after⟩
    have tidy : p.before.toScene.Tidy setup := tidy_of_live live
    obtain ⟨ordered, depth, ran⟩ := Play.spans_ordered tidy played _ hm
    have field : before.table.Legal setup := ordered.field
    refine ⟨⟨depth, ran⟩, fun target chosen seat there veiled => ?_⟩
    obtain ⟨fault, refused⟩ := Resolution.runWith_of_veiled field chosen there veiled
    rw [refused] at ran
    cases ran
    exact ⟨rfl, rfl⟩

/-- The bolt cannot be aimed at the warden, which stays on the board. -/
theorem warden_holds :
    let before := Sample.reached Sample.guarded Sample.guards Sample.guarding
    let bolted := .activateSpell ⟨1⟩ [⟨0⟩]
    Sample.guarded.Shields before.table ⟨0⟩ ∧
      (∀ event ∈ before.log.events, ¬ event.Destroys ⟨0⟩) ∧
      ∃ report after, before.play Sample.guarded Sample.players.host bolted = .ok (report, after) ∧
        ∃ r s outcome, Span.run r s outcome s ∈ Play.spans Sample.guarded
            ⟨before, Sample.players.host, bolted, report, after⟩ ∧
          r.targets = [⟨0⟩] ∧ outcome.success = false := by
  intro before bolted
  let calls := Sample.dueling Sample.guards Sample.guarding
  have live : ((start Sample.guarded).serveAll calls).lobbies Sample.lobby = .live before := by rfl
  obtain ⟨spared, refuses⟩ := protection_holds Sample.guarded calls Sample.lobby before live
  have known : Sample.guarded.card? before.table ⟨0⟩ = some Sample.warden := by decide +kernel
  have shields : Sample.guarded.Shields before.table ⟨0⟩ :=
    ⟨Sample.warden, known, by decide +kernel⟩
  refine ⟨shields, fun event hm destroys => spared event hm ⟨0⟩ destroys shields, ?_⟩
  obtain ⟨⟨report, after⟩, played⟩ : ∃ made, before.play Sample.guarded Sample.players.host bolted =
      .ok made := ⟨_, rfl⟩
  refine ⟨report, after, played, ?_⟩
  obtain ⟨span, hm, targets, there, known⟩ : ∃ span ∈ before.spans Sample.guarded .host bolted,
      span.tried?.map (·.1.targets) = some [⟨0⟩] ∧
      ⟨0⟩ ∈ (span.before.side .host).cardsIn .board ∧
      Sample.guarded.card? span.before.table ⟨0⟩ = some Sample.warden := by decide +kernel
  have seated : before.seatOf? Sample.players.host = some .host := by decide
  have hm : span ∈ Play.spans Sample.guarded
      ⟨before, Sample.players.host, bolted, report, after⟩ := by
    unfold Play.spans
    rw [seated]
    exact hm
  cases span with
  | firing card seat timing s outcomes done => cases targets
  | run r s outcome done =>
    have targets : r.targets = [⟨0⟩] := Option.some.inj targets
    have chosen : ⟨0⟩ ∈ r.targets := by simp [targets]
    have veils : Sample.guarded.Veils s.table ⟨0⟩ := ⟨Sample.warden, known, by decide +kernel⟩
    obtain ⟨failed, same⟩ := (refuses _ _ _ _ played r s outcome done hm).2 _ chosen _ there veils
    exact ⟨r, s, outcome, same ▸ hm, targets, failed⟩

end Arena

end CardDuel
