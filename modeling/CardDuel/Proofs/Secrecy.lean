import CardDuel.Proofs.Entries
import CardDuel.Proofs.Mirror

/-!
# What the log says of hidden monsters

The event of a Set does not say which monster was set, and nobody needs to know before it is
flipped.  Almost all that is told of a monster is told when it is played, moved, turned or
activated, and none of that can happen to a hidden monster that stays hidden.  But its ATK can be
changed, and its effects can be negated.  The news of these two name it.

* `EventType.Marks`: news of one of these two kinds, which name the card.
* `Scene.Discreet`: the log has grown, and nothing else is told of a card that stays hidden.
* `Deed.discreet`, `Motion.discreet`, `Response.discreet` and `Ending.discreet`: whatever happens
  is discreet.  Only setting a monster is not, since it is what hides a card.
* `Scene.Unnamed`: the log has grown, and no event tells the name of a card.
* `Arena.hidden_unless_marked`: the statement over all calls that an arena may serve.
-/

namespace CardDuel

open Resolution

/-! ## Events about hidden cards -/

/-- News that a card is marked where it lies, with its name. -/
def EventType.Marks (type : EventType) (details : Details) (name : String) : Prop :=
  (type = .attackModified ∨ type = .effectNegated) ∧
    details.get? "cardName" = some (.text name)

theorem Setup.cardName_cardDetails (setup : Setup) (t : Table) (card : CardRef) (more : Details) :
    (setup.cardDetails t card ++ more).get? "cardName" = some (.text (setup.nameOf t card)) := by
  simp [Setup.cardDetails, Details.get?]

/-- Details about a card that shows itself are not about a hidden one. -/
theorem Details.About.not_hidden {details : Details} {t : Table} {card moved : CardRef}
    (about : details.About moved) (shown : ¬ t.Hides moved) (hidden : t.Hides card) :
    ¬ details.About card :=
  fun other => shown (about.unique other ▸ hidden)

namespace Scene

variable {setup : Setup} {s s' s'' : Scene} {card : CardRef} {f : Table → Table} {news : News}

/-- No card is hidden that was not hidden before, and if this one is, the events that the log has
got about it tell that it was marked. -/
structure Discreet (setup : Setup) (card : CardRef) (s s' : Scene) : Prop where
  copies : s'.table.copies = s.table.copies
  hides : s'.table.Hides card → s.table.Hides card
  told : s'.table.Hides card → ∃ new, s'.log.events = s.log.events ++ new ∧
    ∀ e ∈ new, e.details.About card → e.type.Marks e.details (setup.nameOf s.table card)

theorem Discreet.refl (s : Scene) : Discreet setup card s s :=
  ⟨rfl, id, fun _ => ⟨[], (List.append_nil _).symm, List.forall_mem_nil _⟩⟩

theorem Discreet.trans (h : Discreet setup card s s') (h' : Discreet setup card s' s'') :
    Discreet setup card s s'' where
  copies := h'.copies.trans h.copies
  hides hidden := h.hides (h'.hides hidden)
  told hidden := by
    obtain ⟨new, log, told⟩ := h.told (h'.hides hidden)
    obtain ⟨new', log', told'⟩ := h'.told hidden
    refine ⟨new ++ new', by rw [log', log, List.append_assoc], fun e he about => ?_⟩
    rcases List.mem_append.1 he with he | he
    · exact told e he about
    · rw [← Setup.nameOf_of_copies h.copies]
      exact told' e he about

/-- What the log has got is the same, however it is said. -/
theorem Discreet.told_of {new : List Event} (h : Discreet setup card s s')
    (log : s'.log.events = s.log.events ++ new) (hidden : s'.table.Hides card) :
    ∀ e ∈ new, e.details.About card → e.type.Marks e.details (setup.nameOf s.table card) := by
  obtain ⟨new', log', told⟩ := h.told hidden
  obtain rfl : new = new' := List.append_cancel_left (log.symm.trans log')
  exact told

/-- A change of the table with news of it. -/
theorem discreet_report (copies : (f s.table).copies = s.table.copies)
    (hides : (f s.table).Hides card → s.table.Hides card)
    (told : (f s.table).Hides card → news.details.About card →
      news.type.Marks news.details (setup.nameOf s.table card)) :
    Discreet setup card s ((s.change f).record news) where
  copies := copies
  hides := hides
  told hidden := by
    refine ⟨[_], rfl, fun e he about => ?_⟩
    obtain rfl := List.mem_singleton.1 he
    exact told hidden about

/-- News about no hidden card. -/
theorem discreet_record (silent : s.table.Hides card → ¬ news.details.About card) :
    Discreet setup card s (s.record news) :=
  discreet_report (f := id) rfl id fun hidden about => absurd about (silent hidden)

/-- Cards leave the field, with news about no card that is still hidden. -/
theorem discreet_pared (pared : Table.Pared s.table (f s.table))
    (silent : (f s.table).Hides card → ¬ news.details.About card) :
    Discreet setup card s ((s.change f).record news) :=
  discreet_report pared.copies pared.hides fun hidden about => absurd about (silent hidden)

/-- A card leaves the field, or shows itself anyway, with news about it. -/
theorem discreet_shown {moved : CardRef} (about : news.details.About moved)
    (pared : Table.Pared s.table (f s.table)) (shown : ¬ s.table.Hides moved) :
    Discreet setup card s ((s.change f).record news) :=
  discreet_pared pared fun hidden => about.not_hidden shown (pared.hides hidden)

theorem discreet_moveToPile {loose : List CardRef} {moved : CardRef} {pile : Pile}
    {place : DeckPlace} (about : news.details.About moved) (placed : s.table.Placed loose) :
    Discreet setup card s ((s.change (·.moveToPile moved pile place)).record news) :=
  discreet_pared (Table.pared_moveToPile _ _ _ _) fun hidden =>
    about.not_hidden (placed.shown_moveToPile pile place) hidden

/-- The log has grown, and no event tells the name of the card. -/
def Unnamed (card : CardRef) (s s' : Scene) : Prop :=
  ∃ new, s'.log.events = s.log.events ++ new ∧
    ∀ e ∈ new, e.details.About card → e.details.get? "cardName" = none

theorem Unnamed.refl (s : Scene) : Unnamed card s s :=
  ⟨[], (List.append_nil _).symm, List.forall_mem_nil _⟩

theorem Unnamed.trans (h : Unnamed card s s') (h' : Unnamed card s' s'') : Unnamed card s s'' := by
  obtain ⟨new, log, unnamed⟩ := h
  obtain ⟨new', log', unnamed'⟩ := h'
  refine ⟨new ++ new', by rw [log', log, List.append_assoc], fun e he => ?_⟩
  rcases List.mem_append.1 he with he | he
  · exact unnamed e he
  · exact unnamed' e he

theorem unnamed_report (unnamed : news.details.About card → news.details.get? "cardName" = none) :
    Unnamed card s ((s.change f).record news) := by
  refine ⟨[_], rfl, fun e he => ?_⟩
  obtain rfl := List.mem_singleton.1 he
  exact unnamed

end Scene

/-! ## Effects -/

namespace Resolution

variable {setup : Setup} {s s' : Scene} {loose : List CardRef} {card : CardRef}

theorem Deed.discreet (deed : Deed setup s s') (placed : s.table.Placed loose) :
    Scene.Discreet setup card s s' := by
  have placed' := placed.rearranged deed.affected.table.toRearranged
  have copies := deed.affected.table.copies
  have hides : s'.table.Hides card → s.table.Hides card := deed.hides
  cases deed with
  | nothing => exact .refl s
  | mark rng used kept => exact ⟨copies, hides, fun _ => ⟨[], (List.append_nil _).symm, by simp⟩⟩
  | negate target kind told =>
    refine Scene.discreet_report copies hides fun _ about => ?_
    obtain rfl : card = target := by
      rw [told] at about
      exact about.unique (setup.about_cardDetails s.table target [])
    rw [kind, told]
    exact ⟨.inr rfl, setup.cardName_cardDetails s.table card []⟩
  | move kind about => exact Scene.discreet_moveToPile about placed
  | @turnOver seat count pile news mark kind names about =>
    refine ⟨copies, hides, fun hidden => ⟨[_], rfl, fun e he told => absurd (hides hidden) ?_⟩⟩
    obtain rfl := List.mem_singleton.1 he
    have inDeck : card ∈ (s.table.side seat).cardsIn .deck := List.mem_of_mem_take (about card told)
    exact placed.shown inDeck (by decide)
  | shuffle seat kind about =>
    exact Scene.discreet_report copies hides fun _ told => absurd told (about card)
  | @arrive seat left arrived printed news held room known monster kind about =>
    refine Scene.discreet_report copies hides fun hidden told => absurd told ?_
    exact about.not_hidden (placed'.shown_arrival (f := (·.remove left arrived)) rfl) hidden
  | @boost target controller m now e there changed =>
    refine Scene.discreet_report copies hides fun _ about => ?_
    obtain rfl : card = target := about.unique (setup.about_cardDetails s.table target _)
    exact ⟨.inl rfl, setup.cardName_cardDetails s.table card _⟩
  | life seat change =>
    refine Scene.discreet_report copies hides fun _ told => ?_
    simp [lifeNews, Details.About, Details.get?] at told

theorem OpenSteps.discreet (steps : OpenSteps setup s s') (placed : s.table.Placed loose) :
    Scene.Discreet setup card s s' := by
  induction steps with
  | refl => exact .refl s
  | tail before step ih =>
    refine ih.trans ?_
    cases step with
    | act act => exact act.deed.discreet (OpenSteps.placed before placed)
    | trigger shown seat timing e =>
      exact Scene.discreet_record fun hidden =>
        (setup.about_cardDetails _ _ _).not_hidden shown hidden

end Resolution

/-! ## The chain -/

namespace Chain

variable {setup : Setup} {s : Scene} {card : CardRef}

theorem discreet_spend (spent : CardRef) (placed : s.table.Placed []) :
    Scene.Discreet setup card s (spend setup spent s) := by
  unfold spend
  dsimp only
  split
  · next hc =>
    have off : ¬ s.table.Hides spent := fun hidden => by
      obtain ⟨seat, onBoard⟩ := hidden.onBoard
      exact Table.locate?_eq_none.1 (placed.locate?_of_chained hc) seat
        (Side.mem_cards_of_mem onBoard)
    let lifted : Table := { s.table with chained := s.table.chained.erase spent }
    split
    · next owner put _ hput =>
      have hput : lifted.placeInPile? spent .graveyard .top = some put := hput
      have away := s.table.pared_unchain spent
      rw [Table.placeInPile, hput] at away
      exact Scene.discreet_shown (f := fun _ => put) (setup.about_cardDetails s.table spent _)
        away off
    · have lifting := s.table.pared_chained (s.table.chained.erase spent)
      exact ⟨lifting.copies, lifting.hides, fun _ => ⟨[], (List.append_nil _).symm, by simp⟩⟩
  · exact .refl s

theorem discreet_settleLinks (links : List Link) (placed : s.table.Placed []) :
    Scene.Discreet setup card s (s.each (settleLink setup) links).2 := by
  induction links generalizing s with
  | nil => exact .refl s
  | cons link links ih =>
    have ran : OpenSteps setup s (runLink setup link s).2 := by
      unfold runLink
      split
      · exact .refl
      · exact run_open _ placed
    have spent : Scene.Discreet setup card (runLink setup link s).2 (settleLink setup link s).2 :=
      discreet_spend link.card (ran.placed placed)
    rw [Scene.each_cons]
    exact ((ran.discreet placed).trans spent).trans (ih (unchains_settleLink link placed).placed)

end Chain

/-! ## Moves -/

namespace Match

variable {setup : Setup} {m m' : Match} {ids : List LinkId} {seat : Seat} {card : CardRef}

theorem discreet_payTributes {s : Scene} (tributes : List CardRef) (placed : s.table.Placed []) :
    Scene.Discreet setup card s (s.each (payTribute setup seat) tributes).2 := by
  let Kept (s' : Scene) : Prop := s'.table.Placed [] ∧ Scene.Discreet setup card s s'
  have step (tribute : CardRef) (s' : Scene) (kept : Kept s') :
      Kept (payTribute setup seat tribute s').2 :=
    ⟨kept.1.rearranged (Table.affected_moveToPile _ _ _ _).toRearranged,
      kept.2.trans (Scene.discreet_moveToPile (setup.about_cardDetails s'.table tribute [])
        kept.1)⟩
  exact (Scene.each_keeps step tributes ⟨placed, .refl s⟩).2

/-- A monster is played.  The cards that are hidden then were hidden before, or it is the
monster. -/
theorem hides_played {t : Table} {monster : Monster}
    (h : (t.modifySide seat (playMonster monster.card monster)).Hides card)
    (other : monster.isFaceDown → card ≠ monster.card) : t.Hides card := by
  obtain ⟨seat', old, there, same, down⟩ := h
  rw [Table.side_modifySide] at there
  split at there
  · next here =>
    subst here
    rcases List.mem_append.1 there with there | new
    · exact ⟨seat', old, there, same, down⟩
    · rw [List.mem_singleton.1 new] at same down
      exact absurd same.symm (other down)
  · exact ⟨seat', old, there, same, down⟩

/-- Playing a monster is discreet for all cards but the one that it may hide. -/
theorem discreet_played {tributes : List CardRef} {monster : Monster} {news : News}
    (placed : m.table.Placed []) (other : monster.isFaceDown → card ≠ monster.card)
    (about : (m.played setup seat tributes monster news).table.Hides card →
      ¬ news.details.About card) :
    Scene.Discreet setup card m.toScene (m.played setup seat tributes monster news).toScene :=
  (discreet_payTributes tributes placed).trans
    (Scene.discreet_report rfl (fun hidden => hides_played hidden other) fun hidden told =>
      absurd told (about hidden))

/-- A monster that stays where it is and is not turned face-down, with news about it. -/
theorem discreet_modifyMonster {moved : CardRef} {change : Monster → Monster} {news : News}
    (about : news.details.About moved)
    (sameCard : ∀ monster, (change monster).card = monster.card)
    (turned : ∀ monster, (change monster).isFaceDown → monster.isFaceDown)
    (shown : ¬ (m.table.modifySide seat (·.modifyMonster moved change)).Hides moved) :
    Scene.Discreet setup card m.toScene
      ((m.change (·.modifySide seat (·.modifyMonster moved change))).record news).toScene :=
  Scene.discreet_report (f := (·.modifySide seat (·.modifyMonster moved change))) rfl
    (Table.hides_modifyMonster sameCard turned) fun hidden told =>
      absurd told (about.not_hidden shown hidden)

theorem discreet_activate {activated : CardRef} {zone : Zone} {printed : Card}
    (targets : List CardRef) (placed : m.table.Placed [])
    (ok : Activatable setup m seat activated zone printed) :
    Scene.Discreet setup card m.toScene
      (m.activate setup seat activated zone printed targets).2.toScene := by
  let lifted := m.lifted seat activated zone printed
  let ran := (lifted.act (runAbility setup activated seat targets)).2
  have off : zone ≠ .board := by
    rcases (linkZone_ok ok.zone).2 with ⟨creature, -⟩ | ⟨-, rfl | rfl⟩
    · exact absurd creature ok.type
    · decide
    · decide
  have liftedPlaced : lifted.table.Placed [activated] := placed.remove ok.held
  have running : OpenSteps setup lifted.toScene ran.toScene :=
    runAbility_open activated seat targets liftedPlaced
  have ranPlaced : ran.table.Placed [activated] := running.placed liftedPlaced
  have lifting : Scene.Discreet setup card m.toScene lifted.toScene :=
    Scene.discreet_shown (f := (·.modifySide seat (·.remove zone activated)))
      (Details.about_cardId activated _)
      (m.table.pared_modifySide seat fun side => side.pared_remove zone activated)
      (placed.shown ok.held off)
  have putting : Scene.Discreet setup card ran.toScene
      (m.activate setup seat activated zone printed targets).2.toScene :=
    Scene.discreet_shown (f := (·.placeInPile activated .graveyard .top))
      (Details.about_cardId activated _)
      (ran.table.pared_placeInPile activated .graveyard .top) ranPlaced.shown_of_loose
  exact (lifting.trans (running.discreet liftedPlaced)).trans putting

theorem discreet_enforceHandLimit (seat : Seat) (m : Match) :
    Scene.Discreet setup card m.toScene (m.enforceHandLimit setup seat).2.toScene := by
  have trimmed := m.table.pared_modifySide seat fun side =>
    side.pared_trimHand setup.rules.handLimit
  unfold enforceHandLimit
  dsimp only
  split
  · exact ⟨trimmed.copies, trimmed.hides, fun _ => ⟨[], (List.append_nil _).symm, by simp⟩⟩
  · refine Scene.discreet_pared (f := (·.modifySide seat (trimHand setup.rules.handLimit)))
      trimmed fun _ about => ?_
    simp [limitNews, Details.About, Details.get?] at about

theorem hides_restTable {t : Table} (h : (restTable t).Hides card) : t.Hides card := by
  have resting (seat : Seat) {t : Table} (h : (t.modifySide seat restSide).Hides card) :
      t.Hides card := by
    refine Table.hides_modifySide (fun monster there down => ?_) h
    obtain ⟨old, before, rfl⟩ := List.mem_map.1 there
    exact ⟨old, before, rfl, down⟩
  exact resting .host (resting .opponent (Table.hides_of_side (fun _ => rfl) h))

theorem discreet_handOver (seat next : Seat) (m : Match) :
    Scene.Discreet setup card m.toScene (m.handOver seat next).toScene := by
  let ended := (m.toScene.change restTable).record (turnEndNews seat m.table.turn)
  have ending : Scene.Discreet setup card m.toScene ended :=
    Scene.discreet_report rfl hides_restTable fun _ about => by
      simp [turnEndNews, Details.About, Details.get?] at about
  have begun (turn : Nat) : Scene.Discreet setup card ended
      ((ended.change ({ · with current := next, turn := turn, phase := .draw })).record
        (turnNews next turn)) :=
    Scene.discreet_report rfl (Table.hides_of_side fun _ => rfl) fun _ about => by
      simp [turnNews, Details.About, Details.get?] at about
  refine (ending.trans (begun _)).trans (Scene.discreet_record fun _ about => ?_)
  simp [phaseNews, Details.About, Details.get?] at about

/-- Whatever happens while no link waits is discreet. -/
theorem Motion.discreet (motion : Motion setup m m') (placed : m.table.Placed []) :
    Scene.Discreet setup card m.toScene m'.toScene := by
  have placed' := placed.rearranged (motion.calm placed).table
  cases motion with
  | effects steps => exact steps.discreet placed
  | summon ok onTurn stance =>
    exact discreet_played placed nofun fun hidden =>
      (Details.about_cardId _ _).not_hidden (shown_summoned placed') hidden
  | @flip seat flipped there printed stance =>
    let turned (monster : Monster) : Monster :=
      { monster with facing := .up, stance := stance, hasMoved := true }
    have sameCard (monster : Monster) : (turned monster).card = monster.card := rfl
    have faceUp (monster : Monster) (down : (turned monster).isFaceDown) : monster.isFaceDown :=
      nomatch down
    exact discreet_modifyMonster (Details.about_cardId flipped _) sameCard faceUp
      (shown_flipped there placed')
  | @lay seat laid printed ok =>
    have onField {change : Side → Side} (h : (change (m.side seat)).board = (m.side seat).board)
        (hidden : (m.table.modifySide seat change).Hides card) : m.table.Hides card :=
      Table.hides_modifySide (fun monster there down => ⟨monster, h ▸ there, rfl, down⟩) hidden
    refine Scene.discreet_report (f := (·.modifySide seat fun side =>
      (side.remove .hand laid).placeSpellTrap (.laid laid m.table.turn))) rfl (onField rfl)
      fun hidden about => absurd about ?_
    exact (Details.about_cardId laid []).not_hidden (placed.shown ok.inHand (by decide))
      (onField rfl hidden)
  | activate ok targets => exact discreet_activate targets placed ok
  | enter seat phase playable =>
    refine Scene.discreet_report (f := ({ · with phase := phase })) rfl
      (Table.hides_of_side fun _ => rfl) fun _ about => ?_
    simp [phaseNews, Details.About, Details.get?] at about
  | trim seat => exact discreet_enforceHandLimit seat m

theorem Motions.discreet (motions : Motions setup m m') (placed : m.table.Placed []) :
    Scene.Discreet setup card m.toScene m'.toScene := by
  induction motions with
  | refl => exact .refl m.toScene
  | tail before motion ih =>
    exact ih.trans (motion.discreet (placed.rearranged (Motions.calm before placed).table))

/-- Whatever happens while links wait is discreet. -/
theorem Response.discreet (response : Response setup m ids m') (placed : m.table.Placed []) :
    Scene.Discreet setup card m.toScene m'.toScene := by
  cases response with
  | @turn seat moved monster there faceUp name stance =>
    let turned (monster : Monster) : Monster :=
      { monster with stance := monster.stance.toggled, hasMoved := true }
    have onBoard : monster ∈ (m.side seat).board := List.mem_of_find?_eq_some there
    have same : monster.card = moved := by simpa using List.find?_some there
    have shown : ¬ m.table.Hides moved := same ▸ placed.shown_of_faceUp onBoard faceUp
    have sameCard (monster : Monster) : (turned monster).card = monster.card := rfl
    have sameFacing (monster : Monster) (down : (turned monster).isFaceDown) :
        monster.isFaceDown := down
    exact discreet_modifyMonster (Details.about_cardId moved _) sameCard sameFacing
      fun hidden => shown (Table.hides_modifyMonster sameCard sameFacing hidden)
  | @link seat linked zone printed effect targets id chain ok added =>
    obtain ⟨held, source⟩ := linkZone_ok ok.zone
    have shown : ¬ m.table.Hides linked := by
      rcases source with ⟨-, -, up⟩ | ⟨-, rfl | rfl⟩
      · exact shown_of_isFaceUp placed up
      · exact placed.shown held (by decide)
      · exact placed.shown held (by decide)
    exact Scene.discreet_shown (f := liftCard seat linked zone) (Details.about_cardId linked _)
      (m.table.pared_liftCard seat linked zone) shown
  | pass passed => exact .refl m.toScene
  | resolve resolved =>
    obtain ⟨-, -, -, rfl⟩ := Chain.resolve_ok resolved
    refine (Chain.discreet_settleLinks m.chain.links.reverse placed).trans
      (Scene.discreet_record fun _ about => ?_)
    simp [Chain.resolvedNews, Details.About, Details.get?] at about

theorem discreet_finish (winner : Seat) (reason : WinReason) (m : Match) :
    Scene.Discreet setup card m.toScene (m.finish winner reason).toScene := by
  let won : Table := { m.table with status := .finished winner reason }
  have ended : Table.Pared m.table won := ⟨rfl, rfl, rfl, rfl, fun _ => .refl _⟩
  exact Scene.discreet_pared (f := fun _ => m.chain.cleared won)
    (ended.trans (won.pared_cleared m.chain))
    fun _ about => not_names_endNews winner reason card about.names

theorem Ending.discreet {move : Move} (ending : Ending seat move m m') :
    Scene.Discreet setup card m.toScene m'.toScene := by
  cases ending with
  | lost _ => exact discreet_finish _ _ m
  | deckOut _ _ _ => exact discreet_finish _ _ m
  | surrender _ => exact discreet_finish _ _ m

/-- Every move is discreet for all cards but the one that it sets. -/
theorem Action.discreet {move : Move} (action : Action setup seat move m ids m')
    (placed : m.table.Placed []) (other : ∀ tributes, move ≠ .setMonster card tributes) :
    Scene.Discreet setup card m.toScene m'.toScene := by
  cases action with
  | none => exact .refl m.toScene
  | response response => exact response.discreet placed
  | motions _ motions => exact motions.discreet placed
  | @set set tributes printed monster sets ok onTurn hidden =>
    subst hidden
    have ne : card ≠ set := fun same => other tributes (same ▸ sets)
    exact discreet_played placed (fun _ => ne) fun _ about =>
      ne (about.unique (Details.about_cardId set _))
  | @turn ended _ ends onTurn noChain before after =>
    have begun : (ended.handOver seat seat.other).table.Placed [] :=
      placed.rearranged ((before.calm placed).trans (calm_handOver seat seat.other ended)).table
    exact ((before.discreet placed).trans (discreet_handOver seat seat.other ended)).trans
      (after.discreet begun)

theorem play_discreet {p : Play} (legal : p.Legal setup) (placed : p.before.table.Placed [])
    (other : ∀ tributes, p.move ≠ .setMonster card tributes) :
    Scene.Discreet setup card p.before.toScene p.after.toScene := by
  obtain ⟨_, moved, -, -, action, ⟨rfl, -⟩ | ending⟩ := play_action placed legal
  · exact action.discreet placed other
  · exact (action.discreet placed other).trans ending.discreet

/-! ## Setting a monster -/

/-- The tributes are told of with their names, and no other card. -/
theorem unnamed_payTributes {tributes : List CardRef} (other : card ∉ tributes) (s : Scene) :
    Scene.Unnamed card s (s.each (payTribute setup seat) tributes).2 := by
  induction tributes generalizing s with
  | nil => exact .refl s
  | cons tribute tributes ih =>
    obtain ⟨ne, other⟩ := not_or.1 (mt List.mem_cons.2 other)
    have first : Scene.Unnamed card s (payTribute setup seat tribute s).2 :=
      Scene.unnamed_report fun about =>
        absurd (about.unique (setup.about_cardDetails s.table tribute [])) ne
    rw [Scene.each_cons]
    exact first.trans (ih other _)

theorem unnamed_settleLife (m : Match) :
    Scene.Unnamed card m.toScene m.settleLife.toScene := by
  unfold settleLife
  split
  · split
    · exact Scene.unnamed_report (f := fun _ => m.chain.cleared _) fun about =>
        absurd about.names (not_names_endNews _ _ card)
    · exact .refl m.toScene
  · exact .refl m.toScene

/-- A monster that is set comes from the hand, and no event tells its name. -/
theorem play_unnamed {p : Play} {tributes : List CardRef} (legal : p.Legal setup)
    (placed : p.before.table.Placed []) (sets : p.move = .setMonster card tributes) :
    ¬ p.before.table.Hides card ∧ Scene.Unnamed card p.before.toScene p.after.toScene := by
  obtain ⟨seat, made, -, -, -, hmade, after⟩ := play_ok legal
  rw [sets] at hmade
  obtain ⟨_, hmove, -⟩ := reported_eq_ok.1 hmade
  obtain ⟨printed, monster, ok, -, rfl⟩ := setMonster_ok hmove
  have unpaid : card ∉ tributes := fun hm =>
    absurd (placed.zone_unique ok.inHand (ok.onBoard card hm)) (by decide)
  refine ⟨placed.shown ok.inHand (by decide), ?_⟩
  have paying : Scene.Unnamed card p.before.toScene
      (p.before.toScene.each (payTribute setup seat) tributes).2 := unnamed_payTributes unpaid _
  have setting : Scene.Unnamed card p.before.toScene
      (p.before.played setup seat tributes monster (setNews seat card tributes.length)).toScene :=
    paying.trans (Scene.unnamed_report (f := (·.modifySide seat _)) fun _ => by
      simp [setNews, Details.get?])
  rw [after]
  exact setting.trans (unnamed_settleLife _)

end Match

/-! ## What is told of hidden monsters -/

namespace Sample

/-- A monster that can do nothing. -/
def husk : Card where
  id := ⟨3⟩
  name := "Hollow Husk"
  type := .creature
  attack := 500
  defense := 500

/-- A spell that weakens a monster. -/
def hex : Card where
  id := ⟨4⟩
  name := "Frail Hex"
  type := .spell
  text := some "Target monster loses 500 ATK."

def weakening : Ability :=
  ⟨[{ kind := .modifyAttack, value := -500, text := "Target monster loses 500 ATK" }]⟩

theorem ability_hex : weakening = hex.ability := by decide +kernel

/-- A duel with these two cards, and two cards in each hand at the start. -/
def veiled : Setup where
  catalog := ⟨[⟨husk, .none, rfl⟩, ⟨hex, weakening, ability_hex⟩]⟩
  rules := { startingHand := 2 }

/-- The host holds the husk and the hex, and makes some moves. -/
def veiling (moves : List Move) : List Call :=
  .createMatch lobby ⟨"game"⟩ players ⟨[husk.id, hex.id], [husk.id, husk.id]⟩ 0 ::
    moves.map fun move => .play (.user players.host) lobby move

/-- The match after these moves. -/
def unveiled (moves : List Move) : Match :=
  match ((Arena.start veiled).serveAll (veiling moves)).lobbies lobby with
  | .live m => m
  | _ => opened rite

end Sample

namespace Arena

/-- Whatever call is served: if a monster lies face-down before and after it, every event about
the monster that the call has added to the log tells that its ATK was changed or its effect
negated, and these events name it.  No event tells the name of a monster that the call sets. -/
theorem hidden_unless_marked (setup : Setup) (calls : List Call) (lobby : Lobby) (m m' : Match)
    (call : Call) (live : ((start setup).serveAll calls).lobbies lobby = .live m)
    (after : (((start setup).serveAll calls).serve call).2.lobbies lobby = .live m') :
    ∃ new, m'.log.events = m.log.events ++ new ∧
      (∀ card, m.table.Hides card → m'.table.Hides card →
        ∀ e ∈ new, e.details.About card →
          (e.type = .attackModified ∨ e.type = .effectNegated) ∧
            e.details.get? "cardName" = some (.text (setup.nameOf m.table card))) ∧
      ∀ caller card tributes, call = .play caller lobby (.setMonster card tributes) →
        ∀ e ∈ new, e.details.About card → e.details.get? "cardName" = none := by
  have placed := placed_of_live live
  have step := (serve_lobby ((start setup).serveAll calls) lobby call).2
  rw [setup_serveAll, live, after] at step
  rcases step.between with ⟨-, rfl⟩ | ⟨p, hplay, rfl, rfl, legal⟩
  · -- No move was made in the lobby.
    exact ⟨[], (List.append_nil _).symm, fun _ _ _ => List.forall_mem_nil _,
      fun _ _ _ _ => List.forall_mem_nil _⟩
  · obtain ⟨rfl, -, -⟩ := playIn?_eq_some.1 (Option.toList_eq_singleton_iff.1 hplay)
    obtain ⟨new, log⟩ := (Match.log_of_stages (Match.play_stages placed legal)).events
    refine ⟨new, log.symm, fun card before hidden => ?_, fun caller card tributes sets => ?_⟩
    · have other (tributes : List CardRef) : p.move ≠ .setMonster card tributes := fun sets =>
        (Match.play_unnamed legal placed sets).1 before
      exact (Match.play_discreet legal placed other).told_of log.symm hidden
    · injection sets with _ _ sets
      obtain ⟨-, new', log', unnamed⟩ := Match.play_unnamed legal placed sets
      obtain rfl : new = new' := List.append_cancel_left (log.trans log')
      exact unnamed

/-- The host weakens the husk while it is hidden, and the log then says that it is the husk. -/
theorem hex_names_husk :
    let before := Sample.unveiled [.setMonster ⟨0⟩ []]
    let after := Sample.unveiled [.setMonster ⟨0⟩ [], .activateSpell ⟨1⟩ [⟨0⟩]]
    before.table.Hides ⟨0⟩ ∧ after.table.Hides ⟨0⟩ ∧
      ∃ new, after.log.events = before.log.events ++ new ∧
        ∃ e ∈ new, e.details.About ⟨0⟩ ∧
          e.details.get? "cardName" = some (.text Sample.husk.name) := by
  intro before after
  obtain ⟨hidden, hidden', name, some⟩ : before.table.Hides ⟨0⟩ ∧ after.table.Hides ⟨0⟩ ∧
      Sample.veiled.nameOf before.table ⟨0⟩ = Sample.husk.name ∧
      ∃ e ∈ after.log.events.drop before.log.events.length, e.details.About ⟨0⟩ := by
    decide +kernel
  obtain ⟨new, log, told, -⟩ := hidden_unless_marked Sample.veiled
    (Sample.veiling [.setMonster ⟨0⟩ []]) Sample.lobby before after
    (.play (.user Sample.players.host) Sample.lobby (.activateSpell ⟨1⟩ [⟨0⟩])) rfl rfl
  rw [log, List.drop_left] at some
  obtain ⟨e, he, about⟩ := some
  obtain ⟨-, named⟩ := told ⟨0⟩ hidden hidden' e he about
  exact ⟨hidden, hidden', new, log, e, he, about, name ▸ named⟩

end Arena

end CardDuel
