import CardDuel.Proofs.Entries

/-!
# What becomes of monsters in play

A monster comes into play as it is printed, and from then on carries its own marks: its ATK, what it
has gained for the turn, and whether it has changed its position.  The marks have to be looked at
apart from the rest of the table, since few things ever touch them, and each of these is told by an
event of its own.

* `Monster.Fresh`: a monster is as it was when it came into play, and `Monster.Turned`: a monster
  has changed its position.
* `Fate`: one thing that happens to the monsters in play, and `Fates`: some of them one after the
  other.  Monsters leave, come into play, change their ATK, change their position, or rest.
* `Deed.fates`, `Motion.fates`, `Response.fates` and `Action.fates`: whatever is done in a match is
  a sequence of these.
* `mem_board_enter`, `mem_board_alter` and `mem_board_rest`: which monsters are in play afterwards.
* `Match.play_fates`: so is every move.
-/

namespace CardDuel

open Resolution

/-! ## Events of monsters -/

namespace EventType

/-- Whether the event tells that a monster came into play. -/
def isEntry : EventType → Bool
  | normalSummon | tributeSummon | monsterSet | specialSummon => true
  | _ => false

/-- Whether the event tells that a monster came into play or that its ATK changed. -/
def isOfMonsters (type : EventType) : Bool := type.isEntry || type == attackModified

theorem isOfMonsters_of_isPlain {type : EventType} (h : type.isPlain) :
    type.isOfMonsters = false := by
  cases type <;> first | rfl | cases h

theorem isOfMonsters_of_isEntry {type : EventType} (h : type.isEntry) : type.isOfMonsters := by
  rw [isOfMonsters, h]
  rfl

end EventType

/-! ## Marks of a monster -/

namespace Monster

/-- A monster has just come into play, as it is printed. -/
structure Fresh (setup : Setup) (t : Table) (m : Monster) : Prop where
  printed : ∃ printed, setup.card? t m.card = some printed ∧ m.attack = printed.attack
  bonus : m.bonus = 0
  unmoved : m.hasMoved = false
  entered : m.enteredOn = t.turn

/-- The second monster is the first after it has changed its position.  That hides no monster. -/
structure Turned (m m' : Monster) : Prop where
  card : m'.card = m.card
  attack : m'.attack = m.attack
  bonus : m'.bonus = m.bonus
  shown : m.facing = .up → m'.facing = .up
  moved : m'.hasMoved = true
  entered : m'.enteredOn = m.enteredOn

variable {setup : Setup} {t : Table} {card : CardRef} {printed : Card}

theorem Fresh.congr {t' : Table} {m : Monster} (h : m.Fresh setup t) (copies : t'.copies = t.copies)
    (turn : t'.turn = t.turn) : m.Fresh setup t' where
  printed := by
    rw [Setup.card?_of_copies copies]
    exact h.printed
  bonus := h.bonus
  unmoved := h.unmoved
  entered := h.entered.trans turn.symm

theorem fresh_arrival (stance : Stance) (known : setup.card? t card = some printed) :
    (arrival setup card printed stance t.turn).Fresh setup t :=
  ⟨⟨printed, known, rfl⟩, rfl, rfl, rfl⟩

theorem fresh_faceDown (protection : Protection) (known : setup.card? t card = some printed) :
    (faceDown card printed.attack printed.defense t.turn protection).Fresh setup t :=
  ⟨⟨printed, known, rfl⟩, rfl, rfl, rfl⟩

end Monster

/-- A board on which one monster has changed. -/
theorem Side.mem_modifyMonster {side : Side} {card : CardRef} {change : Monster → Monster}
    {m' : Monster} (once : (side.cardsIn .board).Nodup)
    (there : m' ∈ (side.modifyMonster card change).board) :
    (∃ m ∈ side.board, m.card = card ∧ m' = change m) ∨ m' ∈ side.board ∧ m'.card ≠ card := by
  have general (board : List Monster) (once : (board.map (·.card)).Nodup)
      (there : m' ∈ updateFirst (·.card == card) change board) :
      (∃ m ∈ board, m.card = card ∧ m' = change m) ∨ m' ∈ board ∧ m'.card ≠ card := by
    induction board with
    | nil => exact absurd there List.not_mem_nil
    | cons m board ih =>
      obtain ⟨apart, once⟩ := List.nodup_cons.1 once
      rw [updateFirst] at there
      split at there
      · next same =>
        have same : m.card = card := by simpa using same
        rcases List.mem_cons.1 there with rfl | left
        · exact .inl ⟨m, List.mem_cons_self, same, rfl⟩
        · refine .inr ⟨List.mem_cons_of_mem _ left, ?_⟩
          intro also
          exact apart (List.mem_map.2 ⟨m', left, also.trans same.symm⟩)
      · next other =>
        have other : m.card ≠ card := by simpa using other
        rcases List.mem_cons.1 there with rfl | left
        · exact .inr ⟨List.mem_cons_self, other⟩
        · rcases ih once left with ⟨old, onBoard, found⟩ | ⟨onBoard, apart⟩
          · exact .inl ⟨old, List.mem_cons_of_mem _ onBoard, found⟩
          · exact .inr ⟨List.mem_cons_of_mem _ onBoard, apart⟩
  exact general side.board once there

/-! ## Fates -/

/-- Monsters may have left the boards, and no monster in play has changed. -/
structure Table.Thinned (t t' : Table) : Prop where
  turn : t'.turn = t.turn
  copies : t'.copies = t.copies
  boards : ∀ seat, (t'.side seat).board.Sublist (t.side seat).board

/-- One thing that happens to the monsters in play, with the event that tells it. -/
inductive Fate (setup : Setup) : Scene → Scene → Prop where
  /-- Monsters may leave, and it is told apart from that. -/
  | thin {s s' : Scene} (thinned : Table.Thinned s.table s'.table) (log : s'.log = s.log) :
      Fate setup s s'
  | tell {s : Scene} {news : News} (other : news.type.isOfMonsters = false) :
      Fate setup s (s.record news)
  /-- A monster comes into play from a zone of its owner. -/
  | enter {s : Scene} {seat : Seat} {left : Zone} {monster : Monster} {news : News}
      {change : Side → Side} {loose : List CardRef} (placed : s.table.Placed loose)
      (held : monster.card ∈ (s.side seat).cardsIn left) (fresh : monster.Fresh setup s.table)
      (placing : ∀ side, (change side).board = (side.remove left monster.card).board ++ [monster])
      (kind : news.type.isEntry) (about : news.details.About monster.card) :
      Fate setup s ((s.change (·.modifySide seat change)).record news)
  /-- The ATK of a monster changes, for the turn or for good. -/
  | boost {s : Scene} {seat : Seat} {m : Monster} {news : News} {loose : List CardRef}
      (placed : s.table.Placed loose) (there : m ∈ (s.side seat).board) (value : Int)
      (untilEndOfTurn : Bool) (kind : news.type = .attackModified)
      (about : news.details.About m.card)
      (told : news.details.get? "change" = some (.whole value))
      (lasts : news.details.get? "temporary" = some (.truth untilEndOfTurn)) :
      Fate setup s ((s.change (·.modifySide seat
        (·.modifyMonster m.card (boosted · value untilEndOfTurn)))).record news)
  /-- A monster changes its position. -/
  | turn {s : Scene} {seat : Seat} {card : CardRef} {change : Monster → Monster} {news : News}
      {loose : List CardRef} (placed : s.table.Placed loose)
      (held : card ∈ (s.side seat).cardsIn .board) (turned : ∀ m : Monster, m.Turned (change m))
      (kind : news.type = .flipSummon ∨ news.type = .positionChanged)
      (about : news.details.About card) :
      Fate setup s ((s.change (·.modifySide seat (·.modifyMonster card change))).record news)
  /-- The turn is handed over, and all monsters rest. -/
  | rest (m : Match) (seat next : Seat) : Fate setup m.toScene (m.handOver seat next).toScene

/-- Some of these one after the other. -/
abbrev Fates (setup : Setup) : Scene → Scene → Prop := Relation.ReflTransGen (Fate setup)

section

variable {setup : Setup} {s s' : Scene} {f : Table → Table} {news : News}

theorem Table.Pared.thinned {t t' : Table} (h : Table.Pared t t') : Table.Thinned t t' :=
  ⟨h.turn, h.copies, fun seat => (h.sides seat).board⟩

/-- A change of the table that touches no monster in play, with news of something else. -/
theorem fates_report (thinned : Table.Thinned s.table (f s.table))
    (other : news.type.isOfMonsters = false) : Fates setup s ((s.change f).record news) :=
  have changed : Fate setup s (s.change f) := .thin thinned rfl
  .tail (.single changed) (.tell other)

/-- What goes out of the way may be monsters that leave. -/
theorem Clearing.fates (clearing : Clearing s s') : Fates setup s s' := by
  refine Relation.ReflTransGen.mono (fun before after clear => ?_) _ _ clearing
  cases clear with
  | pare pared log => exact .thin pared.thinned log
  | tell plain => exact .tell (EventType.isOfMonsters_of_isPlain plain)

theorem Table.thinned_modifySide (t : Table) (seat : Seat) {change : Side → Side}
    (same : (change (t.side seat)).board = (t.side seat).board) :
    Table.Thinned t (t.modifySide seat change) := by
  refine ⟨rfl, rfl, fun seat' => ?_⟩
  rw [Table.side_modifySide]
  split
  · next here =>
    subst here
    rw [same]
  · exact .refl _

end

/-! ## What effects do to monsters -/

namespace Resolution

variable {setup : Setup} {s s' : Scene} {loose : List CardRef}

theorem Deed.fates (deed : Deed setup s s') (placed : s.table.Placed loose) :
    Fates setup s s' := by
  cases deed with
  | nothing => exact .refl
  | mark rng used kept => exact .single (.thin ⟨rfl, rfl, fun _ => .refl _⟩ rfl)
  | negate target kind told =>
    exact (clearing_cards ⟨rfl, rfl, rfl, rfl, fun _ => .refl _⟩ (by rw [kind]; rfl)).fates
  | move kind about => exact (clearing_cards (Table.pared_moveToPile _ _ _ _) kind).fates
  | turnOver mark kind names about => exact (clearing_turnOver s mark _ _ _ kind).fates
  | shuffle seat kind about =>
    exact (clearing_cards (Table.pared_shuffleDeck _ seat) kind).fates
  | arrive held room known monster kind about =>
    exact .single (.enter placed held (Monster.fresh_arrival .attack known) (fun _ => rfl)
      (by rw [kind]; rfl) about)
  | @boost target controller m now e there changed =>
    obtain ⟨seat, -, found⟩ := List.exists_of_findSome?_eq_some there
    obtain ⟨m', first, same⟩ := Option.map_eq_some_iff.1 found
    obtain ⟨rfl, rfl⟩ := Prod.mk.inj same
    obtain rfl : m'.card = target := by simpa using List.find?_some first
    have onSide : s.table.modifyMonster m'.card (boosted · e.value e.untilEndOfTurn) =
        s.table.modifySide seat
          (·.modifyMonster m'.card (boosted · e.value e.untilEndOfTurn)) := by
      rw [Table.modifyMonster, there]
    rw [Scene.change, onSide]
    exact .single (.boost placed (List.mem_of_find?_eq_some first) _ _ rfl
      (setup.about_cardDetails s.table _ _) rfl rfl)
  | life seat change => exact fates_report (s.table.thinned_modifySide seat rfl) rfl

theorem Steps.fates (steps : Steps setup s s') (placed : s.table.Placed loose) :
    Fates setup s s' := by
  induction steps with
  | refl => exact .refl
  | tail before step ih =>
    have there := placed.rearranged (Steps.affected before).table.toRearranged
    refine ih.trans ?_
    cases step with
    | act act => exact act.deed.fates there
    | trigger card seat timing e s => exact .single (.tell rfl)

end Resolution

namespace Chain

variable {setup : Setup}

theorem fates_settleLinks (links : List Link) {s : Scene} (placed : s.table.Placed []) :
    Fates setup s (s.each (settleLink setup) links).2 := by
  let Kept (s' : Scene) : Prop := s'.table.Placed [] ∧ Fates setup s s'
  have step (link : Link) (s' : Scene) (kept : Kept s') : Kept (settleLink setup link s').2 :=
    ⟨(unchains_settleLink link kept.1).placed,
      (kept.2.trans ((runLink_steps link s').fates kept.1)).trans
        (clearing_spend setup link.card _).fates⟩
  exact (Scene.each_keeps step links ⟨placed, .refl⟩).2

end Chain

/-! ## What moves do to monsters -/

namespace Match

variable {setup : Setup} {m m' : Match} {ids : List LinkId} {seat : Seat} {card : CardRef}

/-- The tributes leave, and then the monster comes into play. -/
theorem fates_played {tributes : List CardRef} {printed : Card} {monster : Monster} {news : News}
    (placed : m.table.Placed []) (ok : Summonable setup m seat monster.card tributes printed)
    (fresh : monster.Fresh setup m.table) (kind : news.type.isEntry)
    (about : news.details.About monster.card) :
    Fates setup m.toScene (m.played setup seat tributes monster news).toScene := by
  let paid := (m.toScene.each (payTribute setup seat) tributes).2
  have kept : monster.card ∉ tributes := fun offered =>
    absurd (placed.zone_unique ok.inHand (ok.onBoard _ offered)) (by decide)
  have paying : Fates setup m.toScene paid := by
    let Kept (s : Scene) : Prop := Fates setup m.toScene s
    have step (tribute : CardRef) (s : Scene) (kept : Kept s) :
        Kept (payTribute setup seat tribute s).2 :=
      kept.trans (fates_report (s.table.pared_moveToPile tribute .graveyard .top).thinned rfl)
    exact Scene.each_keeps step tributes (Relation.ReflTransGen.refl : Kept m.toScene)
  have after : paid.table.Placed [] :=
    placed.rearranged (affected_payTributes tributes m.toScene).table.toRearranged
  have same := pared_payTributes setup seat tributes m.toScene
  exact paying.tail (.enter after (payTributes_keeps_hand ok.inHand kept)
    (fresh.congr same.copies same.turn) (fun _ => rfl) kind about)

theorem Motion.fates (motion : Motion setup m m') (placed : m.table.Placed []) :
    Fates setup m.toScene m'.toScene := by
  cases motion with
  | effects steps => exact steps.steps.fates placed
  | @summon seat card tributes printed ok onTurn stance =>
    refine fates_played placed ok (Monster.fresh_arrival stance ok.known) ?_
      (Details.about_cardId card _)
    unfold summonNews
    dsimp only
    split <;> rfl
  | flip there printed stance =>
    exact .single (.turn placed there (fun _ => ⟨rfl, rfl, rfl, fun _ => rfl, rfl, rfl⟩) (.inl rfl)
      (Details.about_cardId _ _))
  | @lay seat card printed ok =>
    refine fates_report (m.table.thinned_modifySide seat rfl) ?_
    unfold layNews
    dsimp only
    split <;> rfl
  | activate ok targets =>
    obtain ⟨ran, running, away⟩ := activate_stages targets
    exact ((clearing_lifted _ _).fates.trans (running.fates (placed.remove ok.held))).trans
      away.fates
  | enter seat phase playable => exact fates_report ⟨rfl, rfl, fun _ => .refl _⟩ rfl
  | trim seat => exact (clearing_enforceHandLimit setup seat m).fates

theorem Motions.fates (motions : Motions setup m m') (placed : m.table.Placed []) :
    Fates setup m.toScene m'.toScene := by
  induction motions with
  | refl => exact .refl
  | tail before motion ih =>
    have there := placed.rearranged (Motions.calm before placed).table
    exact ih.trans (motion.fates there)

theorem Response.fates (response : Response setup m ids m') (placed : m.table.Placed []) :
    Fates setup m.toScene m'.toScene := by
  cases response with
  | @turn seat card monster there faceUp name stance =>
    have same : monster.card = card := by simpa using List.find?_some there
    have held : card ∈ (m.side seat).cardsIn .board :=
      List.mem_map.2 ⟨monster, List.mem_of_find?_eq_some there, same⟩
    exact .single (.turn placed held (fun _ => ⟨rfl, rfl, rfl, id, rfl, rfl⟩) (.inr rfl)
      (Details.about_cardId _ _))
  | @link seat card zone printed effect targets id chain ok added =>
    exact (clearing_report (m.table.pared_liftCard seat card zone) rfl).fates
  | pass passed => exact .refl
  | resolve resolved =>
    obtain ⟨-, -, -, rfl⟩ := Chain.resolve_ok resolved
    exact .tail (Chain.fates_settleLinks m.chain.links.reverse placed) (.tell rfl)

theorem Action.fates {move : Move} (action : Action setup seat move m ids m')
    (placed : m.table.Placed []) : Fates setup m.toScene m'.toScene := by
  cases action with
  | none => exact .refl
  | response response => exact response.fates placed
  | motions _ motions => exact motions.fates placed
  | set sets ok onTurn hidden =>
    subst hidden
    exact fates_played placed ok (Monster.fresh_faceDown _ ok.known) rfl
      (Details.about_cardId _ _)
  | @turn ended _ ends onTurn noChain before after =>
    have begun : (ended.handOver seat seat.other).table.Placed [] :=
      placed.rearranged ((before.calm placed).trans (calm_handOver seat seat.other ended)).table
    exact ((before.fates placed).tail (.rest ended seat seat.other)).trans (after.fates begun)

/-- Whatever a move does to the monsters in play is a sequence of fates. -/
theorem play_fates {p : Play} (placed : p.before.table.Placed []) (legal : p.Legal setup) :
    Fates setup p.before.toScene p.after.toScene := by
  obtain ⟨_, moved, -, -, action, ⟨rfl, -⟩ | ending⟩ := play_action placed legal
  · exact action.fates placed
  · exact (action.fates placed).trans ending.clearing.fates

end Match

/-! ## The monsters in play afterwards -/

namespace Table

variable {t : Table} {loose : List CardRef} {seat seat' : Seat} {card : CardRef} {m' : Monster}

theorem Placed.mem_board_remove {left : Zone} (placed : t.Placed loose)
    (held : card ∈ (t.side seat).cardsIn left)
    (there : m' ∈ ((t.modifySide seat (·.remove left card)).side seat').board) :
    m' ∈ (t.side seat').board ∧ m'.card ≠ card := by
  have fewer := t.pared_modifySide seat fun side => side.pared_remove left card
  refine ⟨(fewer.sides seat').board.subset there, ?_⟩
  rintro rfl
  let fewer := t.modifySide seat (·.remove left m'.card)
  have onBoard : m'.card ∈ (fewer.side seat').cardsIn .board := List.mem_map_of_mem there
  exact (List.nodup_cons.1 (placed.remove held).nodup).1
    (List.mem_append_right _ (Placed.mem_census_of_mem_cards (Side.mem_cards_of_mem onBoard)))

/-- After a monster came into play there are this monster and others. -/
theorem Placed.mem_board_enter {left : Zone} {monster : Monster} {change : Side → Side}
    (placed : t.Placed loose) (held : monster.card ∈ (t.side seat).cardsIn left)
    (placing : ∀ side, (change side).board = (side.remove left monster.card).board ++ [monster])
    (there : m' ∈ ((t.modifySide seat change).side seat').board) :
    m' = monster ∨ m' ∈ (t.side seat').board ∧ m'.card ≠ monster.card := by
  suffices m' = monster ∨
      m' ∈ ((t.modifySide seat (·.remove left monster.card)).side seat').board from
    this.imp id (placed.mem_board_remove held)
  rw [side_modifySide] at there ⊢
  split
  · next here =>
    rw [if_pos here, placing] at there
    rcases List.mem_append.1 there with old | new
    · exact .inr (by subst here; exact old)
    · exact .inl (List.mem_singleton.1 new)
  · next other =>
    rw [if_neg other] at there
    exact .inr there

/-- After a monster has changed there are what has become of it and others. -/
theorem Placed.mem_board_alter {change : Monster → Monster} (placed : t.Placed loose)
    (held : card ∈ (t.side seat).cardsIn .board)
    (there : m' ∈ ((t.modifySide seat (·.modifyMonster card change)).side seat').board) :
    (∃ m ∈ (t.side seat').board, m.card = card ∧ m' = change m) ∨
      m' ∈ (t.side seat').board ∧ m'.card ≠ card := by
  rw [side_modifySide] at there
  split at there
  · next here =>
    subst here
    exact Side.mem_modifyMonster (placed.nodup_cardsIn seat' .board) there
  · next other =>
    refine .inr ⟨there, fun same => other ?_⟩
    have onBoard : card ∈ (t.side seat').cardsIn .board := same ▸ List.mem_map_of_mem there
    exact (placed.place_unique onBoard held).1

end Table

end CardDuel
