import CardDuel.Proofs.Spans
import CardDuel.Strength

/-!
# How long a card stays negated

A negated card is silent until the marks of the turn are taken off.  Three places of the program
see to that, which know nothing of each other: effects of the card are refused, links of the card
are dropped when their turn comes, and its standing modifiers do not count.  In between the card may
leave its zone, effects may set each other off, and a link may have waited since before.

* `Setup.Mutes`: what a negated card has lost on a table as it stands.
* `Moment`: a span, a link whose turn has come, or the table after a move.  `Play.moments` lists
  them for a move, with `none` for the rest at the end of a turn.
* `Moment.Negates` and `Moment.Silences`: a card is negated, and it is silent.
* `Lasts`: what holds of a stretch of play without a rest.  `lasts_fireWithin` shows it by induction
  on the depth, and `Match.make_turnByTurn` for every move.
* `Arena.negation_is_total`: over all calls that an arena may serve, a card that is negated is
  silent for the rest of the turn.
-/

namespace CardDuel

open Resolution

/-! ## What a negated card has lost -/

namespace Setup

variable {setup : Setup} {t : Table} {card : CardRef}

/-- The ATK of a monster in play if these are the standing modifiers of each monster. -/
def attackWith? (setup : Setup) (modifiers : Monster → List Effect) (t : Table)
    (card : CardRef) : Option Int :=
  (t.monster? card).map fun (seat, m) =>
    let support (source : Seat) : List Effect :=
      ((t.side source).board.flatMap modifiers).filter
        (·.reaches source seat (setup.card? t card))
    max (Effect.raise (wrap (m.attack + m.bonus)) (support .host ++ support .opponent)) 0

theorem attackWith?_modifiersOf (setup : Setup) (t : Table) (card : CardRef) :
    setup.attackWith? (setup.modifiersOf t) t card = setup.effectiveAttack? t card := rfl

/-- The ATK of a monster in play with the standing modifiers of one card left out. -/
def attackWithout? (setup : Setup) (t : Table) (left card : CardRef) : Option Int :=
  setup.attackWith? (fun m => if m.card = left then [] else setup.modifiersOf t m) t card

/-- A card is negated on a table, and no monster has anything from it. -/
structure Mutes (setup : Setup) (t : Table) (card : CardRef) : Prop where
  negated : card ∈ t.negated
  strength : ∀ monster, setup.effectiveAttack? t monster = setup.attackWithout? t card monster

theorem mutes_of_negated (negated : card ∈ t.negated) : setup.Mutes t card := by
  refine ⟨negated, fun monster => ?_⟩
  have same : (fun m => if m.card = card then [] else setup.modifiersOf t m) =
      setup.modifiersOf t := by
    funext m
    split
    · next own => simp [modifiersOf, own, negated]
    · rfl
  rw [attackWithout?, same, attackWith?_modifiersOf]

end Setup

namespace Resolution

variable {setup : Setup} {followUp : FollowUp} {r : Request} {card : CardRef} {s : Scene}

/-- An effect of a negated card is refused. -/
theorem runWith_of_negated (source : r.source = some card) (negated : card ∈ s.table.negated) :
    ∃ fault, runWith setup followUp r s = (.failed fault, s) := by
  have refused : fault? setup r s.table =
      some (setup.nameOf s.table card ++ "'s effect is negated") := by
    unfold fault?
    rw [source]
    simp [negated]
  exact ⟨_, by rw [runWith, refused]⟩

theorem negated_negate (success : (negate setup r s).1.success) :
    ∃ card, r.targets.head? = some card ∧ card ∈ (negate setup r s).2.table.negated := by
  unfold negate at success ⊢
  cases targets : r.targets with
  | nil => simp [targets, Outcome.failed] at success
  | cons card rest =>
    simp only [targets] at success
    refine ⟨card, rfl, ?_⟩
    split at success
    · next known =>
      simp only [known, ↓reduceIte]
      exact CardSet.mem_insert.2 (.inl rfl)
    · simp [Outcome.failed] at success

/-- A negation that succeeds negates its first target. -/
theorem negated_runWith (kind : r.effect.kind = .negate)
    (success : (runWith setup followUp r s).1.success) :
    ∃ card, r.targets.head? = some card ∧
      card ∈ (runWith setup followUp r s).2.table.negated := by
  have performs : perform setup followUp r s = negate setup r s := by rw [perform, kind]
  unfold runWith at success ⊢
  cases hfault : fault? setup r s.table with
  | some fault => simp [hfault, Outcome.failed] at success
  | none =>
    simp only [hfault, performs] at success ⊢
    obtain ⟨card, first, negated⟩ := negated_negate success
    have marked : Step setup _ (markUsed r (negate setup r s).2) := .act (.use r _)
    rw [if_pos success]
    exact ⟨card, first, marked.affected.table.negated card negated⟩

theorem each_trigger_of_negated (seat : Seat) (timing : Timing) (effects : List Effect)
    (negated : card ∈ s.table.negated) :
    (∀ outcome ∈ (s.each (trigger setup followUp card seat timing) effects).1,
        outcome.success = false) ∧
      (s.each (trigger setup followUp card seat timing) effects).2.table = s.table := by
  induction effects generalizing s with
  | nil => exact ⟨List.forall_mem_nil _, rfl⟩
  | cons e effects ih =>
    let told := s.record (triggerNews setup s.table card seat timing e)
    obtain ⟨fault, refused⟩ : ∃ fault,
        trigger setup followUp card seat timing e s = (.failed fault, told) :=
      runWith_of_negated rfl negated
    obtain ⟨fail, same⟩ := @ih told negated
    rw [Scene.each_cons, refused]
    exact ⟨List.forall_mem_cons.2 ⟨rfl, fail⟩, same⟩

/-- The effects of a negated card that are set off fail, and leave the table as it is. -/
theorem fireWithin_of_negated (depth : Nat) (seat : Seat) (timing : Timing)
    (negated : card ∈ s.table.negated) :
    (∀ outcome ∈ (fireWithin setup depth card seat timing s).1, outcome.success = false) ∧
      (fireWithin setup depth card seat timing s).2.table = s.table := by
  cases depth with
  | zero => exact ⟨List.forall_mem_nil _, rfl⟩
  | succ depth => exact each_trigger_of_negated seat timing _ negated

end Resolution

/-! ## Moments -/

namespace Span

/-- The scene in which the span ends. -/
def after : Span → Scene
  | run _ _ _ after => after
  | firing _ _ _ _ _ after => after

/-- The span is an effect of the card, or all effects of it at a timing, and comes to nothing. -/
def FailsFor (card : CardRef) : Span → Prop
  | run r before outcome after =>
    r.source = some card → outcome.success = false ∧ after = before
  | firing source _ _ before outcomes after =>
    source = card →
      (∀ outcome ∈ outcomes, outcome.success = false) ∧ after.table = before.table

end Span

/-- A moment at which it matters that a card is negated. -/
inductive Moment where
  | span (span : Span)
  /-- The turn of a link of the chain has come. -/
  | link (link : Link) (before : Scene)
  /-- The table after a move. -/
  | stand (table : Table)

namespace Moment

def span? : Moment → Option Span
  | .span done => some done
  | _ => none

/-- What is reported of a link whose turn has come. -/
def report? (setup : Setup) : Moment → Option LinkReport
  | .link due before => some (Chain.settleLink setup due before).1
  | _ => none

/-- The card is negated. -/
def Negates (card : CardRef) : Moment → Prop
  | .span (.run r _ outcome _) =>
    r.effect.kind = .negate ∧ r.targets.head? = some card ∧ outcome.success
  | _ => False

instance (card : CardRef) : (x : Moment) → Decidable (x.Negates card)
  | .span (.run r _ outcome _) =>
    inferInstanceAs (Decidable
      (r.effect.kind = .negate ∧ r.targets.head? = some card ∧ outcome.success))
  | .span (.firing ..) | .link .. | .stand _ => inferInstanceAs (Decidable False)

/-- The card does nothing: neither do its effects, nor its link, nor its standing modifiers. -/
def Silences (setup : Setup) (card : CardRef) : Moment → Prop
  | .span done =>
    setup.Mutes done.before.table card ∧ setup.Mutes done.after.table card ∧ done.FailsFor card
  | .link due before =>
    setup.Mutes before.table card ∧ (due.card = card →
      (Chain.runLink setup due before).1.success = false ∧
        (Chain.runLink setup due before).2 = before)
  | .stand table => setup.Mutes table card

theorem span?_map (spans : List Span) : (spans.map span).filterMap (·.span?) = spans := by
  rw [List.filterMap_map]
  exact List.filterMap_some

theorem report?_map (setup : Setup) (spans : List Span) :
    (spans.map span).filterMap (·.report? setup) = [] := by
  rw [List.filterMap_map]
  exact List.filterMap_eq_nil_iff.2 fun _ _ => rfl

end Moment

/-- The links of a chain when their turn comes, each with the spans of its effect. -/
def Chain.linkMoments (setup : Setup) : List Link → Scene → List Moment
  | [], _ => []
  | link :: links, s =>
    .link link s :: ((linkSpans setup link s).map .span ++
      linkMoments setup links (settleLink setup link s).2)

/-- The moments of a move that is made, and the rest if it ends the turn. -/
def Match.moments (setup : Setup) (seat : Seat) (m : Match) : Move → List (Option Moment)
  | .resolveChain => (Chain.linkMoments setup m.chain.links.reverse m.toScene).map some
  | .endTurn =>
    ((m.endPhaseSpans setup seat).map .span).map some ++
      if (m.endPhase setup seat).2.table.isActive then [none] else []
  | move => ((m.spans setup seat move).map .span).map some

/-- The moments of a move that was made, with the table that it left. -/
def Play.moments (setup : Setup) (p : Play) : List (Option Moment) :=
  (match p.before.seatOf? p.user with
    | some seat => p.before.moments setup seat p.move
    | none => []) ++ [some (.stand p.after.table)]

/-! ## A stretch of play -/

/-- A stretch of play without a rest.  A card that is negated when it begins is silent all along,
and one that is negated in the course of it is silent from then on. -/
structure Lasts (setup : Setup) (s : Scene) (moments : List Moment) (s' : Scene) : Prop where
  grows : ∀ card ∈ s.table.negated, card ∈ s'.table.negated
  silent : ∀ card ∈ s.table.negated, ∀ y ∈ moments, y.Silences setup card
  marks : ∀ x ∈ moments, ∀ card, x.Negates card → card ∈ s'.table.negated
  lasts : moments.Pairwise fun x y => ∀ card, x.Negates card → y.Silences setup card

namespace Lasts

variable {setup : Setup} {s s' s'' : Scene} {moments moments' : List Moment}

theorem quiet (grows : ∀ card ∈ s.table.negated, card ∈ s'.table.negated) :
    Lasts setup s [] s' :=
  ⟨grows, fun _ _ => List.forall_mem_nil _, List.forall_mem_nil _, .nil⟩

theorem of_steps (steps : Steps setup s s') : Lasts setup s [] s' :=
  .quiet steps.affected.table.negated

theorem trans (h : Lasts setup s moments s') (h' : Lasts setup s' moments' s'') :
    Lasts setup s (moments ++ moments') s'' where
  grows card negated := h'.grows card (h.grows card negated)
  silent card negated := List.forall_mem_append.2
    ⟨h.silent card negated, h'.silent card (h.grows card negated)⟩
  marks := List.forall_mem_append.2
    ⟨fun x hx card negates => h'.grows card (h.marks x hx card negates), h'.marks⟩
  lasts := List.pairwise_append.2
    ⟨h.lasts, h'.lasts, fun x hx y hy card negates =>
      h'.silent card (h.marks x hx card negates) y hy⟩

/-- A moment goes before what happens inside it.  If it negates a card, nothing does. -/
theorem cons {x : Moment} (h : Lasts setup s moments s')
    (silent : ∀ card ∈ s.table.negated, x.Silences setup card)
    (negates : ∀ card, x.Negates card → moments = [] ∧ card ∈ s'.table.negated) :
    Lasts setup s (x :: moments) s' where
  grows := h.grows
  silent card negated := List.forall_mem_cons.2 ⟨silent card negated, h.silent card negated⟩
  marks := List.forall_mem_cons.2 ⟨fun card hc => (negates card hc).2, h.marks⟩
  lasts := by
    refine List.pairwise_cons.2 ⟨fun y hy card hc => ?_, h.lasts⟩
    rw [(negates card hc).1] at hy
    exact absurd hy List.not_mem_nil

theorem each {α β : Type} {act : α → Scene → β × Scene} {spans : α → Scene → List Span}
    (h : ∀ x s, Lasts setup s ((spans x s).map .span) (act x s).2) (xs : List α) (s : Scene) :
    Lasts setup s ((spansEach act spans xs s).map .span) (s.each act xs).2 := by
  induction xs generalizing s with
  | nil => exact .quiet fun _ negated => negated
  | cons x xs ih =>
    rw [Scene.each_cons, spansEach, List.map_append]
    exact (h x s).trans (ih (act x s).2)

end Lasts

/-! ## Effects -/

namespace Resolution

variable {setup : Setup}

section

variable {followUp : FollowUp} {spans : FollowUpSpans}
  (follows : ∀ card seat timing s,
    Lasts setup s ((spans card seat timing s).map .span) (followUp card seat timing s).2)

include follows

theorem lasts_destroyCard (target : CardRef) (s : Scene) :
    Lasts setup s ((destroyCardSpans setup spans target s).map .span)
      (destroyCard setup followUp target s).2 := by
  unfold destroyCard destroyCardSpans
  cases hd : destroyed setup target s with
  | error fault => exact .quiet fun _ negated => negated
  | ok gone =>
    have going : Steps setup s gone.2 := .single (.act (.destroy hd))
    exact (Lasts.of_steps going).trans (follows target gone.1 .onDestroy gone.2)

theorem lasts_perform (r : Request) (s : Scene) :
    Lasts setup s ((performSpans setup followUp spans r s).map .span)
      (perform setup followUp r s).2 := by
  unfold performSpans
  cases kind : r.effect.kind with
  | destroy =>
    simp only [perform, kind, destroySpans, destroy]
    split
    · exact .quiet fun _ negated => negated
    · exact .each (lasts_destroyCard follows) _ s
  | summon =>
    simp only [perform, kind, summonSpans, summon]
    cases hs : specialSummoned setup r s with
    | error fault => exact .quiet fun _ negated => negated
    | ok there =>
      obtain ⟨card, printed, there⟩ := there
      have coming : Steps setup s there := .single (.act (.summon hs))
      exact (Lasts.of_steps coming).trans (follows card r.actor .onSummon there)
  | _ => exact .of_steps (perform_acts setup followUp (by simp [kind]) (by simp [kind]) s).steps

/-- What goes on inside an effect, up to its end. -/
theorem lasts_inside (r : Request) (s : Scene) :
    Lasts setup s ((if (fault? setup r s.table).isSome then []
        else performSpans setup followUp spans r s).map .span)
      (runWith setup followUp r s).2 := by
  unfold runWith
  cases hfault : fault? setup r s.table with
  | some fault => exact .quiet fun _ negated => negated
  | none =>
    have performed := lasts_perform follows r s
    have ending : Steps setup (perform setup followUp r s).2
        (if (perform setup followUp r s).1.success then markUsed r (perform setup followUp r s).2
          else (perform setup followUp r s).2) := by
      split
      · exact .single (.act (.use r _))
      · exact .refl
    have whole := performed.trans (.of_steps ending)
    rwa [List.append_nil] at whole

theorem lasts_runWith (r : Request) (s : Scene) :
    Lasts setup s ((runWithSpans setup followUp spans r s).map .span)
      (runWith setup followUp r s).2 := by
  have inside := lasts_inside follows r s
  refine inside.cons (fun card negated => ?_) (fun card ⟨kind, first, success⟩ => ?_)
  · refine ⟨Setup.mutes_of_negated negated, Setup.mutes_of_negated (inside.grows card negated),
      fun source => ?_⟩
    obtain ⟨fault, refused⟩ : ∃ fault, runWith setup followUp r s = (.failed fault, s) :=
      runWith_of_negated source negated
    rw [refused]
    exact ⟨rfl, rfl⟩
  · obtain ⟨target, chosen, negated⟩ := negated_runWith kind success
    cases chosen.symm.trans first
    refine ⟨?_, negated⟩
    simp [performSpans, kind]

end

theorem lasts_fireWithin (depth : Nat) (card : CardRef) (seat : Seat) (timing : Timing)
    (s : Scene) :
    Lasts setup s ((fireWithinSpans setup depth card seat timing s).map .span)
      (fireWithin setup depth card seat timing s).2 := by
  induction depth generalizing card seat timing s with
  | zero => exact .quiet fun _ negated => negated
  | succ depth ih =>
    have one (e : Effect) (s : Scene) :
        Lasts setup s ((triggerSpans setup (fireWithin setup depth) (fireWithinSpans setup depth)
          card seat timing e s).map .span)
          (trigger setup (fireWithin setup depth) card seat timing e s).2 := by
      have told : Steps setup s _ := .single (.trigger card seat timing e s)
      exact (Lasts.of_steps told).trans (lasts_runWith ih _ _)
    have inside := Lasts.each one ((setup.abilityOf s.table card).triggered timing) s
    refine inside.cons (fun negated hn => ?_) (fun _ negates => negates.elim)
    refine ⟨Setup.mutes_of_negated hn, Setup.mutes_of_negated (inside.grows negated hn), ?_⟩
    rintro rfl
    exact fireWithin_of_negated (depth + 1) seat timing hn

theorem lasts_fire (card : CardRef) (seat : Seat) (timing : Timing) (s : Scene) :
    Lasts setup s ((fireSpans setup card seat timing s).map .span)
      (fire setup card seat timing s).2 :=
  lasts_fireWithin _ card seat timing s

theorem lasts_run (r : Request) (s : Scene) :
    Lasts setup s ((runSpans setup r s).map .span) (run setup r s).2 :=
  lasts_runWith lasts_fire r s

theorem lasts_runAbility (card : CardRef) (seat : Seat) (targets : List CardRef) (s : Scene) :
    Lasts setup s ((runAbilitySpans setup card seat targets s).map .span)
      (runAbility setup card seat targets s).2 :=
  .each (fun _ s => lasts_run _ s) _ s

end Resolution

/-! ## Moves -/

section

variable {setup : Setup} {s s' s'' : Scene}

namespace Chain

/-- A link of a negated card comes to nothing. -/
theorem runLink_of_negated {link : Link} (negated : link.card ∈ s.table.negated) :
    (runLink setup link s).1.success = false ∧ (runLink setup link s).2 = s := by
  unfold runLink
  rw [if_pos negated]
  exact ⟨rfl, rfl⟩

theorem lasts_settleLink (link : Link) (s : Scene) :
    Lasts setup s ((linkSpans setup link s).map .span) (settleLink setup link s).2 := by
  have ran : Lasts setup s ((linkSpans setup link s).map .span) (runLink setup link s).2 := by
    unfold linkSpans runLink
    split
    · exact .quiet fun _ negated => negated
    · exact lasts_run _ s
  have spent : Lasts setup (runLink setup link s).2 [] (settleLink setup link s).2 := by
    refine .quiet fun card negated => ?_
    show card ∈ (spend setup link.card (runLink setup link s).2).table.negated
    rwa [(marks_spend setup _ _).2]
  have whole := ran.trans spent
  rwa [List.append_nil] at whole

theorem lasts_linkMoments (links : List Link) (s : Scene) :
    Lasts setup s (linkMoments setup links s) (s.each (settleLink setup) links).2 := by
  induction links generalizing s with
  | nil => exact .quiet fun _ negated => negated
  | cons link links ih =>
    rw [linkMoments, Scene.each_cons]
    refine ((lasts_settleLink link s).trans (ih _)).cons (fun card negated => ?_)
      (fun _ negates => negates.elim)
    refine ⟨Setup.mutes_of_negated negated, ?_⟩
    rintro rfl
    exact runLink_of_negated negated

/-- The moments of the links hold all spans of the chain. -/
theorem spans_linkMoments (links : List Link) (s : Scene) :
    (linkMoments setup links s).filterMap (·.span?) =
      spansEach (settleLink setup) (linkSpans setup) links s := by
  induction links generalizing s with
  | nil => rfl
  | cons link links ih =>
    rw [linkMoments, List.filterMap_cons_none rfl, List.filterMap_append, Moment.span?_map, ih]
    rfl

/-- The moments of the links tell what is reported of them. -/
theorem reports_linkMoments (links : List Link) (s : Scene) :
    (linkMoments setup links s).filterMap (·.report? setup) =
      (s.each (settleLink setup) links).1 := by
  induction links generalizing s with
  | nil => rfl
  | cons link links ih =>
    let report := (settleLink setup link s).1
    rw [linkMoments, Scene.each_cons]
    show report :: List.filterMap (Moment.report? setup) (_ ++ _) = report :: _
    rw [List.filterMap_append, Moment.report?_map, List.nil_append, ih]

end Chain

/-! ## Turns -/

/-- Stretches of play with rests in between.  Nothing is said of what happens around a rest. -/
inductive TurnByTurn (setup : Setup) : Scene → List (Option Moment) → Scene → Prop where
  | done (s : Scene) : TurnByTurn setup s [] s
  | stretch {s s' s'' : Scene} {moments : List Moment} {later : List (Option Moment)}
      (lasts : Lasts setup s moments s') (more : TurnByTurn setup s' later s'') :
      TurnByTurn setup s (moments.map some ++ later) s''
  | rest {s s' s'' : Scene} {later : List (Option Moment)} (more : TurnByTurn setup s' later s'') :
      TurnByTurn setup s (none :: later) s''

namespace TurnByTurn

variable {moments : List Moment} {all later : List (Option Moment)}

theorem of_lasts (h : Lasts setup s moments s') : TurnByTurn setup s (moments.map some) s' := by
  have whole : TurnByTurn setup s (moments.map some ++ []) s' := .stretch h (.done s')
  rwa [List.append_nil] at whole

theorem trans (h : TurnByTurn setup s all s') (h' : TurnByTurn setup s' later s'') :
    TurnByTurn setup s (all ++ later) s'' := by
  induction h with
  | done s => exact h'
  | stretch lasts _ ih =>
    rw [List.append_assoc]
    exact .stretch lasts (ih h')
  | rest _ ih => exact .rest (ih h')

/-- A turn that begins with these moments. -/
theorem takeWhile_stretch (moments : List Moment) (later : List (Option Moment)) :
    (moments.map some ++ later).takeWhile (·.isSome) =
      moments.map some ++ later.takeWhile (·.isSome) :=
  List.takeWhile_append_of_pos (List.forall_mem_map.2 fun _ _ => rfl)

/-- What comes after a moment of a stretch. -/
theorem suffix_stretch {x : Moment} {after : List (Option Moment)}
    (h : some x :: after <:+ moments.map some ++ later) :
    (∃ rest, after = rest.map some ++ later ∧ x :: rest <:+ moments) ∨
      some x :: after <:+ later := by
  induction moments with
  | nil => exact .inr h
  | cons y moments ih =>
    rw [List.map_cons, List.cons_append, List.suffix_cons_iff] at h
    rcases h with here | further
    · cases here
      exact .inl ⟨moments, rfl, List.suffix_refl _⟩
    · rcases ih further with ⟨rest, same, ends⟩ | below
      · exact .inl ⟨rest, same, ends.trans (List.suffix_cons _ _)⟩
      · exact .inr below

/-- A card that is negated is silent for the rest of the turn. -/
theorem silent (h : TurnByTurn setup s all s') :
    (∀ card ∈ s.table.negated, ∀ y, some y ∈ all.takeWhile (·.isSome) → y.Silences setup card) ∧
      ∀ x after, some x :: after <:+ all → ∀ card, x.Negates card →
        ∀ y, some y ∈ after.takeWhile (·.isSome) → y.Silences setup card := by
  induction h with
  | done s =>
    refine ⟨fun _ _ _ hy => absurd hy List.not_mem_nil, fun x after ends => ?_⟩
    exact absurd (List.suffix_nil.1 ends) (List.cons_ne_nil _ _)
  | @stretch s s' s'' moments later lasts _ ih =>
    have split (y : Moment) (rest : List Moment)
        (hy : some y ∈ (rest.map some ++ later).takeWhile (·.isSome)) :
        y ∈ rest ∨ some y ∈ later.takeWhile (·.isSome) := by
      simpa [takeWhile_stretch] using hy
    refine ⟨fun card negated y hy => ?_, fun x after ends card negates y hy => ?_⟩
    · rcases split y moments hy with now | thereafter
      · exact lasts.silent card negated y now
      · exact ih.1 card (lasts.grows card negated) y thereafter
    · rcases suffix_stretch ends with ⟨rest, rfl, within⟩ | below
      · rcases split y rest hy with now | thereafter
        · have pairs := lasts.lasts.sublist within.sublist
          exact (List.pairwise_cons.1 pairs).1 y now card negates
        · have there := lasts.marks x (within.subset List.mem_cons_self) card negates
          exact ih.1 card there y thereafter
      · exact ih.2 x after below card negates y hy
  | rest _ ih =>
    refine ⟨fun _ _ _ hy => absurd hy List.not_mem_nil, fun x after ends => ?_⟩
    rcases List.suffix_cons_iff.1 ends with here | below
    · cases here
    · exact ih.2 x after below

end TurnByTurn

namespace Match

variable {m after : Match} {seat : Seat}

theorem lasts_fireForBoard (seat : Seat) (timing : Timing) (s : Scene) :
    Lasts setup s ((boardSpans setup seat timing s).map .span)
      (fireForBoard setup seat timing s).2 := by
  have one (card : CardRef) (s : Scene) :
      Lasts setup s ((if isFaceUp s seat card then fireSpans setup card seat timing s else []).map
        .span) (fireIfFaceUp setup seat timing card s).2 := by
    unfold fireIfFaceUp
    split
    · exact lasts_fire card seat timing s
    · exact .quiet fun _ negated => negated
  exact .each one _ s

theorem lasts_endPhase (seat : Seat) (m : Match) :
    Lasts setup m.toScene ((m.endPhaseSpans setup seat).map .span)
      (m.endPhase setup seat).2.toScene := by
  let there := m.atEndPhase seat
  let own := (there.act (fireForBoard setup seat .onEnd)).2
  let others := (own.act (fireForBoard setup seat.other .onEnd)).2
  have arriving : Lasts setup m.toScene [] there.toScene := by
    refine .quiet fun card negated => ?_
    show card ∈ (m.atEndPhase seat).table.negated
    unfold atEndPhase
    split
    · exact negated
    · exact negated
  have first : Lasts setup there.toScene ((boardSpans setup seat .onEnd there.toScene).map .span)
      own.toScene := lasts_fireForBoard seat .onEnd there.toScene
  have second : Lasts setup own.toScene
      ((boardSpans setup seat.other .onEnd own.toScene).map .span) others.toScene :=
    lasts_fireForBoard seat.other .onEnd own.toScene
  have settled : Lasts setup others.toScene [] others.settleLife.toScene :=
    .quiet fun card negated => by rwa [(marks_settleLife _).2]
  have whole := arriving.trans ((first.trans second).trans settled)
  rwa [List.append_nil, ← List.map_append] at whole

theorem lasts_activate {card : CardRef} {zone : Zone} {printed : Card} {targets : List CardRef}
    (ok : Activatable setup m seat card zone printed) :
    Lasts setup m.toScene ((m.activateSpans setup seat card targets).map .span)
      (m.activate setup seat card zone printed targets).2.toScene := by
  let lifted := (m.lifted seat card zone printed).toScene
  let ran := (runAbility setup card seat targets lifted).2
  have lifting : Lasts setup m.toScene [] lifted := .quiet fun _ negated => negated
  have running : Lasts setup lifted ((runAbilitySpans setup card seat targets lifted).map .span)
      ran := lasts_runAbility card seat targets lifted
  have putting : Lasts setup ran []
      (m.activate setup seat card zone printed targets).2.toScene := by
    obtain ⟨sides, rng, put⟩ := ran.table.placeInPile_frame card .graveyard .top
    refine .quiet fun c negated => ?_
    show c ∈ (ran.table.placeInPile card .graveyard .top).negated
    rw [put]
    exact negated
  have whole := lifting.trans (running.trans putting)
  unfold activateSpans
  rw [ok.known]
  simp only [ok.zone]
  rwa [List.append_nil] at whole

/-- A move that does not end the turn is one stretch. -/
theorem make_lasts {move : Move} {report : MoveReport}
    (made : m.make setup seat move = .ok (report, after)) (chain : move ≠ .resolveChain)
    (turn : move ≠ .endTurn) :
    Lasts setup m.toScene ((m.spans setup seat move).map .span) after.toScene := by
  cases move with
  | normalSummon card tributes stance =>
    obtain ⟨_, hmove, -⟩ := reported_eq_ok.1 made
    obtain ⟨printed, ok, -, rfl⟩ := normalSummon_ok hmove
    simp only [spans, ok.known]
    have paid : Lasts setup m.toScene []
        (m.summoned setup seat card printed tributes stance).toScene :=
      .quiet (affected_payTributes tributes m.toScene).table.negated
    exact paid.trans (lasts_fire card seat .onSummon _)
  | setMonster card tributes =>
    obtain ⟨_, hmove, -⟩ := reported_eq_ok.1 made
    obtain ⟨printed, monster, -, -, rfl⟩ := setMonster_ok hmove
    exact .quiet (affected_payTributes tributes m.toScene).table.negated
  | flipSummon card stance =>
    obtain ⟨_, hmove, -⟩ := reported_eq_ok.1 made
    obtain ⟨printed, -, -, known, -, rfl⟩ := flipSummon_ok hmove
    simp only [spans, known]
    have turned : Lasts setup m.toScene [] (m.flipped seat card printed stance).toScene :=
      .quiet fun _ negated => negated
    exact turned.trans (lasts_fire card seat .onFlip _)
  | changePosition card =>
    obtain ⟨_, hmove, -⟩ := reported_eq_ok.1 made
    obtain ⟨printed, monster, -, -, rfl⟩ := changePosition_ok hmove
    exact .quiet fun _ negated => negated
  | setSpellTrap card =>
    obtain ⟨_, hmove, -⟩ := reported_eq_ok.1 made
    obtain ⟨printed, -, rfl⟩ := setSpellTrap_ok hmove
    exact .quiet fun _ negated => negated
  | activateSpell card targets =>
    obtain ⟨_, hmove, -⟩ := reported_eq_ok.1 made
    obtain ⟨printed, zone, ok, heq⟩ := activateSpell_ok hmove
    have hafter : after = _ := congrArg Prod.snd heq
    rw [hafter]
    exact lasts_activate ok
  | activateTrap card targets =>
    obtain ⟨_, hmove, -⟩ := reported_eq_ok.1 made
    obtain ⟨printed, ok, heq⟩ := activateTrap_ok hmove
    have hafter : after = _ := congrArg Prod.snd heq
    rw [hafter]
    exact lasts_activate ok
  | addToChain card targets =>
    obtain ⟨_, hmove, -⟩ := reported_eq_ok.1 made
    obtain ⟨printed, zone, effect, chain, -, -, rfl⟩ := addToChain_ok hmove
    refine .quiet fun c negated => ?_
    show c ∈ (liftCard seat card zone m.table).negated
    unfold liftCard
    split
    · exact negated
    · exact negated
  | passPriority =>
    obtain ⟨_, hmove, -⟩ := reported_eq_ok.1 made
    obtain ⟨chain, -, rfl⟩ := passPriority_ok hmove
    exact .quiet fun _ negated => negated
  | resolveChain => exact absurd rfl chain
  | advancePhase =>
    obtain ⟨_, hmove, -⟩ := reported_eq_ok.1 made
    obtain ⟨entered, -, follows, -, rfl⟩ := advancePhase_ok hmove
    have arriving : Lasts setup m.toScene [] (m.enterPhase seat entered).toScene :=
      .quiet fun _ negated => negated
    rw [spans, follows]
    cases entered with
    | battle => exact arriving.trans (lasts_fireForBoard seat .onBattleStart _)
    | _ => exact arriving
  | endTurn => exact absurd rfl turn
  | surrender =>
    cases pure_eq_ok.1 made
    exact .quiet fun card negated => by rwa [surrender, (marks_finish _ _ _).2]

theorem make_turnByTurn {move : Move} {report : MoveReport}
    (made : m.make setup seat move = .ok (report, after)) :
    TurnByTurn setup m.toScene (m.moments setup seat move) after.toScene := by
  have plain (chain : move ≠ .resolveChain) (turn : move ≠ .endTurn)
      (same : m.moments setup seat move = ((m.spans setup seat move).map .span).map some) :
      TurnByTurn setup m.toScene (m.moments setup seat move) after.toScene := by
    rw [same]
    exact .of_lasts (make_lasts made chain turn)
  cases move with
  | resolveChain =>
    obtain ⟨reports, hmove, -⟩ := reported_eq_ok.1 made
    obtain ⟨-, -, -, hafter⟩ := Chain.resolve_ok (resolveChain_ok hmove)
    have settled : Lasts setup m.toScene
        (Chain.linkMoments setup m.chain.links.reverse m.toScene)
        (m.toScene.each (Chain.settleLink setup) m.chain.links.reverse).2 :=
      Chain.lasts_linkMoments _ m.toScene
    have recorded : Lasts setup
        (m.toScene.each (Chain.settleLink setup) m.chain.links.reverse).2 [] after.toScene := by
      refine .quiet fun card negated => ?_
      rw [hafter]
      exact negated
    have whole := settled.trans recorded
    rw [List.append_nil] at whole
    exact .of_lasts whole
  | endTurn =>
    obtain ⟨_, hmove, -⟩ := reported_eq_ok.1 made
    obtain ⟨-, -, rfl⟩ := endTurn_ok hmove
    have ended : TurnByTurn setup m.toScene (((m.endPhaseSpans setup seat).map .span).map some)
        (m.endPhase setup seat).2.toScene := .of_lasts (lasts_endPhase seat m)
    refine ended.trans ?_
    split
    · exact .rest (.done _)
    · exact .done _
  | _ => exact plain nofun nofun rfl

/-- When the next player takes over, no card is negated any more. -/
theorem negated_nextTurn (seat : Seat) (m : Match) :
    (m.nextTurn setup seat).table.negated = .empty := by
  let begun := (m.enforceHandLimit setup seat).2.handOver seat seat.other
  have rested : begun.table.negated = .empty := rfl
  show (begun.drawPhase seat.other).2.table.negated = .empty
  unfold drawPhase
  split
  · exact (marks_finish _ _ begun).2.trans rested
  · show (draw seat.other 1 begun.toScene).2.table.negated = .empty
    unfold draw
    dsimp only
    split
    · exact rested
    · exact rested

/-- A rest belongs to a move that ends the turn, and takes the marks off. -/
theorem rest_of_moments {move : Move} {report : MoveReport}
    (made : m.make setup seat move = .ok (report, after))
    (rests : none ∈ m.moments setup seat move) :
    move = .endTurn ∧ after.table.negated = .empty := by
  have never (moments : List Moment) : none ∉ moments.map some := by simp
  cases move with
  | endTurn =>
    obtain ⟨_, hmove, -⟩ := reported_eq_ok.1 made
    obtain ⟨-, -, rfl⟩ := endTurn_ok hmove
    refine ⟨rfl, ?_⟩
    have ended := (List.mem_append.1 rests).resolve_left (never _)
    split at ended
    · next active =>
      rw [if_pos active]
      exact negated_nextTurn seat _
    · exact absurd ended List.not_mem_nil
  | _ => exact absurd rests (never _)

/-- The spans among the moments of a move are its spans. -/
theorem spans_moments (seat : Seat) (m : Match) (move : Move) :
    (m.moments setup seat move).filterMap (·.bind (·.span?)) = m.spans setup seat move := by
  have some? (moments : List Moment) :
      (moments.map some).filterMap (·.bind (·.span?)) = moments.filterMap (·.span?) := by
    rw [List.filterMap_map]
    rfl
  cases move with
  | resolveChain => exact (some? _).trans (Chain.spans_linkMoments _ _)
  | endTurn =>
    have ends : (if (m.endPhase setup seat).2.table.isActive then [none] else
        ([] : List (Option Moment))).filterMap (·.bind (·.span?)) = [] := by
      split
      · rfl
      · rfl
    rw [moments, List.filterMap_append, some?, Moment.span?_map, ends, List.append_nil]
    rfl
  | _ => exact (some? _).trans (Moment.span?_map _)

end Match

namespace Play

variable {p : Play}

theorem turnByTurn (legal : p.Legal setup) :
    TurnByTurn setup p.before.toScene (p.moments setup) p.after.toScene := by
  obtain ⟨seat, made, seated, -, -, hmade, hafter⟩ := Match.play_ok legal
  have stands : Lasts setup made.toScene [.stand p.after.table] p.after.toScene := by
    rw [hafter]
    have settled : Lasts setup made.toScene [] made.settleLife.toScene :=
      .quiet fun card negated => by rwa [(Match.marks_settleLife _).2]
    exact settled.cons
      (fun card negated => Setup.mutes_of_negated (settled.grows card negated))
      (fun _ negates => negates.elim)
  unfold moments
  rw [seated]
  exact (Match.make_turnByTurn hmade).trans (.of_lasts stands)

theorem spans_moments (legal : p.Legal setup) :
    (p.moments setup).filterMap (·.bind (·.span?)) = p.spans setup := by
  obtain ⟨seat, made, seated, -⟩ := Match.play_ok legal
  unfold moments spans
  rw [seated, List.filterMap_append, Match.spans_moments]
  exact List.append_nil _

/-- The effects among the moments of a move are all its executions, at any depth. -/
theorem tried_moments (legal : p.Legal setup) :
    ((p.moments setup).filterMap (·.bind (·.span?))).filterMap (·.tried?) =
      (Execution.flat (turnOf 0 (p.beats setup))).map (·.told) := by
  rw [spans_moments legal]
  obtain ⟨seat, made, seated, -⟩ := Match.play_ok legal
  unfold spans beats
  rw [seated, Match.tried_spans]

/-- After a rest no card is negated. -/
theorem rest_of_moments (legal : p.Legal setup) (rests : none ∈ p.moments setup) :
    p.move = .endTurn ∧ p.after.table.negated = .empty := by
  obtain ⟨seat, made, seated, -, -, hmade, hafter⟩ := Match.play_ok legal
  unfold moments at rests
  rw [seated] at rests
  have inside := (List.mem_append.1 rests).resolve_right (by simp)
  obtain ⟨move, negated⟩ := Match.rest_of_moments hmade inside
  rw [hafter, (Match.marks_settleLife _).2]
  exact ⟨move, negated⟩

/-- The report of a chain tells what becomes of the links when their turn has come. -/
theorem report_moments (legal : p.Legal setup) (chain : p.move = .resolveChain) :
    p.report = .resolved ((p.moments setup).filterMap (·.bind (·.report? setup))) := by
  obtain ⟨seat, made, seated, -, -, hmade, -⟩ := Match.play_ok legal
  rw [chain] at hmade
  obtain ⟨reports, hmove, told⟩ := Match.reported_eq_ok.1 hmade
  obtain ⟨-, -, rfl, -⟩ := Chain.resolve_ok (Match.resolveChain_ok hmove)
  have listed : p.before.moments setup seat p.move =
      (Chain.linkMoments setup p.before.chain.links.reverse p.before.toScene).map some := by
    rw [chain]
    rfl
  have all : p.moments setup =
      (Chain.linkMoments setup p.before.chain.links.reverse p.before.toScene).map some ++
        [some (.stand p.after.table)] := by
    rw [← listed, moments, seated]
  rw [all, List.filterMap_append, List.filterMap_map, ← told, ← Chain.reports_linkMoments]
  exact congrArg _ (List.append_nil _).symm

end Play

theorem turnByTurn_of_plays {m m' : Match} {plays : List Play} (h : Plays setup m plays m') :
    TurnByTurn setup m.toScene (plays.flatMap (·.moments setup)) m'.toScene := by
  induction h with
  | done m => exact .done m.toScene
  | next legal _ ih => exact (Play.turnByTurn legal).trans ih

end

namespace Sample

/-- A monster that strengthens the monsters beside it. -/
def banner : Card where
  id := ⟨9⟩
  name := "Torn Banner"
  type := .creature
  attack := 900
  text := some "All monsters you control gain 300 ATK. Gain 200 LP."

/-- A spell that takes the effects from a monster. -/
def hush : Card where
  id := ⟨10⟩
  name := "Deep Hush"
  type := .spell
  text := some "Negate the effects of 1 target monster."

/-- What is read from the text of the banner. -/
def rallying : Ability :=
  ⟨[{ kind := .modifyAttack, value := 300, continuous := true, reach := .controller,
      text := "All monsters you control gain 300 ATK" },
    { kind := .gainLife, value := 200, text := "Gain 200 LP" }]⟩

/-- What is read from the text of the hush. -/
def stilling : Ability :=
  ⟨[{ kind := .negate, value := 1, text := "Negate the effects of 1 target monster" }]⟩

theorem ability_banner : rallying = banner.ability := by decide +kernel

theorem ability_hush : stilling = hush.ability := by decide +kernel

/-- A duel with these two cards, and two cards in each hand at the start. -/
def quiet : Setup where
  catalog := ⟨[⟨banner, rallying, ability_banner⟩, ⟨hush, stilling, ability_hush⟩]⟩
  rules := { startingHand := 2 }

/-- The host holds the banner and the hush. -/
def bannered : Seats (List CardId) := ⟨[banner.id, hush.id], [banner.id, banner.id]⟩

def raised : List (Seat × Move) := [(.host, .normalSummon ⟨0⟩ [] .attack)]

/-- The host puts the banner on the chain, and then the hush, which is aimed at it. -/
def hushed : List (Seat × Move) :=
  raised ++ [(.host, .addToChain ⟨0⟩ []), (.opponent, .passPriority),
    (.host, .addToChain ⟨1⟩ [⟨0⟩]), (.opponent, .passPriority), (.host, .passPriority),
    (.host, .resolveChain)]

end Sample

namespace Arena

/-- All moments in a lobby while an arena serves calls. -/
def moments (setup : Setup) (calls : List Call) (lobby : Lobby) : List (Option Moment) :=
  ((start setup).plays lobby calls).flatMap (·.moments setup)

theorem exists_turnByTurn (setup : Setup) (calls : List Call) (lobby : Lobby) :
    ∃ s s', TurnByTurn setup s (moments setup calls lobby) s' := by
  obtain ⟨_, _, plays⟩ := exists_plays setup calls lobby
  exact ⟨_, _, turnByTurn_of_plays plays⟩

theorem genuine_of_moment {setup : Setup} {calls : List Call} {lobby : Lobby} {p : Play}
    (there : p ∈ (start setup).plays lobby calls) {span : Span}
    (hm : some (.span span) ∈ p.moments setup) : span.Genuine setup := by
  obtain ⟨legal, earlier, live⟩ := mem_plays there
  have listed : span ∈ p.spans setup := by
    rw [← Play.spans_moments legal]
    exact List.mem_filterMap.2 ⟨_, hm, rfl⟩
  exact (Play.spans_ordered (tidy_of_live live) legal span listed).2

/-- Over all calls that an arena may serve: the moments of a move hold all effects that are carried
out or refused in it, at any depth, each as the program carries it out, and tell what is reported of
each link of a chain.  Only the end of a turn is a rest, and it leaves no card negated.  When an
effect has negated a card, the card is negated on the table, and its standing modifiers do not
count.  Until the next rest it stays so: every effect of the card fails and leaves the scene as it
is, and so does every link of it. -/
theorem negation_is_total (setup : Setup) (calls : List Call) (lobby : Lobby) :
    (∀ p ∈ (start setup).plays lobby calls,
      ((p.moments setup).filterMap (·.bind (·.span?))).filterMap (·.tried?) =
          (Execution.flat (turnOf 0 (p.beats setup))).map (·.told) ∧
        (∀ span, some (.span span) ∈ p.moments setup → span.Genuine setup) ∧
        (p.move = .resolveChain →
          p.report = .resolved ((p.moments setup).filterMap (·.bind (·.report? setup)))) ∧
        (none ∈ p.moments setup → p.move = .endTurn ∧ p.after.table.negated = .empty)) ∧
      (∀ span card, some (.span span) ∈ moments setup calls lobby →
        (Moment.span span).Negates card → setup.Mutes span.after.table card) ∧
      ∀ x later, some x :: later <:+ moments setup calls lobby → ∀ card, x.Negates card →
        ∀ y, some y ∈ later.takeWhile (·.isSome) → y.Silences setup card := by
  refine ⟨fun p there => ?_, fun span card hm negates => ?_, ?_⟩
  · obtain ⟨legal, -⟩ := mem_plays there
    exact ⟨Play.tried_moments legal, fun span hm => genuine_of_moment there hm,
      Play.report_moments legal, Play.rest_of_moments legal⟩
  · obtain ⟨p, there, hm⟩ := List.mem_flatMap.1 hm
    obtain genuine := genuine_of_moment there hm
    cases span with
    | firing => exact negates.elim
    | run r before outcome after =>
      obtain ⟨depth, ran⟩ := genuine
      obtain ⟨kind, first, success⟩ := negates
      have succeeds : (runWith setup (fireWithin setup depth) r before).1.success := by
        rw [ran]
        exact success
      obtain ⟨target, chosen, negated⟩ := negated_runWith kind succeeds
      cases chosen.symm.trans first
      rw [ran] at negated
      exact Setup.mutes_of_negated negated
  · obtain ⟨s, s', turns⟩ := exists_turnByTurn setup calls lobby
    exact turns.silent.2

/-- The hush takes from the banner what it adds to its own ATK, and the link that has waited for the
hush to be carried out. -/
theorem banner_falls_silent :
    let all := moments Sample.quiet (Sample.dueling Sample.bannered Sample.hushed) Sample.lobby
    let attackAfter (moves : List (Seat × Move)) : Option Int :=
      Sample.quiet.effectiveAttack? (Sample.reached Sample.quiet Sample.bannered moves).table ⟨0⟩
    attackAfter Sample.raised = some 1200 ∧ attackAfter Sample.hushed = some 900 ∧
      ∃ x later, some x :: later <:+ all ∧ x.Negates ⟨0⟩ ∧
        ∃ due before, some (.link due before) ∈ later.takeWhile (·.isSome) ∧ due.card = ⟨0⟩ ∧
          (Chain.runLink Sample.quiet due before).1.success = false := by
  intro all attackAfter
  obtain ⟨-, -, silences⟩ := negation_is_total Sample.quiet
    (Sample.dueling Sample.bannered Sample.hushed) Sample.lobby
  obtain ⟨x, here, negates⟩ : ∃ x, all[8]? = some (some x) ∧ x.Negates ⟨0⟩ := by
    have any : all[8]?.any (·.any fun x => decide (x.Negates ⟨0⟩)) := by decide +kernel
    simpa [Option.any_eq_true] using any
  obtain ⟨y, left, due⟩ : ∃ y, some y ∈ (all.drop 9).takeWhile (·.isSome) ∧
      (y.report? Sample.quiet).any (·.card = ⟨0⟩) := by
    have any : ((all.drop 9).takeWhile (·.isSome)).any
        (·.any fun y => (y.report? Sample.quiet).any (·.card = ⟨0⟩)) := by decide +kernel
    simpa [List.any_eq_true, Option.any_eq_true] using any
  have ends : some x :: all.drop 9 <:+ all := by
    obtain ⟨short, here⟩ := List.getElem?_eq_some_iff.1 here
    rw [← here, ← List.drop_eq_getElem_cons short]
    exact List.drop_suffix 8 all
  refine ⟨by decide +kernel, by decide +kernel, x, all.drop 9, ends, negates, ?_⟩
  have silent := silences x (all.drop 9) ends ⟨0⟩ negates y left
  cases y with
  | link link before =>
    have own : link.card = ⟨0⟩ := by simpa [Moment.report?, Chain.settleLink] using due
    exact ⟨link, before, left, own, (silent.2 own).1⟩
  | span span => simp [Moment.report?] at due
  | stand table => simp [Moment.report?] at due

end Arena

end CardDuel
