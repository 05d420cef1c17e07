import CardDuel.Proofs.Places
import CardDuel.Scene

/-!
# What the log tells

Whoever moves a card writes an event into the log that names it.  This is done by hand next to
each change, so it has to be shown for each of them.

* `Event.Names`: an event names a card, and `Details.About`: details are about a card.
* `Scene.Tells`: the log has grown by events of some kinds, and every card that has changed its
  place is named by one of them.
* `tells_card` and `tells_report`: a change of the table with news of it.
* `EventType.isOfEffect`: the kinds of events that effects write, and `EventType.isOfCards`: those
  of them that tell of cards only.
-/

namespace CardDuel

/-! ## Events that name cards -/

/-- The details name a card: as the card that they are about, or in a list of cards. -/
def Details.Names (details : Details) (card : CardRef) : Prop :=
  details.get? "cardId" = some (.nat card.number) ∨
    ∃ items, details.get? "cards" = some (.list items) ∧ .nat card.number ∈ items

/-- The event names a card. -/
def Event.Names (e : Event) (card : CardRef) : Prop := e.details.Names card

/-- The card that the details are about, if they are about one. -/
def Details.About (details : Details) (card : CardRef) : Prop :=
  details.get? "cardId" = some (.nat card.number)

/-- Whether details are about a card can be looked up. -/
theorem Details.about_iff {details : Details} {card : CardRef} :
    details.About card ↔ (details.get? "cardId").bind (·.whole?) = some (card.number : Int) := by
  unfold About
  cases details.get? "cardId" with
  | none => simp
  | some found => cases found <;> simp [Document.whole?, Document.nat]

instance (details : Details) (card : CardRef) : Decidable (details.About card) :=
  decidable_of_iff' _ Details.about_iff

theorem Details.About.names {details : Details} {card : CardRef} (h : details.About card) :
    details.Names card :=
  .inl h

/-- Details are about one card at most. -/
theorem Details.About.unique {details : Details} {card card' : CardRef} (h : details.About card)
    (h' : details.About card') : card = card' := by
  obtain ⟨number⟩ := card
  obtain ⟨number'⟩ := card'
  have same : Document.whole number = .whole number' := Option.some.inj (h.symm.trans h')
  exact congrArg CardRef.mk (Int.ofNat.inj (Document.whole.inj same))

theorem Details.about_cardId (card : CardRef) (more : Details) :
    Details.About (("cardId", .nat card.number) :: more) card := by
  simp [Details.About, Details.get?]

theorem Setup.about_cardDetails (setup : Setup) (t : Table) (card : CardRef) (more : Details) :
    (setup.cardDetails t card ++ more).About card :=
  Details.about_cardId card _

theorem Details.names_cardId (card : CardRef) (more : Details) :
    Details.Names (("cardId", .nat card.number) :: more) card :=
  (Details.about_cardId card more).names

theorem Setup.names_cardDetails (setup : Setup) (t : Table) (card : CardRef) (more : Details) :
    (setup.cardDetails t card ++ more).Names card :=
  Details.names_cardId card _

namespace Scene

variable {kinds kinds' : EventType → Prop} {s s' s'' : Scene}

/-- The log has grown by events of some kinds, and every card that has changed its place is
named by one of them. -/
def Tells (kinds : EventType → Prop) (s s' : Scene) : Prop :=
  ∃ new, s'.log.events = s.log.events ++ new ∧ (∀ e ∈ new, kinds e.type) ∧
    ∀ card, (∃ e ∈ new, e.Names card) ∨ Table.Stays card s.table s'.table

theorem Tells.refl (s : Scene) : Tells kinds s s :=
  ⟨[], (List.append_nil _).symm, List.forall_mem_nil _, fun card => .inr (.refl card s.table)⟩

theorem Tells.trans (h : Tells kinds s s') (h' : Tells kinds s' s'') : Tells kinds s s'' := by
  obtain ⟨new, log, kind, named⟩ := h
  obtain ⟨new', log', kind', named'⟩ := h'
  refine ⟨new ++ new', by rw [log', log, List.append_assoc], ?_, fun card => ?_⟩
  · intro e he
    rcases List.mem_append.1 he with he | he
    · exact kind e he
    · exact kind' e he
  · rcases named card with ⟨e, he, names⟩ | stays
    · exact .inl ⟨e, List.mem_append_left _ he, names⟩
    · rcases named' card with ⟨e, he, names⟩ | stays'
      · exact .inl ⟨e, List.mem_append_right _ he, names⟩
      · exact .inr (stays.trans stays')

theorem Tells.mono (h : Tells kinds s s') (more : ∀ kind, kinds kind → kinds' kind) :
    Tells kinds' s s' := by
  obtain ⟨new, log, kind, named⟩ := h
  exact ⟨new, log, fun e he => more _ (kind e he), named⟩

/-- A change that moves no card need not be told. -/
theorem tells_change {f : Table → Table} (h : ∀ card, Table.Stays card s.table (f s.table)) :
    Tells kinds s (s.change f) :=
  ⟨[], (List.append_nil _).symm, List.forall_mem_nil _, fun card => .inr (h card)⟩

/-- A change with news of it. -/
theorem tells_report {f : Table → Table} {news : News} (kind : kinds news.type)
    (h : ∀ card, news.details.Names card ∨ Table.Stays card s.table (f s.table)) :
    Tells kinds s ((s.change f).record news) := by
  refine ⟨[_], rfl, fun e he => ?_, fun card => (h card).imp_left fun names => ?_⟩
  · rw [List.mem_singleton.1 he]
    exact kind
  · exact ⟨_, List.mem_singleton_self _, names⟩

theorem tells_record {news : News} (kind : kinds news.type) : Tells kinds s (s.record news) :=
  tells_report (f := id) kind fun card => .inr (.refl card s.table)

/-- A change that moves one card, with news that name it. -/
theorem tells_card {moved : CardRef} {f : Table → Table} {news : News} (kind : kinds news.type)
    (names : news.details.Names moved)
    (h : ∀ card, card ≠ moved → Table.Stays card s.table (f s.table)) :
    Tells kinds s ((s.change f).record news) := by
  refine tells_report kind fun card => ?_
  by_cases hcard : card = moved
  · rw [hcard]
    exact .inl names
  · exact .inr (h card hcard)

theorem tells_each {α β : Type} {act : α → Scene → β × Scene}
    (h : ∀ x s, Tells kinds s (act x s).2) (xs : List α) (s : Scene) :
    Tells kinds s (s.each act xs).2 :=
  each_keeps (fun x _ told => told.trans (h x _)) xs (.refl s)

end Scene

/-! ## Events of effects -/

/-- Whether effects write events of this kind. -/
def EventType.isOfEffect : EventType → Bool
  | effectActivated | effectNegated | specialSummon | cardDrawn | cardToGraveyard | cardToHand
  | cardBanished | cardReturnedToDeck | cardDiscarded | deckSearched | lifeChanged
  | attackModified => true
  | _ => false

/-- Whether effects write events of this kind about cards that are moved, searched or marked. -/
def EventType.isOfCards : EventType → Bool
  | effectNegated | cardDrawn | cardToGraveyard | cardToHand | cardBanished | cardReturnedToDeck
  | cardDiscarded | deckSearched => true
  | _ => false

theorem EventType.isOfEffect_of_isOfCards {type : EventType} (h : type.isOfCards) :
    type.isOfEffect := by
  cases type <;> first | rfl | cases h

theorem EventType.ne_gameEnd {type : EventType} (h : type.isOfEffect) : type ≠ .gameEnd := by
  rintro rfl
  cases h

end CardDuel
