import CardDuel.Card
import CardDuel.CardText.Reading

/-!
# The catalog

All printed cards that may be played with.  The ability of a card is read from
its text once, when the card enters the catalog, and every look-up afterwards
answers what was read then.
-/

namespace CardDuel

/-- The ability of a card: what its text says, or none without a text. -/
def Card.ability (card : Card) : Ability :=
  match card.text with
  | some text => CardText.readAbility text
  | none => .none

/-- A card with its ability. -/
structure CatalogEntry where
  card : Card
  ability : Ability
  /-- The ability is the one that the text describes. -/
  ability_eq : ability = card.ability

/-- The printed cards that may be played with, in the order in which they were
added. -/
structure Catalog where
  entries : List CatalogEntry

/-- A card is added whose id is taken. -/
structure DuplicateCard where
  id : CardId
  deriving DecidableEq, Repr

/-- The refusal of the card as a sentence. -/
def DuplicateCard.message (duplicate : DuplicateCard) : String :=
  let number := duplicate.id.number
  s!"Card with ID CardId({number}) already registered"

namespace Catalog

/-- No cards. -/
def empty : Catalog := ⟨[]⟩

/-- The entry of a card. -/
def entry? (catalog : Catalog) (id : CardId) : Option CatalogEntry :=
  catalog.entries.find? (·.card.id == id)

/-- The printed card of an id. -/
def card? (catalog : Catalog) (id : CardId) : Option Card :=
  (catalog.entry? id).map (·.card)

/-- Whether the catalog has a card of this id. -/
def contains (catalog : Catalog) (id : CardId) : Bool := (catalog.entry? id).isSome

/-- The ability of a card.  A card outside the catalog has none. -/
def ability (catalog : Catalog) (id : CardId) : Ability :=
  match catalog.entry? id with
  | some entry => entry.ability
  | none => .none

/-- The name of a card that is not in the catalog. -/
def unknownName : String := "Unknown Card"

/-- The name of a card. -/
def nameOf (catalog : Catalog) (id : CardId) : String :=
  match catalog.card? id with
  | some card => card.name
  | none => unknownName

/-- The catalog with one more card.  A second card of an id is refused. -/
def add (catalog : Catalog) (card : Card) : Except DuplicateCard Catalog :=
  if catalog.contains card.id then throw ⟨card.id⟩
  else return ⟨catalog.entries ++ [⟨card, card.ability, rfl⟩]⟩

/-- The catalog of a list of cards with different ids. -/
def ofCards (cards : List Card) : Except DuplicateCard Catalog :=
  cards.foldlM add .empty

/-- All cards in the order in which they were added. -/
def cards (catalog : Catalog) : List Card := catalog.entries.map (·.card)

/-- The number of cards. -/
def size (catalog : Catalog) : Nat := catalog.entries.length

/-- The cards of a type. -/
def ofType (catalog : Catalog) (type : CardType) : List Card :=
  catalog.cards.filter (·.type == type)

/-- The first card of exactly this name. -/
def named? (catalog : Catalog) (name : String) : Option Card :=
  catalog.cards.find? (·.name == name)

/-- The ability of a card of the catalog is the one that its text describes. -/
theorem ability_of_card? {catalog : Catalog} {id : CardId} {card : Card}
    (h : catalog.card? id = some card) : catalog.ability id = card.ability := by
  obtain ⟨entry, he, rfl⟩ := Option.map_eq_some_iff.1 h
  simp [ability, he, entry.ability_eq]

end Catalog

end CardDuel
