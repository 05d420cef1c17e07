import CardDuel.Monster
import CardDuel.Zone

/-!
# Effects and abilities

An effect is one clause of an ability in a structured form: what it does, when
it happens, whether it stands as long as its card is in play, and what it may
touch.  An ability is the list of its effects in the order of the text.
-/

namespace CardDuel

/-- What an effect does. -/
inductive EffectKind where
  | draw
  | discard
  | mill
  | destroy
  | damage
  | gainLife
  | toHand
  | toGraveyard
  | modifyAttack
  | summon
  | search
  | negate
  | banish
  | returnToDeck
  /-- It only grants protection. -/
  | protection
  deriving DecidableEq, Repr

namespace EffectKind

/-- All kinds of effect. -/
def all : List EffectKind :=
  [draw, discard, mill, destroy, damage, gainLife, toHand, toGraveyard, modifyAttack,
   summon, search, negate, banish, returnToDeck, protection]

/-- The name of the kind in event details. -/
def label : EffectKind → String
  | draw => "draw"
  | discard => "discard"
  | mill => "mill"
  | destroy => "destroy"
  | damage => "damage"
  | gainLife => "gain_lp"
  | toHand => "to_hand"
  | toGraveyard => "to_graveyard"
  | modifyAttack => "modify_atk"
  | summon => "summon"
  | search => "search"
  | negate => "negate"
  | banish => "banish"
  | returnToDeck => "return_to_deck"
  | protection => "protection"

end EffectKind

/-- When a triggered effect happens. -/
inductive Timing where
  | onSummon
  | onFlip
  | onBattleStart
  | onBattleDestroy
  | onDestroy
  | onEnd
  deriving DecidableEq, Repr

namespace Timing

/-- All timings. -/
def all : List Timing := [onSummon, onFlip, onBattleStart, onBattleDestroy, onDestroy, onEnd]

/-- The name of the timing in event details. -/
def label : Timing → String
  | onSummon => "on_summon"
  | onFlip => "on_flip"
  | onBattleStart => "on_battle_start"
  | onBattleDestroy => "on_battle_destroy"
  | onDestroy => "on_destroy"
  | onEnd => "on_end"

/-- Different timings have different names. -/
theorem label_injective {timing timing' : Timing} (same : timing.label = timing'.label) :
    timing = timing' := by
  cases timing <;> cases timing' <;> first | rfl | exact absurd same (by decide)

end Timing

/-- Which monsters a standing modifier reaches. -/
inductive Reach where
  /-- Those of both players. -/
  | field
  /-- Those of the player who controls its card. -/
  | controller
  deriving DecidableEq, Repr

/-- Both reaches. -/
def Reach.all : List Reach := [field, controller]

/-- The name of the reach. -/
def Reach.label : Reach → String
  | field => "field"
  | controller => "controller"

instance : Inhabited Reach := ⟨.field⟩

/-- One clause of an ability. -/
structure Effect where
  kind : EffectKind
  /-- How many cards, life points or points of ATK; negative for a loss of ATK. -/
  value : Int
  /-- When it happens by itself; without a timing it happens when the card
  resolves. -/
  timing : Option Timing := none
  /-- It stands while its card is in play and is never carried out. -/
  continuous : Bool := false
  /-- It works once per turn for each card that has it. -/
  oncePerTurn : Bool := false
  /-- What a card has to meet to be chosen or reached. -/
  condition : Option String := none
  protection : Protection := .none
  /-- The zone it takes cards from. -/
  source : Option Zone := none
  /-- How many targets it takes. -/
  targetCount : Nat := 1
  /-- It acts on the card it comes from. -/
  targetsSelf : Bool := false
  /-- It acts on the hand or deck of the other player. -/
  againstOpponent : Bool := false
  /-- The change of ATK ends with the turn. -/
  untilEndOfTurn : Bool := false
  /-- Where a card returns to the deck. -/
  deckPlace : DeckPlace := default
  reach : Reach := default
  /-- The clause it was read from. -/
  text : String := ""
  deriving DecidableEq, Repr

namespace Effect

/-- Whether the effect is carried out at some time.  Protection and standing
modifiers never are. -/
def isExecutable (e : Effect) : Bool := e.kind != .protection && !e.continuous

/-- Whether the effect is a standing change of ATK. -/
def isModifier (e : Effect) : Bool := e.continuous && e.kind == .modifyAttack

/-- The number of targets the effect may take, which is never less than one. -/
def targetLimit (e : Effect) : Nat := max e.targetCount 1

end Effect

/-- The effects of a card in the order of its text. -/
structure Ability where
  effects : List Effect
  deriving DecidableEq, Repr

namespace Ability

/-- No ability at all. -/
def none : Ability := ⟨[]⟩

/-- Whether the ability has two effects or more. -/
def hasManyParts (a : Ability) : Bool := 2 ≤ a.effects.length

/-- Everything that the ability protects its monster from. -/
def protection (a : Ability) : Protection :=
  a.effects.foldl (fun p e => p.merge e.protection) .none

/-- What protections that are merged cover is what one of them covers. -/
theorem foldl_merge (covers : Protection → Bool)
    (merges : ∀ p q, covers (p.merge q) = (covers p || covers q)) (effects : List Effect)
    (p : Protection) :
    covers (effects.foldl (fun p e => p.merge e.protection) p) =
      (covers p || effects.any (covers ·.protection)) := by
  induction effects generalizing p with
  | nil => simp
  | cons e effects ih => simp [ih, merges, Bool.or_assoc]

/-- An ability protects from something exactly if one of its effects does. -/
theorem protection_eq (a : Ability) :
    a.protection = {
      fromBattle := a.effects.any (·.protection.fromBattle)
      fromEffects := a.effects.any (·.protection.fromEffects)
      fromTargeting := a.effects.any (·.protection.fromTargeting) } := by
  have battle := foldl_merge (·.fromBattle) (fun _ _ => rfl) a.effects .none
  have effects := foldl_merge (·.fromEffects) (fun _ _ => rfl) a.effects .none
  have targeting := foldl_merge (·.fromTargeting) (fun _ _ => rfl) a.effects .none
  exact congr (congr (congrArg Protection.mk battle) effects) targeting

/-- The effects that happen at a timing. -/
def triggered (a : Ability) (timing : Timing) : List Effect :=
  a.effects.filter (·.timing == some timing)

/-- Whether an effect happens when its card resolves. -/
def resolves (e : Effect) : Bool := e.timing.isNone && e.isExecutable

/-- The effects that happen when the card resolves. -/
def onResolution (a : Ability) : List Effect := a.effects.filter resolves

/-- The standing changes of ATK. -/
def modifiers (a : Ability) : List Effect := a.effects.filter (·.isModifier)

/-- The places, counted from 0, of the effects with a property. -/
def places (a : Ability) (property : Effect → Bool) : List Nat :=
  (List.range a.effects.length).filter fun i => a.effects[i]?.any property

end Ability

end CardDuel
