import CardDuel.CardText.Sentence
import CardDuel.CardText.Wording
import CardDuel.Effect
import CardDuel.Text.Lowercase
import CardDuel.Text.Numeral

/-!
# Reading card text

An ability in plain English becomes a list of effects, one for each sentence
that tells something the game knows.  A sentence is read in lower case and in a
fixed order: protection, then a timing in front of a colon, then a standing
modifier, then the actions in the order of `actions`.  The first wording that
is found decides, even if its number turns out to be too large; a sentence that
tells nothing is left out, and reading never fails.
-/

namespace CardDuel.CardText

open CardDuel.Text

/-- The number that a clause gives in digits, which has to be below `2 ^ 63`. -/
def amountOf? (digits : List Char) : Option Nat :=
  (numeral? digits).filter (· < 0x8000000000000000)

/-- The number of cards that a count stands for. -/
def countOf? (count : List Char) : Option Nat :=
  match String.ofList count with
  | "a" | "an" | "one" => some 1
  | "two" => some 2
  | "three" => some 3
  | "four" => some 4
  | "five" => some 5
  | _ => amountOf? count

/-- The number of cards of a clause in which the count may be left out. -/
def countOrOne? (m : Way) : Option Nat :=
  match m.piece? .count with
  | some count => countOf? count
  | none => some 1

/-- A number of targets has 32 bits; higher ones are cut off. -/
def targets (count : Nat) : Nat := count % 0x100000000

/-- Whether a text occurs in the clause. -/
def holds (clause : List Char) (words : String) : Bool := mentions words.toList clause

/-- The change of ATK that a direction and an amount stand for. -/
def change? (m : Way) : Option Int := do
  let amount ← amountOf? (← m.piece? .amount)
  if m.piece? .direction == some "lose".toList then some (-amount) else some amount

/-- The zone that a clause takes cards from. -/
def zoneNamed (clause : List Char) : Option Zone :=
  if holds clause "from your graveyard" || holds clause "in your graveyard" then
    some .graveyard
  else if holds clause "from your hand" || holds clause "in your hand" then some .hand
  else if holds clause "monster" || holds clause "on the field" then some .board
  else none

/-- The words that say what kind of thing is meant and nothing about it. -/
def plainWords : List String := ["monster", "monsters", "card", "cards", "target", "type"]

/-- What is left of "dragon monster" or "fire-type cards" without the words that
fit every card, if there is anything left. -/
def conditionOf (what : List Char) : Option String :=
  let kept := ((words what).filter fun w => !plainWords.contains (String.ofList w)).map
    (dropEndings "-type".toList)
  match kept.filter (!·.isEmpty) with
  | [] => none
  | ws => some (String.ofList ([' '].intercalate ws))

/-- A wording and the effect of a clause in which it is found. -/
structure Action where
  phrase : Pattern
  effect : (clause : List Char) → Way → Option Effect

/-- The action of drawing. -/
def drawAction : Action where
  phrase := drawPhrase
  effect _ m := do return { kind := .draw, value := ← countOf? (← m.piece? .count) }

/-- The action of discarding. -/
def discardAction : Action where
  phrase := discardPhrase
  effect clause m := do return {
    kind := .discard
    value := ← countOf? (← m.piece? .count)
    againstOpponent := holds clause "your opponent" || holds clause "opponent's" }

/-- The action of sending cards from a deck to the graveyard. -/
def millAction : Action where
  phrase := millPhrase
  effect _ m := do return {
    kind := .mill
    value := ← countOf? (← m.piece? .count)
    againstOpponent := (m.piece? .whose).any (· != "your".toList) }

/-- The action of destroying. -/
def destroyAction : Action where
  phrase := destroyPhrase
  effect _ m := do return {
    kind := .destroy, value := 0, targetCount := targets (← countOrOne? m) }

/-- The action of dealing damage. -/
def damageAction : Action where
  phrase := damagePhrase
  effect _ m := do return { kind := .damage, value := ← amountOf? (← m.piece? .amount) }

/-- The action of gaining life points. -/
def gainLifeAction : Action where
  phrase := gainLifePhrase
  effect _ m := do return { kind := .gainLife, value := ← amountOf? (← m.piece? .amount) }

/-- The action of returning a card to a deck. -/
def toDeckAction : Action where
  phrase := toDeckPhrase
  effect clause _ := some {
    kind := .returnToDeck
    value := 1
    source := some ((zoneNamed clause).getD .board)
    deckPlace :=
      if holds clause "top of" then .top
      else if holds clause "bottom of" then .bottom
      else .shuffled }

/-- The action of adding cards from a deck or graveyard to the hand. -/
def addToHandAction : Action where
  phrase := addToHandPhrase
  effect _ m := do
    let count ← countOrOne? m
    let fromDeck := m.piece? .source == some "deck".toList
    return {
      kind := if fromDeck then .search else .toHand
      value := count
      source := some (if fromDeck then .deck else .graveyard)
      targetCount := targets count
      condition := conditionOf (← m.piece? .what) }

/-- The action of returning cards in play to the hand. -/
def backToHandAction : Action where
  phrase := backToHandPhrase
  effect _ m := do
    let count ← countOrOne? m
    return { kind := .toHand, value := count, source := some .board,
             targetCount := targets count }

/-- The action of summoning outside the one Normal Summon of the turn. -/
def summonAction : Action where
  phrase := summonPhrase
  effect _ m := do
    let what := trim (← m.piece? .what)
    let itself := what == "this card".toList
    return {
      kind := .summon
      value := 1
      source := some <|
        if m.piece? .source == some "graveyard".toList then .graveyard
        else if m.piece? .source == some "deck".toList then .deck
        else .hand
      targetsSelf := itself
      condition := if itself then none else conditionOf what }

/-- The action of negating the effects of a card. -/
def negateAction : Action where
  phrase := negatePhrase
  effect _ _ := some { kind := .negate, value := 1 }

/-- The action of banishing. -/
def banishAction : Action where
  phrase := banishPhrase
  effect clause m := do
    let count ← countOrOne? m
    return { kind := .banish, value := count, targetCount := targets count,
             source := zoneNamed clause }

/-- The action of sending cards to the graveyard. -/
def toGraveyardAction : Action where
  phrase := toGraveyardPhrase
  effect _ m := do
    let count ← countOrOne? m
    return { kind := .toGraveyard, value := count, targetCount := targets count }

/-- The action of changing ATK once. -/
def changeAttackAction : Action where
  phrase := changeAttackPhrase
  effect clause m := do return {
    kind := .modifyAttack
    value := ← change? m
    targetsSelf := holds clause "this card"
    untilEndOfTurn := untilEndPhrase.found clause }

/-- All actions, in the order in which they are looked for. -/
def actions : List Action :=
  [drawAction, discardAction, millAction, destroyAction, damageAction, gainLifeAction,
   toDeckAction, addToHandAction, backToHandAction, summonAction, negateAction,
   banishAction, toGraveyardAction, changeAttackAction]

/-- The effect of the first of the actions whose wording is found. -/
def readAction? (clause : List Char) : List Action → Option Effect
  | [] => none
  | action :: others =>
    match action.phrase.search clause with
    | some m => action.effect clause m
    | none => readAction? clause others

/-- The standing modifier that a clause describes. -/
def readModifier? (clause : List Char) : Option Effect := do
  let m ← modifierPhrase.search clause
  return {
    kind := .modifyAttack
    value := ← change? m
    continuous := true
    condition := (m.piece? .condition).map (String.ofList <| trim ·)
    reach := if (m.piece? .own).isSome then .controller else .field }

/-- The effect of a clause without its timing. -/
def readClause? (clause : List Char) : Option Effect :=
  (readModifier? clause).or (readAction? clause actions)

/-- The protection that a sentence grants, if it grants any. -/
def readProtection? (sentence : List Char) : Option Protection :=
  let protection : Protection := {
    fromBattle := battleShieldPhrase.found sentence
    fromEffects := effectShieldPhrase.found sentence
    fromTargeting := targetShieldPhrase.found sentence }
  if protection.any then some protection else none

/-- The timing that a qualifier names.  The wordings overlap, and the earlier
one wins. -/
def readTiming? (qualifier : List Char) : Option Timing :=
  if holds qualifier "destroys a monster" then some .onBattleDestroy
  else if holds qualifier "is destroyed" then some .onDestroy
  else if holds qualifier "flip" then some .onFlip
  else if holds qualifier "summoned" then some .onSummon
  else if holds qualifier "end phase" then some .onEnd
  else if holds qualifier "battle phase" then some .onBattleStart
  else none

/-- What stands in front of a colon and in what timing it puts the clause after
it. -/
structure Qualified where
  timing : Option Timing
  oncePerTurn : Bool
  clause : List Char

/-- The clause of a sentence with the timing in front of it.  A sentence without
a colon, or with more than one line after it, is a clause of its own. -/
def qualify (sentence : List Char) : Qualified :=
  match timedPhrase.search sentence with
  | some m =>
    let qualifier := trim ((m.piece? .qualifier).getD [])
    { timing := readTiming? qualifier
      oncePerTurn := holds qualifier "once per turn"
      clause := trim ((m.piece? .body).getD []) }
  | none => { timing := none, oncePerTurn := false, clause := sentence }

/-- The effect of a sentence, if it has one. -/
def readSentence? (sentence : List Char) : Option Effect :=
  let small := lower sentence
  match readProtection? small with
  | some protection => some {
      kind := .protection
      value := 0
      continuous := true
      protection := protection
      text := String.ofList sentence }
  | none =>
    let qualified := qualify small
    (readClause? qualified.clause).map fun effect =>
      { effect with
        timing := qualified.timing
        oncePerTurn := qualified.oncePerTurn
        text := String.ofList sentence }

/-- The ability that a text describes. -/
def readAbility (text : String) : Ability :=
  ⟨(sentences text.toList).filterMap readSentence?⟩

/-- The main effect of a text: the first that does something, or else the
first. -/
def readEffect? (text : String) : Option Effect :=
  let effects := (readAbility text).effects
  (effects.find? (·.kind != .protection)).or effects.head?

end CardDuel.CardText
