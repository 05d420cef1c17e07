import CardDuel.Names

/-!
# Sets of cards

A set of cards is the ascending list of its members, so that two sets with the
same members are the same value.
-/

namespace CardDuel

/-- A finite set of cards. -/
structure CardSet where
  /-- The members in ascending order. -/
  toList : List CardRef
  ascending : toList.Pairwise (· < ·)
  deriving DecidableEq

namespace CardSet

/-- The set without members. -/
def empty : CardSet := ⟨[], .nil⟩

/-- The ascending list with one more member. -/
def insertInto (card : CardRef) : List CardRef → List CardRef
  | [] => [card]
  | c :: cs =>
    if card < c then card :: c :: cs
    else if card = c then c :: cs
    else c :: insertInto card cs

theorem mem_insertInto {card x : CardRef} {cs : List CardRef} :
    x ∈ insertInto card cs ↔ x = card ∨ x ∈ cs := by
  induction cs with
  | nil => simp [insertInto]
  | cons c cs ih =>
    rw [insertInto]
    split
    · simp
    · split
      · next h => subst h; simp
      · simp only [List.mem_cons, ih]
        exact ⟨fun h => by rcases h with h | h | h <;> simp [h],
          fun h => by rcases h with h | h | h <;> simp [h]⟩

theorem ascending_insertInto {card : CardRef} {cs : List CardRef}
    (h : cs.Pairwise (· < ·)) : (insertInto card cs).Pairwise (· < ·) := by
  induction cs with
  | nil => simp [insertInto]
  | cons c cs ih =>
    rw [insertInto]
    have hc := List.pairwise_cons.1 h
    split
    · next hlt =>
      refine List.pairwise_cons.2 ⟨fun x hx => ?_, h⟩
      rcases List.mem_cons.1 hx with rfl | hx
      · exact hlt
      · exact Nat.lt_trans hlt (hc.1 x hx)
    · split
      · exact h
      · next hlt hne =>
        refine List.pairwise_cons.2 ⟨fun x hx => ?_, ih hc.2⟩
        rcases mem_insertInto.1 hx with rfl | hx
        · rw [CardRef.lt_iff] at hlt ⊢
          have : x.number ≠ c.number := fun h => hne (congrArg CardRef.mk h)
          omega
        · exact hc.1 x hx

/-- The set with one more member. -/
def insert (s : CardSet) (card : CardRef) : CardSet :=
  ⟨insertInto card s.toList, ascending_insertInto s.ascending⟩

/-- The set without a member. -/
def erase (s : CardSet) (card : CardRef) : CardSet :=
  ⟨s.toList.filter (· != card), s.ascending.filter _⟩

instance : Membership CardRef CardSet := ⟨fun s card => card ∈ s.toList⟩

instance (card : CardRef) (s : CardSet) : Decidable (card ∈ s) :=
  inferInstanceAs (Decidable (card ∈ s.toList))

/-- The set of the cards of a list. -/
def ofList (cards : List CardRef) : CardSet := cards.foldl insert empty

theorem insertInto_perm {card : CardRef} {cs : List CardRef} (new : card ∉ cs) :
    (insertInto card cs).Perm (card :: cs) := by
  induction cs with
  | nil => exact .refl _
  | cons c cs ih =>
    rw [insertInto]
    split
    · exact .refl _
    · split
      · next same => exact absurd (same ▸ List.mem_cons_self) new
      · exact ((ih fun h => new (List.mem_cons_of_mem c h)).cons c).trans (.swap card c cs)

theorem insert_perm {s : CardSet} {card : CardRef} (new : card ∉ s) :
    (s.insert card).toList.Perm (card :: s.toList) :=
  insertInto_perm new

theorem toList_foldl_insert {s : CardSet} {cards : List CardRef}
    (distinct : (s.toList ++ cards).Nodup) :
    (cards.foldl insert s).toList.Perm (s.toList ++ cards) := by
  induction cards generalizing s with
  | nil => simp
  | cons c cs ih =>
    have front : (s.toList ++ c :: cs).Perm (c :: s.toList ++ cs) := List.perm_middle
    have new : c ∉ s.toList := fun h =>
      (List.nodup_cons.1 (front.nodup_iff.1 distinct)).1 (List.mem_append_left cs h)
    have inserted : ((s.insert c).toList ++ cs).Perm (s.toList ++ c :: cs) :=
      ((insert_perm new).append_right cs).trans front.symm
    exact (ih (inserted.nodup_iff.2 distinct)).trans inserted

theorem nodup (s : CardSet) : s.toList.Nodup := nodup_of_ascending s.ascending

theorem eq_of_perm {s s' : CardSet} (h : s.toList.Perm s'.toList) : s = s' := by
  have same : s.toList = s'.toList :=
    h.eq_of_pairwise (fun _ _ _ _ hab hba => absurd hba (CardRef.lt_asymm hab))
      s.ascending s'.ascending
  cases s
  cases s'
  simp_all

/-- A set is the set of its members, in whatever order they are listed. -/
theorem ofList_of_perm {s : CardSet} {cards : List CardRef} (h : cards.Perm s.toList) :
    ofList cards = s :=
  eq_of_perm ((toList_foldl_insert (s := empty) (h.nodup_iff.2 s.nodup)).trans h)

@[simp] theorem ofList_toList (s : CardSet) : ofList s.toList = s := ofList_of_perm (.refl _)

/-- Whether the card is a member. -/
def contains (s : CardSet) (card : CardRef) : Bool := decide (card ∈ s)

theorem mem_iff {s : CardSet} {card : CardRef} : card ∈ s ↔ card ∈ s.toList := Iff.rfl

@[simp] theorem mem_insert {s : CardSet} {card x : CardRef} :
    x ∈ s.insert card ↔ x = card ∨ x ∈ s :=
  mem_insertInto

@[simp] theorem mem_erase {s : CardSet} {card x : CardRef} :
    x ∈ s.erase card ↔ x ∈ s ∧ x ≠ card := by
  simp [mem_iff, erase]

@[simp] theorem not_mem_empty (card : CardRef) : card ∉ empty := by
  simp [mem_iff, empty]

end CardSet

end CardDuel
