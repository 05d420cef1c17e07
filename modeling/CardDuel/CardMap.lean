import CardDuel.Names

/-!
# Maps from cards

A map from cards is the list of its entries in ascending order of the cards, so
that two maps with the same entries are the same value.
-/

namespace CardDuel

/-- A finite map from cards. -/
structure CardMap (α : Type) where
  /-- The entries in ascending order of their cards. -/
  toList : List (CardRef × α)
  ascending : toList.Pairwise (·.1 < ·.1)
  deriving DecidableEq

namespace CardMap

variable {α : Type}

/-- The map without entries. -/
def empty : CardMap α := ⟨[], .nil⟩

/-- The ascending entries with the one of `card` set to `value`. -/
def insertInto (card : CardRef) (value : α) : List (CardRef × α) → List (CardRef × α)
  | [] => [(card, value)]
  | e :: es =>
    if card < e.1 then (card, value) :: e :: es
    else if card = e.1 then (card, value) :: es
    else e :: insertInto card value es

theorem mem_keys_insertInto {card x : CardRef} {value : α} {es : List (CardRef × α)} :
    x ∈ (insertInto card value es).map Prod.fst ↔ x = card ∨ x ∈ es.map Prod.fst := by
  induction es with
  | nil => simp [insertInto]
  | cons e es ih =>
    rw [insertInto]
    split
    · simp
    · split
      · next h => subst h; simp
      · simp only [List.map_cons, List.mem_cons, ih]
        exact ⟨fun h => by rcases h with h | h | h <;> simp [h],
          fun h => by rcases h with h | h | h <;> simp [h]⟩

theorem ascending_insertInto {card : CardRef} {value : α} {es : List (CardRef × α)}
    (h : es.Pairwise (·.1 < ·.1)) :
    (insertInto card value es).Pairwise (·.1 < ·.1) := by
  induction es with
  | nil => simp [insertInto]
  | cons e es ih =>
    rw [insertInto]
    have he := List.pairwise_cons.1 h
    split
    · next hlt =>
      refine List.pairwise_cons.2 ⟨fun x hx => ?_, h⟩
      rcases List.mem_cons.1 hx with rfl | hx
      · exact hlt
      · exact Nat.lt_trans hlt (he.1 x hx)
    · split
      · next heq => exact List.pairwise_cons.2 ⟨fun x hx => heq ▸ he.1 x hx, he.2⟩
      · next hlt hne =>
        refine List.pairwise_cons.2 ⟨fun x hx => ?_, ih he.2⟩
        rcases mem_keys_insertInto.1 (List.mem_map_of_mem (f := Prod.fst) hx) with hx' | hx'
        · rw [CardRef.lt_iff] at hlt ⊢
          have : card.number ≠ e.1.number := fun h => hne (congrArg CardRef.mk h)
          rw [hx']
          omega
        · obtain ⟨y, hy, hxy⟩ := List.mem_map.1 hx'
          exact hxy ▸ he.1 y hy

/-- The map with the entry of `card` set to `value`. -/
def insert (m : CardMap α) (card : CardRef) (value : α) : CardMap α :=
  ⟨insertInto card value m.toList, ascending_insertInto m.ascending⟩

/-- The entry of a card. -/
def get? (m : CardMap α) (card : CardRef) : Option α :=
  (m.toList.find? (·.1 == card)).map (·.2)

/-- The cards that have an entry, in ascending order. -/
def keys (m : CardMap α) : List CardRef := m.toList.map (·.1)

theorem nodup_keys (m : CardMap α) : m.keys.Nodup :=
  nodup_of_ascending (List.pairwise_map.2 m.ascending)

/-- The map of the entries of a list, in which a later entry replaces an
earlier one of its card. -/
def ofList (entries : List (CardRef × α)) : CardMap α :=
  entries.foldl (fun m e => m.insert e.1 e.2) empty

theorem insertInto_of_lt {card : CardRef} {value : α} {es : List (CardRef × α)}
    (h : ∀ e ∈ es, e.1 < card) : insertInto card value es = es ++ [(card, value)] := by
  induction es with
  | nil => rfl
  | cons e es ih =>
    have he := h e (by simp)
    have notBelow : ¬ card < e.1 := fun hl => Nat.lt_irrefl _ (Nat.lt_trans he hl)
    have notEqual : card ≠ e.1 := fun heq => Nat.lt_irrefl _ (heq ▸ he : e.1 < e.1)
    simp [insertInto, notBelow, notEqual, ih fun x hx => h x (by simp [hx])]

theorem insertInto_perm {card : CardRef} {value : α} {es : List (CardRef × α)}
    (new : card ∉ es.map (·.1)) : (insertInto card value es).Perm ((card, value) :: es) := by
  induction es with
  | nil => exact .refl _
  | cons e es ih =>
    rw [List.map_cons, List.mem_cons, not_or] at new
    rw [insertInto, if_neg new.1]
    split
    · exact .refl _
    · exact ((ih new.2).cons e).trans (.swap _ e es)

theorem toList_foldl_insert {m : CardMap α} {es : List (CardRef × α)}
    (distinct : ((m.toList ++ es).map (·.1)).Nodup) :
    (es.foldl (fun m e => m.insert e.1 e.2) m).toList.Perm (m.toList ++ es) := by
  induction es generalizing m with
  | nil => simp
  | cons e es ih =>
    have front : (m.toList ++ e :: es).Perm (e :: m.toList ++ es) := List.perm_middle
    have new : e.1 ∉ m.toList.map (·.1) := fun h => by
      have once := (front.map (·.1)).nodup_iff.1 distinct
      rw [List.cons_append, List.map_cons, List.nodup_cons, List.map_append] at once
      exact once.1 (List.mem_append_left _ h)
    have inserted : ((m.insert e.1 e.2).toList ++ es).Perm (m.toList ++ e :: es) :=
      ((insertInto_perm new).append_right es).trans front.symm
    exact (ih ((inserted.map (·.1)).nodup_iff.2 distinct)).trans inserted

theorem eq_of_perm {m m' : CardMap α} (h : m.toList.Perm m'.toList) : m = m' := by
  have same : m.toList = m'.toList :=
    h.eq_of_pairwise (fun _ _ _ _ hab hba => absurd hba (CardRef.lt_asymm hab))
      m.ascending m'.ascending
  cases m
  cases m'
  simp_all

/-- A map is the map of its entries, in whatever order they are listed. -/
theorem ofList_of_perm {m : CardMap α} {entries : List (CardRef × α)}
    (h : entries.Perm m.toList) : ofList entries = m := by
  have distinct : (m.toList.map (·.1)).Nodup := m.nodup_keys
  exact eq_of_perm
    ((toList_foldl_insert (m := empty) ((h.map (·.1)).nodup_iff.2 distinct)).trans h)

@[simp] theorem ofList_toList (m : CardMap α) : ofList m.toList = m := ofList_of_perm (.refl _)

theorem find?_insertInto (card x : CardRef) (value : α) (es : List (CardRef × α)) :
    ((insertInto card value es).find? (·.1 == x)).map (·.2) =
      if x = card then some value else (es.find? (·.1 == x)).map (·.2) := by
  induction es with
  | nil =>
    by_cases h : x = card
    · simp [insertInto, h]
    · simp [insertInto, h, Ne.symm h]
  | cons e es ih =>
    rw [insertInto]
    split
    · by_cases h : x = card
      · simp [h]
      · simp [h, Ne.symm h]
    · split
      · next h' =>
        by_cases h : x = card
        · simp [h]
        · simp [h, Ne.symm h, ← h']
      · next hne =>
        by_cases hx : e.1 = x
        · have : x ≠ card := fun h => hne (by rw [hx, h])
          simp [hx, this]
        · rw [List.find?_cons_of_neg (by simpa using hx), ih,
            List.find?_cons_of_neg (by simpa using hx)]

@[simp] theorem get?_insert (m : CardMap α) (card x : CardRef) (value : α) :
    (m.insert card value).get? x = if x = card then some value else m.get? x :=
  find?_insertInto card x value m.toList

end CardMap

end CardDuel
