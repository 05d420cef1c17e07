import CardDuel.Text.Pattern.Search

/-!
# The search finds the preferred match

`Pattern.run` lists the ways in which a pattern matches, and the search never
builds that list.  `columnBefore_map` says that the column in front of a pattern
holds, for each place, the outcome of the first listed way that leads on from
its end.  Hence `search_eq`: the search answers the first listed way at the
first place of the text that has one.
-/

namespace CardDuel.Text

@[simp] theorem Outcome.after_nil {α : Type} : (Outcome.after [] : Outcome α → Outcome α) = id := rfl

theorem Outcome.after_after {α : Type} (xs ys : List Mark) (o : Outcome α) :
    (o.after ys).after xs = o.after (xs ++ ys) := by
  simp [Outcome.after]

/-- The outcome of the first way through the pattern that leads on, if `next`
says where the ends of the ways lead. -/
def Pattern.leadsTo {α : Type} (p : Pattern) (next : Place → Option (Outcome α)) (place : Place) :
    Option (Outcome α) :=
  (p.run place).findSome? fun m => (next m.last).map (.after m.marks)

namespace Column

variable {α : Type}

theorem zipWith_map_self {β γ δ : Type} (h : β → γ → δ) (f : β → γ) (xs : List β) :
    List.zipWith h xs (xs.map f) = xs.map fun x => h x (f x) := by
  induction xs with
  | nil => rfl
  | cons x xs ih => simp [ih]

theorem head?_map_places (next : Place → Option (Outcome α)) (before : Option Char)
    (cs : List Char) : ((places before cs).map next).head? = some (next ⟨before, cs⟩) := by
  cases cs <;> rfl

theorem ahead_cons (count : Nat) (outcome : Option (Outcome α)) (column : Column α) :
    ahead count (outcome :: column) =
      (outcome :: column)[count]?.join :: ahead count column := by
  have long : count < ((outcome :: column) ++ List.replicate count none).length := by
    simp only [List.length_append, List.length_cons, List.length_replicate]
    omega
  have first : ((outcome :: column) ++ List.replicate count none)[count] =
      (outcome :: column)[count]?.join := by
    by_cases h : count < (outcome :: column).length
    · rw [List.getElem_append_left h, List.getElem?_eq_getElem h, Option.join_some]
    · rw [List.getElem_append_right (by omega), List.getElem?_eq_none (by omega)]
      simp
  rw [ahead, List.drop_eq_getElem_cons long, first]
  rfl

/-- Looking ahead from places with a property, if `after` says what is found
there. -/
theorem only_ahead_map (property : Place → Bool) (count : Nat)
    (next after : Place → Option (Outcome α))
    (found : ∀ before cs, after ⟨before, cs⟩ =
      if property ⟨before, cs⟩ then ((places before cs).map next)[count]?.join else none)
    (before : Option Char) (cs : List Char) :
    only property (places before cs) (ahead count ((places before cs).map next)) =
      (places before cs).map after := by
  induction cs generalizing before with
  | nil =>
    have := found before []
    simp only [places, List.map_cons, List.map_nil, ahead_cons, only, List.zipWith_cons_cons,
      List.zipWith_nil_left] at this ⊢
    rw [this]
    cases [next ⟨before, []⟩][count]?.join <;> simp
  | cons c cs ih =>
    have := found before (c :: cs)
    simp only [places, List.map_cons, ahead_cons, only, List.zipWith_cons_cons] at this ih ⊢
    rw [this, ih]
    cases (next ⟨before, c :: cs⟩ :: (places (some c) cs).map next)[count]?.join <;> simp

theorem only_map (property : Place → Bool) (next : Place → Option (Outcome α)) (ps : List Place) :
    only property ps (ps.map next) =
      ps.map fun place => if property place then next place else none := by
  rw [only, zipWith_map_self]
  congr 1
  funext place
  cases next place <;> simp

theorem leadsTo_one (property : Char → Bool) (next : Place → Option (Outcome α))
    (before : Option Char) (c : Char) (cs : List Char) :
    (Pattern.one property).leadsTo next ⟨before, c :: cs⟩ =
      if property c then next ⟨some c, cs⟩ else none := by
  by_cases h : property c <;> simp [Pattern.leadsTo, Pattern.run, h]

theorem beforeOne_map (property : Char → Bool) (next : Place → Option (Outcome α))
    (before : Option Char) (cs : List Char) :
    beforeOne property (places before cs) ((places before cs).map next) =
      (places before cs).map ((Pattern.one property).leadsTo next) := by
  refine only_ahead_map _ _ _ _ (fun before cs => ?_) before cs
  cases cs with
  | nil => simp [Place.precedes, Pattern.leadsTo, Pattern.run]
  | cons c cs =>
    rw [leadsTo_one, places, List.map_cons, List.getElem?_cons_succ, ← List.head?_eq_getElem?,
      head?_map_places]
    by_cases h : property c <;> simp [Place.precedes, h]

/-- The outcome after exactly this text. -/
def afterWord (next : Place → Option (Outcome α)) (piece : List Char) (place : Place) :
    Option (Outcome α) := (place.after? piece).bind next

theorem getElem?_places {piece cs rest : List Char} (before : Option Char)
    (h : after? piece cs = some rest) :
    (places before cs)[piece.length]? = some ⟨piece.getLast?.or before, rest⟩ := by
  induction piece generalizing before cs with
  | nil =>
    obtain rfl : cs = rest := Option.some.inj h
    cases cs <;> rfl
  | cons p piece ih =>
    cases cs with
    | nil => simp [after?] at h
    | cons c cs =>
      by_cases same : p = c
      · subst same
        rw [after?, beq_self_eq_true, if_pos rfl] at h
        rw [places, List.length_cons, List.getElem?_cons_succ, ih (some p) h]
        cases piece <;> simp [List.getLast?_cons]
      · simp [after?, same] at h

theorem beforeWord_map (next : Place → Option (Outcome α)) (before : Option Char)
    (cs piece : List Char) :
    beforeWord piece (places before cs) ((places before cs).map next) =
      (places before cs).map (afterWord next piece) := by
  refine only_ahead_map _ _ _ _ (fun before cs => ?_) before cs
  rw [afterWord, Place.after?]
  cases h : after? piece cs with
  | none => rfl
  | some rest => simp [getElem?_places before h]

/-- A run of at least `least` characters, the longest or the shortest preferred. -/
def stretch (longest : Bool) (least : Nat) (property : Char → Bool) : Pattern :=
  if longest then .most least property else .fewest least property

theorem leadsTo_stretch (longest : Bool) (least : Nat) (property : Char → Bool)
    (next : Place → Option (Outcome α)) (place : Place) :
    (stretch longest least property).leadsTo next place =
      (let ends := (reach property place.before place.rest).drop least
      (if longest then ends.reverse else ends).findSome? next) := by
  cases longest <;>
    simp [stretch, Pattern.leadsTo, Pattern.run, Pattern.runs, -List.map_drop,
      ← List.map_reverse, List.findSome?_map, Function.comp_def]

theorem beforeRun_map (longest : Bool) (property : Char → Bool)
    (next : Place → Option (Outcome α)) (before : Option Char) (cs : List Char) :
    beforeRun longest property (places before cs) ((places before cs).map next) =
      (places before cs).map ((stretch longest 0 property).leadsTo next) := by
  induction cs generalizing before with
  | nil => cases longest <;> simp [places, beforeRun, Place.precedes, leadsTo_stretch, reach]
  | cons c cs ih =>
    have further := ih (some c)
    rw [beforeRun] at further ⊢
    simp only [places, List.map_cons, List.zip_cons_cons, List.foldr_cons, further,
      head?_map_places]
    cases longest <;> by_cases h : property c <;> cases hn : next ⟨before, c :: cs⟩ <;>
      simp [Place.precedes, leadsTo_stretch, reach, h, hn, List.findSome?_append]

theorem leadsTo_one_stretch (longest : Bool) (least : Nat) (property : Char → Bool)
    (next : Place → Option (Outcome α)) :
    (Pattern.one property).leadsTo ((stretch longest least property).leadsTo next) =
      (stretch longest (least + 1) property).leadsTo next := by
  funext ⟨before, rest⟩
  rw [leadsTo_stretch]
  cases rest with
  | nil => simp [Pattern.leadsTo, Pattern.run, reach]
  | cons c cs => by_cases h : property c <;> simp [leadsTo_one, reach, h, leadsTo_stretch]

theorem beforeRunOf_map (longest : Bool) (property : Char → Bool) (least : Nat)
    (next : Place → Option (Outcome α)) (before : Option Char) (cs : List Char) :
    beforeRunOf longest property (places before cs) ((places before cs).map next) least =
      (places before cs).map ((stretch longest least property).leadsTo next) := by
  induction least with
  | zero => exact beforeRun_map ..
  | succ least ih => rw [beforeRunOf, ih, beforeOne_map, leadsTo_one_stretch]

end Column

namespace Pattern

open Column

theorem leadsTo_seq {α : Type} (first second : Pattern) (next : Place → Option (Outcome α)) :
    (first.seq second).leadsTo next = first.leadsTo (second.leadsTo next) := by
  funext place
  have onward (m : Way) :
      ((second.run m.last).map fun n => (⟨m.marks ++ n.marks, n.last⟩ : Way)).findSome?
          (fun m => (next m.last).map (Outcome.after m.marks)) =
        (second.leadsTo next m.last).map (Outcome.after m.marks) := by
    simp [leadsTo, List.findSome?_map, List.map_findSome?, Function.comp_def,
      Outcome.after_after]
  rw [leadsTo, leadsTo, run]
  induction first.run place with
  | nil => rfl
  | cons m ms ih =>
    rw [List.flatMap_cons, List.findSome?_append, ih, onward, List.findSome?_cons]
    cases second.leadsTo next m.last <;> rfl

theorem leadsTo_none {α : Type} (p : Pattern) :
    p.leadsTo (fun _ => (none : Option (Outcome α))) = fun _ => none := by
  funext place
  simp [leadsTo]

/-- The column in front of a pattern holds the outcomes of the preferred ways
through it. -/
theorem columnBefore_map (p : Pattern) {α : Type} (next : Place → Option (Outcome α))
    (before : Option Char) (cs : List Char) :
    p.columnBefore (places before cs) ((places before cs).map next) =
      (places before cs).map (p.leadsTo next) := by
  induction p generalizing α next with
  | empty => simp [columnBefore, leadsTo, run]
  | word text =>
    rw [columnBefore, beforeWord_map]
    congr 1
    funext place
    cases h : place.after? text.toList <;> simp [afterWord, leadsTo, run, h]
  | one property => exact beforeOne_map ..
  | most least property => exact beforeRunOf_map true ..
  | fewest least property => exact beforeRunOf_map false ..
  | seq first second ih₁ ih₂ =>
    rw [columnBefore, ih₂, ih₁, leadsTo_seq]
    split
    · next stuck =>
      have same : (places before cs).map (second.leadsTo next) =
          (places before cs).map fun _ => none :=
        List.map_congr_left fun place h => by
          simpa using List.all_eq_true.1 stuck _ (List.mem_map_of_mem h)
      rw [← ih₁, same, ih₁, leadsTo_none]
    · rfl
  | alt first second ih₁ ih₂ =>
    rw [columnBefore, ih₁, ih₂, List.zipWith_map, List.zipWith_self]
    simp [leadsTo, run, List.findSome?_append]
  | mark slot piece ih =>
    rw [columnBefore, closed, zipWith_map_self, ih, opened, zipWith_map_self]
    congr 1
    funext place
    simp only [leadsTo, run, List.findSome?_map, List.map_findSome?]
    congr 1
    funext m
    cases h : next m.last <;> simp [h, Outcome.after]
  | edge =>
    rw [columnBefore, only_map]
    congr 1
    funext place
    by_cases h : place.isEdge <;> simp [leadsTo, run, h]
  | start =>
    rw [columnBefore, only_map]
    congr 1
    funext place
    by_cases h : place.before.isNone <;> simp [leadsTo, run, h]
  | finish =>
    rw [columnBefore, only_map]
    congr 1
    funext place
    by_cases h : place.rest.isEmpty <;> simp [leadsTo, run, h]

/-- The search answers the first way that is listed at the first place of the
text that has one. -/
theorem search_eq (p : Pattern) (cs : List Char) :
    p.search cs = (places none cs).findSome? fun place => (p.run place).head? := by
  simp only [search, columnBefore_map, List.findSome?_map, List.map_findSome?]
  congr 1
  funext place
  simp only [leadsTo, Function.comp_def]
  cases p.run place <;> simp [Outcome.after]

end Pattern

end CardDuel.Text
