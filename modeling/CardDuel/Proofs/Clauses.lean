import CardDuel.Proofs.Qualifiers

/-!
# The clause that an effect keeps

Every effect keeps the clause that it was read from, and whoever looks at it may read that clause
again.  Nothing that was around it in the ability is needed for that: a sentence that has been cut
out is not cut any further, has no blanks at its ends, and reads as it did where it stood.

* `InOrder`: pieces of a text, from left to right and without overlapping.
* `piecesAfter_inOrder`: the pieces of a text are such pieces.
* `piecesAfter_of_mem`: a piece is the only piece of itself.
* `sentences_of_mem`: so a sentence is the only sentence of itself.
* `effects_keep_clauses`: the statement about the effects of a text.
-/

namespace CardDuel

namespace Text

/-- Pieces that occur in a text one after the other, from left to right and without overlapping. -/
inductive InOrder : List (List Char) → List Char → Prop where
  | nil (text : List Char) : InOrder [] text
  | cons {pieces : List (List Char)} {rest : List Char} (gap piece : List Char)
      (more : InOrder pieces rest) : InOrder (piece :: pieces) (gap ++ (piece ++ rest))

namespace InOrder

variable {piece text : List Char} {pieces others : List (List Char)}

theorem append_left (h : InOrder pieces text) (front : List Char) :
    InOrder pieces (front ++ text) := by
  cases h with
  | nil => exact .nil _
  | cons gap piece more =>
    rw [← List.append_assoc]
    exact .cons (front ++ gap) piece more

theorem sublist (h : InOrder pieces text) (among : others.Sublist pieces) :
    InOrder others text := by
  induction h generalizing others with
  | nil => exact List.sublist_nil.1 among ▸ .nil _
  | cons gap piece more ih =>
    cases among with
    | cons _ among => exact ((ih among).append_left piece).append_left gap
    | cons_cons _ among => exact .cons gap piece (ih among)

theorem map_trim (h : InOrder pieces text) : InOrder (pieces.map trim) text := by
  induction h with
  | nil => exact .nil _
  | @cons pieces rest gap piece more ih =>
    obtain ⟨front, back, -, -, split⟩ := exists_append_trim piece
    have around : gap ++ (piece ++ rest) = (gap ++ front) ++ (trim piece ++ (back ++ rest)) := by
      conv => lhs; rw [split]
      simp only [List.append_assoc]
    rw [List.map_cons, around]
    exact .cons (gap ++ front) (trim piece) (ih.append_left back)

/-- Each of the pieces occurs in the text. -/
theorem isInfix (h : InOrder pieces text) (among : piece ∈ pieces) : piece <:+: text := by
  induction h with
  | nil => exact absurd among List.not_mem_nil
  | @cons pieces rest gap first more ih =>
    rcases List.mem_cons.1 among with rfl | among
    · exact List.infix_append' gap piece rest
    · exact (ih among).trans ((List.suffix_append first rest).trans
        (List.suffix_append gap _)).isInfix

end InOrder

end Text

namespace CardText

open Text

variable {piece stops text sentence : List Char}

/-! ## Pieces of a text -/

/-- The pieces of a text occur in it one after the other. -/
theorem piecesAfter_inOrder (piece stops text : List Char) :
    InOrder (piecesAfter piece stops text) (piece.reverse ++ (stops.reverse ++ text)) := by
  fun_induction piecesAfter piece stops text with
  | case1 piece stops => exact .cons [] piece.reverse (.nil _)
  | case2 piece stops c cs stop ih => simpa using ih
  | case3 piece stops c cs going ends ih =>
    exact .cons [] piece.reverse ((ih.append_left [c]).append_left stops.reverse)
  | case4 piece stops c cs going open_ ih => simpa using ih

/-- A piece is not cut any further: it is the only piece of itself. -/
theorem piecesAfter_of_mem (among : piece ∈ piecesAfter [] [] text) :
    piecesAfter [] [] piece = [piece] := by
  -- what has been read of a piece is read again when it stands alone, and so are the marks in it
  have general (read stops text : List Char) (stop : ∀ m ∈ stops, isStop m)
      (again : ∀ more, piecesAfter [] [] (read.reverse ++ more) = piecesAfter read [] more)
      (among : piece ∈ piecesAfter read stops text) : piecesAfter [] [] piece = [piece] := by
    fun_induction piecesAfter read stops text with
    | case1 read stops =>
      obtain rfl := List.mem_singleton.1 among
      simpa [piecesAfter] using again []
    | case2 read stops c cs mark ih =>
      exact ih (List.forall_mem_cons.2 ⟨mark, stop⟩) again among
    | case3 read stops c cs going ends ih =>
      rcases List.mem_cons.1 among with rfl | among
      · simpa [piecesAfter] using again []
      · exact ih (List.forall_mem_nil _) (fun _ => rfl) among
    | case4 read stops c cs going open_ ih =>
      refine ih (List.forall_mem_nil _) (fun more => ?_) among
      have marks : ∀ m ∈ stops.reverse, isStop m := fun m hm => stop m (List.mem_reverse.1 hm)
      have joined : (c :: (stops ++ read)).reverse ++ more =
          read.reverse ++ (stops.reverse ++ c :: more) := by simp
      rw [joined, again, piecesAfter_marks marks, List.reverse_reverse, List.append_nil,
        piecesAfter, if_neg going, if_neg open_]
  exact general [] [] text (List.forall_mem_nil _) (fun _ => rfl) among

/-! ## Sentences -/

/-- The sentences of a text occur in it one after the other. -/
theorem sentences_inOrder (text : List Char) : InOrder (sentences text) text :=
  (piecesAfter_inOrder [] [] text).map_trim.sublist List.filter_sublist

/-- A sentence is not empty and has no blanks at its ends. -/
theorem solid_of_sentence (among : sentence ∈ sentences text) : Solid sentence := by
  obtain ⟨trimmed, some⟩ := List.mem_filter.1 among
  obtain ⟨piece, -, rfl⟩ := List.mem_map.1 trimmed
  exact solid_trim (by simpa using some)

/-- A sentence is the only sentence of itself. -/
theorem sentences_of_mem (among : sentence ∈ sentences text) : sentences sentence = [sentence] := by
  have some := (solid_of_sentence among).ne_nil
  obtain ⟨piece, whole, rfl⟩ := List.mem_map.1 (List.mem_filter.1 among).1
  calc sentences (trim piece)
    _ = tidy (piecesAfter [] [] piece) := by rw [sentences_trim, sentences_eq_tidy]
    _ = tidy [piece] := by rw [piecesAfter_of_mem whole]
    _ = [trim piece] := by simp [tidy, some]

/-- An effect keeps the sentence that it was read from. -/
theorem text_of_readSentence {e : Effect} (read : readSentence? sentence = some e) :
    e.text.toList = sentence := by
  obtain ⟨protection, -, rfl⟩ | ⟨-, inner, -, rfl⟩ := cases_of_readSentence read <;>
    exact String.toList_ofList

/-- The effects of a text keep sentences of it, in their order. -/
theorem texts_sublist (text : String) :
    ((readAbility text).effects.map (·.text.toList)).Sublist (sentences text.toList) := by
  have kept : (readAbility text).effects.map (·.text.toList) =
      (sentences text.toList).filter fun sentence => (readSentence? sentence).isSome := by
    rw [readAbility, List.map_filterMap, ← List.filterMap_eq_filter]
    refine List.filterMap_congr fun sentence _ => ?_
    cases read : readSentence? sentence with
    | none => simp [Option.guard, read]
    | some e => simp [Option.guard, read, text_of_readSentence read]
  exact kept ▸ List.filter_sublist

/-! ## Effects -/

/-- The clause that an effect keeps is a piece of the text, not empty and without blanks at its
ends.  Reading it again yields that one effect.  And the clauses of all effects occur in the text
in the order of the effects, without overlapping. -/
theorem effects_keep_clauses (text : String) :
    (∀ e ∈ (readAbility text).effects,
      e.text ≠ "" ∧ trim e.text.toList = e.text.toList ∧ e.text.toList <:+: text.toList ∧
        (readAbility e.text).effects = [e]) ∧
    InOrder ((readAbility text).effects.map (·.text.toList)) text.toList := by
  have ordered := (sentences_inOrder text.toList).sublist (texts_sublist text)
  refine ⟨fun e among => ?_, ordered⟩
  obtain ⟨sentence, found, read⟩ := List.mem_filterMap.1 among
  obtain rfl := text_of_readSentence read
  have solid := solid_of_sentence found
  refine ⟨fun none => solid.ne_nil (by rw [none]; rfl), solid.trim_eq,
    ordered.isInfix (List.mem_map_of_mem among), ?_⟩
  rw [readAbility, sentences_of_mem found, List.filterMap_cons, read, List.filterMap_nil]

/-- A vow of two clauses and a boast, with numbers, a run of marks and a tab where it is cut. -/
def Sample.vow : String := "  Gain 1.5 LP, gain 500 LP ...!?\tOnce per turn: Draw 1 card. Fear 2.5"

/-- The second clause of the vow. -/
def Sample.oath : Effect where
  kind := .draw
  value := 1
  oncePerTurn := true
  text := "Once per turn: Draw 1 card"

/-- The second clause of the vow, which stands behind a run of marks, reads alone as it does
there. -/
theorem vow_keeps_oath :
    (readAbility Sample.vow).effects.map (·.text) =
      ["Gain 1.5 LP, gain 500 LP", "Once per turn: Draw 1 card"] ∧
    Sample.oath ∈ (readAbility Sample.vow).effects ∧
    (readAbility Sample.oath.text).effects = [Sample.oath] := by
  have among : Sample.oath ∈ (readAbility Sample.vow).effects := by decide +kernel
  exact ⟨by decide +kernel, among, ((effects_keep_clauses Sample.vow).1 Sample.oath among).2.2.2⟩

end CardText

end CardDuel
