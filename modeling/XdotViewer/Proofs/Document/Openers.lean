import XdotViewer.Document.Statement
import XdotViewer.Proofs.Document.Ident

/-! # Statements that open a block

A brace at the end of a statement belongs to a subgraph: no other form reads a statement that ends
in one, and a subgraph reads no statement that does not.
-/

namespace XdotViewer

/-- Whether a statement opens a block, whatever stands in front of its brace. -/
def opensBlock (text : List Char) : Prop :=
  text.getLast? = some '{'

instance (text : List Char) : Decidable (opensBlock text) :=
  inferInstanceAs (Decidable (_ = _))

private theorem opensBlock_append {front back : List Char} (filled : back ≠ []) :
    opensBlock (front ++ back) ↔ opensBlock back := by
  rw [opensBlock, opensBlock, List.getLast?_append_of_ne_nil _ filled]

private theorem opensBlock_of_suffix {front text : List Char} (suffix : front <:+ text)
    (opens : opensBlock front) : opensBlock text := by
  obtain ⟨before, rfl⟩ := suffix
  have filled : front ≠ [] := by
    rintro rfl
    cases opens
  exact (opensBlock_append filled).mpr opens

/-- A suffix with something in it ends as the text does. -/
theorem opensBlock_suffix {front text : List Char} (suffix : front <:+ text) (filled : front ≠ [])
    (opens : opensBlock text) : opensBlock front := by
  obtain ⟨before, rfl⟩ := suffix
  exact (opensBlock_append filled).mp opens

namespace Reading

variable {α β : Type}

/-- No way takes a brace at the end of a text. -/
def SparesBrace (reading : Reading α) : Prop :=
  ∀ text, opensBlock text → ∀ way ∈ reading text, opensBlock way.2

private theorem spares_pure (a : α) : SparesBrace (pure a) := by
  intro text opens way member
  obtain rfl := List.mem_singleton.mp member
  exact opens

private theorem SparesBrace.bind {reading : Reading α} {next : α → Reading β}
    (first : reading.SparesBrace) (rest : ∀ a, (next a).SparesBrace) :
    (reading >>= next).SparesBrace := by
  intro text opens way member
  obtain ⟨middle, present, member⟩ := mem_bind.mp member
  exact rest _ _ (first _ opens _ present) _ member

private theorem SparesBrace.orElse {first second : Reading α} (left : first.SparesBrace)
    (right : second.SparesBrace) : (orElse first second).SparesBrace := by
  intro text opens way member
  rcases List.mem_append.mp member with member | member
  · exact left text opens way member
  · exact right text opens way member

private theorem SparesBrace.optional {reading : Reading α} (spares : reading.SparesBrace) :
    (optional reading).SparesBrace :=
  (spares.bind fun _ => spares_pure _).orElse (spares_pure _)

/-- A brace is no blank. -/
theorem opensBlock_trimStart {text : List Char} (opens : opensBlock text) :
    opensBlock (trimStart text) := by
  refine opensBlock_suffix (trimStart_suffix text) ?_ opens
  intro empty
  have blank := trimStart_eq_nil_iff.mp empty '{' (List.mem_of_getLast? opens)
  revert blank
  decide

private theorem spares_blanks : blanks.SparesBrace := by
  intro text opens way member
  obtain rfl := List.mem_singleton.mp member
  exact opensBlock_trimStart opens

private theorem opensBlock_tail {c : Char} {rest : List Char} (other : c ≠ '{')
    (opens : opensBlock (c :: rest)) : opensBlock rest := by
  refine opensBlock_suffix (List.suffix_cons c rest) ?_ opens
  rintro rfl
  exact other (Option.some.inj opens)

private theorem spares_spelled {same : Char → Char → Bool} {word : List Char}
    (other : ∀ wanted ∈ word, same wanted '{' = false) : (spelled same word).SparesBrace := by
  induction word with
  | nil => exact spares_pure ()
  | cons wanted word ih =>
    intro text opens way member
    cases text with
    | nil => cases member
    | cons c rest =>
      simp only [spelled] at member
      split at member
      · rename_i accepted
        refine ih (fun d inside => other d (List.mem_cons_of_mem _ inside)) rest ?_ way member
        refine opensBlock_tail ?_ opens
        rintro rfl
        rw [other wanted (List.mem_cons_self ..)] at accepted
        cases accepted
      · cases member

private theorem spares_character {wanted : Char} (other : wanted ≠ '{') :
    (character wanted).SparesBrace := by
  intro text opens way member
  cases text with
  | nil => cases member
  | cons c rest =>
    simp only [character] at member
    split at member
    · rename_i same
      obtain rfl := List.mem_singleton.mp member
      exact opensBlock_tail (same ▸ other) opens
    · cases member

private theorem spares_atEnd : atEnd.SparesBrace := by
  intro text opens way member
  cases text with
  | nil => cases opens
  | cons c rest => cases member

/-- A text whose last brace is spared is not read whole. -/
theorem SparesBrace.whole?_eq_none {reading : Reading α} {text : List Char}
    (spares : reading.SparesBrace) (opens : opensBlock text) : whole? reading text = none := by
  cases read : whole? reading text with
  | none => rfl
  | some a => exact absurd (spares text opens _ (mem_of_whole? read)) nofun

end Reading

namespace Ident

open Reading

private theorem spares_reading : reading.SparesBrace := by
  intro text opens way member
  obtain ⟨whole, filled, last⟩ := fronts_of_mem_reading member
  by_cases empty : way.2 = []
  · rw [empty, List.append_nil] at whole
    exact absurd opens (whole ▸ last)
  · exact opensBlock_suffix ⟨way.1, whole⟩ empty opens

private theorem ne_nil_of_mem_blankStarts {text start : List Char} {found : List (List Char)}
    (member : start ∈ blankStarts found text) : start ∈ found ∨ start ≠ [] := by
  induction text generalizing found with
  | nil => exact .inl member
  | cons c rest ih =>
    simp only [blankStarts] at member
    split at member
    · rcases ih member with member | filled
      · split at member
        · rcases List.mem_cons.mp member with rfl | member
          · exact .inr (List.cons_ne_nil c rest)
          · exact .inl member
        · exact .inl member
      · exact .inr filled
    · exact .inl member

private theorem spares_margin : margin.SparesBrace := by
  intro text opens way member
  have suffix := leaving_margin text way member
  obtain ⟨left, present, rfl⟩ := List.mem_map.mp member
  rcases List.mem_cons.mp present with rfl | present
  · exact opensBlock_trimStart opens
  · rcases ne_nil_of_mem_blankStarts (List.mem_of_mem_take present) with none | filled
    · cases none
    · exact opensBlock_suffix suffix filled opens

end Ident

namespace Statement

open Reading Ident

private theorem spares_attachment : attachment.SparesBrace :=
  (spares_character (by decide)).bind fun _ => spares_reading

private theorem spares_nodeName : nodeName.SparesBrace :=
  spares_reading.bind fun _ =>
    (spares_attachment.bind fun _ => spares_attachment.optional).optional.bind fun _ =>
      spares_pure _

private theorem spares_listAtEnd : listAtEnd.SparesBrace := by
  intro text opens way member
  unfold listAtEnd at member
  split at member
  · rename_i rest
    split at member
    · rename_i shut
      -- a text cannot end in both brackets
      have inner : opensBlock rest := opensBlock_tail (by decide) opens
      rw [opensBlock, shut.1] at inner
      cases inner
    · cases member
  · cases member

private theorem spares_ending : ending.SparesBrace :=
  (spares_blanks.bind fun _ => spares_listAtEnd).optional.bind fun _ =>
    spares_atEnd.bind fun _ => spares_pure _

private theorem spares_edgeOperator : edgeOperator.SparesBrace :=
  (spares_spelled (by simp)).orElse (spares_spelled (by simp))

private theorem spares_edgeStatement : edgeStatement.SparesBrace :=
  spares_nodeName.bind fun _ => spares_blanks.bind fun _ => spares_edgeOperator.bind fun _ =>
    spares_margin.bind fun _ => spares_nodeName.bind fun _ => spares_ending.bind fun _ =>
      spares_pure _

private theorem spares_attributeStatement : attributeStatement.SparesBrace :=
  spares_nodeName.bind fun _ => spares_ending.bind fun _ => spares_pure _

private theorem spares_assignment : assignment.SparesBrace :=
  spares_reading.bind fun _ => spares_blanks.bind fun _ =>
    (spares_character (by decide)).bind fun _ => spares_margin.bind fun _ =>
      spares_reading.bind fun _ => spares_atEnd.bind fun _ => spares_pure _

/-- The brace is all that an opening takes, blanks aside. -/
theorem trimStart_of_mem_opening {text : List Char} {way : Unit × List Char}
    (member : way ∈ opening text) : trimStart text = ['{'] := by
  obtain ⟨first, blank, member⟩ := mem_bind.mp member
  obtain rfl := List.mem_singleton.mp blank
  obtain ⟨second, brace, last⟩ := mem_bind.mp member
  simp only at brace
  cases kept : trimStart text with
  | nil => simp [kept, character] at brace
  | cons c rest =>
    rw [kept, character] at brace
    split at brace
    · rename_i same
      obtain rfl := List.mem_singleton.mp brace
      cases rest with
      | nil => rw [same]
      | cons d more => cases last
    · cases brace

private theorem opensBlock_of_mem_opening {text : List Char} {way : Unit × List Char}
    (member : way ∈ opening text) : opensBlock text := by
  apply opensBlock_of_suffix (trimStart_suffix text)
  rw [trimStart_of_mem_opening member]
  rfl

/-- A subgraph is read off a statement that opens a block. -/
theorem of_mem_subgraphStatement {text : List Char} {way : Statement × List Char}
    (member : way ∈ subgraphStatement text) :
    opensBlock text ∧ ∃ name, way.1 = .subgraph name := by
  obtain ⟨first, present, member⟩ := mem_bind.mp member
  obtain ⟨second, name, member⟩ := mem_bind.mp member
  obtain ⟨third, brace, last⟩ := mem_bind.mp member
  obtain rfl := List.mem_singleton.mp last
  have keyword : Leaving (optional do
      keyword "subgraph".toList
      Ident.someMargin) :=
    ((leaving_spelled _ _).bind fun _ => leaving_someMargin).optional
  have suffix := (leaving_reading.optional _ _ name).trans (keyword _ _ present)
  exact ⟨opensBlock_of_suffix suffix (opensBlock_of_mem_opening brace), _, rfl⟩

/-- Only a text with a brace at its end is read as the opener of a subgraph. -/
theorem subgraphStatement_eq_none {text : List Char} (plain : ¬ opensBlock text) :
    whole? subgraphStatement text = none := by
  cases read : whole? subgraphStatement text with
  | none => rfl
  | some statement => exact absurd (of_mem_subgraphStatement (mem_of_whole? read)).1 plain

/-- A statement that opens a block is a subgraph or nothing. -/
theorem read?_of_opensBlock {text : List Char} (opens : opensBlock text) :
    read? text = whole? subgraphStatement text := by
  have other : text ≠ ['}'] := by
    rintro rfl
    cases opens
  simp [read?, other, spares_edgeStatement.whole?_eq_none opens,
    spares_attributeStatement.whole?_eq_none opens, spares_assignment.whole?_eq_none opens]

end Statement
end XdotViewer
