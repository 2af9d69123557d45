import XdotViewer.Overlay.Html

/-! # Character references

A reader of HTML replaces the character references in attribute values and texts, from left to
right and only once. What it gets of an escaped text is the text, whatever the text holds; and
nothing in an escaped text could end the place where it stands.
-/

namespace XdotViewer.Html

/-- Replaces the character references. A space that stays visible is a space again. -/
def decode : List Char → List Char
  | '&' :: 'a' :: 'm' :: 'p' :: ';' :: rest => '&' :: decode rest
  | '&' :: 'l' :: 't' :: ';' :: rest => '<' :: decode rest
  | '&' :: 'g' :: 't' :: ';' :: rest => '>' :: decode rest
  | '&' :: 'q' :: 'u' :: 'o' :: 't' :: ';' :: rest => '"' :: decode rest
  | '&' :: 'n' :: 'b' :: 's' :: 'p' :: ';' :: rest => ' ' :: decode rest
  | c :: rest => c :: decode rest
  | [] => []

private theorem decode_cons {c : Char} (other : c ≠ '&') (rest : List Char) :
    decode (c :: rest) = c :: decode rest := by
  rw [decode] <;> simp [other]

/-- The characters with a reference of their own in texts. -/
theorem escapeText_cases (c : Char) :
    (c = '&' ∨ c = '<' ∨ c = '>') ∨ escapeText c = [c] ∧ c ≠ '&' ∧ c ≠ '<' := by
  by_cases special : c = '&' ∨ c = '<' ∨ c = '>'
  · exact .inl special
  · obtain ⟨ampersand, less, greater⟩ : c ≠ '&' ∧ c ≠ '<' ∧ c ≠ '>' := by simpa using special
    refine .inr ⟨?_, ampersand, less⟩
    unfold escapeText
    split <;> simp_all

/-- What is written for a character is the character itself or part of its reference. -/
theorem mem_escapeText {c d : Char} (member : d ∈ escapeText c) :
    d ∈ "&amp;lt;gt;".toList ∨ d = c ∧ c ≠ '<' := by
  have part {reference : List Char} (inside : d ∈ reference)
      (spelled : reference.all ("&amp;lt;gt;".toList.contains ·) = true) :
      d ∈ "&amp;lt;gt;".toList :=
    List.contains_iff_mem.mp (List.all_eq_true.mp spelled d inside)
  rcases escapeText_cases c with (rfl | rfl | rfl) | ⟨alone, -, other⟩
  · exact .inl (part member (by decide))
  · exact .inl (part member (by decide))
  · exact .inl (part member (by decide))
  · rw [alone, List.mem_singleton] at member
    exact .inr ⟨member, member ▸ other⟩

section Decoding

private theorem decode_escapeText (c : Char) (rest : List Char) :
    decode (escapeText c ++ rest) = c :: decode rest := by
  rcases escapeText_cases c with (rfl | rfl | rfl) | ⟨alone, other, -⟩
  · rfl
  · rfl
  · rfl
  · rw [alone]
    exact decode_cons other rest

private theorem decode_escapeAttribute (c : Char) (rest : List Char) :
    decode (escapeAttribute c ++ rest) = c :: decode rest := by
  unfold escapeAttribute
  split
  · rfl
  · exact decode_escapeText c rest

/-- What is read of an attribute value is the value. -/
theorem decode_value (value : List Char) : decode (value.flatMap escapeAttribute) = value := by
  induction value with
  | nil => rfl
  | cons c rest ih => rw [List.flatMap_cons, decode_escapeAttribute, ih]

/-- Where there is no space, spaces need no attention. -/
theorem keepSpaces_append {front : List Char} (filled : front ≠ []) (spaceless : ' ' ∉ front)
    (afterSpace : Bool) (rest : List Char) :
    keepSpaces afterSpace (front ++ rest) = front ++ keepSpaces false rest := by
  induction front generalizing afterSpace with
  | nil => exact absurd rfl filled
  | cons c front ih =>
    obtain ⟨here, later⟩ : ' ' ≠ c ∧ ' ' ∉ front := by simpa using spaceless
    rw [List.cons_append, keepSpaces, if_neg here.symm]
    by_cases last : front = []
    · rw [last]
      rfl
    · rw [ih last later, List.cons_append]

private theorem escapeText_spaceless {c : Char} (other : c ≠ ' ') : ' ' ∉ escapeText c := by
  intro member
  rcases mem_escapeText member with reference | ⟨same, -⟩
  · exact absurd reference (by decide)
  · exact other same.symm

/-- A space is read as one, be it the first of several or not. -/
theorem decode_keepSpaces (afterSpace : Bool) (text : List Char) :
    decode (keepSpaces afterSpace (text.flatMap escapeText)) = text := by
  induction text generalizing afterSpace with
  | nil => rfl
  | cons c rest ih =>
    rw [List.flatMap_cons]
    by_cases space : c = ' '
    · subst space
      change decode (keepSpaces afterSpace (' ' :: rest.flatMap escapeText)) = _
      rw [keepSpaces, if_pos rfl]
      cases afterSpace with
      | false =>
        change decode (' ' :: keepSpaces true (rest.flatMap escapeText)) = _
        rw [decode_cons (by decide), ih]
      | true =>
        change ' ' :: decode (keepSpaces true (rest.flatMap escapeText)) = _
        rw [ih]
    · have filled : escapeText c ≠ [] := by
        unfold escapeText
        split <;> simp
      rw [keepSpaces_append filled (escapeText_spaceless space), decode_escapeText, ih]

/-- What is read of a text is the text. -/
theorem decode_body (text : List Char) : decode (body text) = text :=
  decode_keepSpaces false text

end Decoding

section Containment

/-- A value does not end before the quotation mark that is put after it. -/
theorem quote_not_mem_value (value : List Char) : '"' ∉ value.flatMap escapeAttribute := by
  intro member
  obtain ⟨c, -, inside⟩ := List.mem_flatMap.mp member
  unfold escapeAttribute at inside
  split at inside
  · exact absurd inside (by decide)
  · rename_i other
    rcases mem_escapeText inside with reference | ⟨same, -⟩
    · exact absurd reference (by decide)
    · exact other same.symm

private theorem mem_keepSpaces {c : Char} {afterSpace : Bool} {text : List Char}
    (member : c ∈ keepSpaces afterSpace text) : c ∈ text ∨ c ∈ "&nbsp;".toList := by
  induction text generalizing afterSpace with
  | nil => cases member
  | cons first rest ih =>
    rw [keepSpaces] at member
    split at member
    · rename_i space
      rcases List.mem_append.mp member with here | later
      · split at here
        · exact .inr here
        · exact .inl (by simp_all)
      · exact (ih later).imp_left (List.mem_cons_of_mem _)
    · rcases List.mem_cons.mp member with rfl | later
      · exact .inl List.mem_cons_self
      · exact (ih later).imp_left (List.mem_cons_of_mem _)

/-- A text holds nothing that begins a tag. -/
theorem less_not_mem_body (text : List Char) : '<' ∉ body text := by
  intro member
  rcases mem_keepSpaces member with escaped | space
  · obtain ⟨c, -, inside⟩ := List.mem_flatMap.mp escaped
    rcases mem_escapeText inside with reference | ⟨same, other⟩
    · exact absurd reference (by decide)
    · exact other same.symm
  · exact absurd space (by decide)

end Containment
end XdotViewer.Html
