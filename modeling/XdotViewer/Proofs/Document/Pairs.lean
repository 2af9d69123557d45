import XdotViewer.Proofs.Document.Written

/-! # Printed attribute lists

The pairs of a printed list are read off it one after the other, and nothing is left.
-/

namespace XdotViewer.Blueprint

open Reading Ident Statement

/-- Whether all names and values of a list can stand in quotes. -/
def PairedAttrs (attrs : AttrList) : Prop :=
  ∀ attr ∈ attrs, Paired attr.1.toList ∧ Paired attr.2.toList

private theorem pair_printed {attr : String × String} (left : Paired attr.1.toList)
    (right : Paired attr.2.toList) (rest : List Char) :
    pair (quotation attr.1.toList ++ '=' :: (quotation attr.2.toList ++ rest)) =
      [(attr, rest)] := by
  unfold pair
  rw [bind_of_single (margin_quotation _), bind_of_single (reading_quotation left _),
    bind_of_single (blanks_of_head (by decide)),
    bind_of_single (show character '=' ('=' :: _) = _ from rfl),
    bind_of_single (margin_quotation _), bind_of_single (reading_quotation right _), pure_apply,
    text_quotation, text_quotation]

private theorem separators_comma (content rest : List Char) :
    separators (',' :: ' ' :: (quotation content ++ rest)) =
      [((), quotation content ++ rest)] := by
  rw [separators, if_pos (by decide), List.dropWhile_cons_of_pos (by decide), quotation_append,
    List.dropWhile_cons_of_neg (by decide)]

/-- A pair with the comma behind it, in front of the next pair. -/
theorem separatedPair_printed {attr : String × String} (left : Paired attr.1.toList)
    (right : Paired attr.2.toList) {rest after : List Char}
    (separated : separators rest = [((), after)]) :
    front? separatedPair (printPair attr ++ rest) = some (attr, after) := by
  have read := pair_printed left right rest
  have shape : printPair attr ++ rest =
      quotation attr.1.toList ++ '=' :: (quotation attr.2.toList ++ rest) := by
    simp [printPair, quoteName]
  rw [front?, separatedPair, shape, bind_of_single read, bind_of_single separated]
  rfl

private theorem pairsFrom_of_front? {text rest : List Char} {attr : String × String}
    (filled : text ≠ []) (read : front? separatedPair text = some (attr, rest)) :
    pairsFrom text = (attr :: (pairsFrom rest).1, (pairsFrom rest).2) := by
  rw [pairsFrom, if_neg filled]
  split
  · rename_i none
    rw [none] at read
    cases read
  · rename_i found
    rw [found] at read
    cases read
    rfl

/-- A printed list with something in it begins with a quotation. -/
theorem exists_printPairs_cons (attr : String × String) (rest : AttrList) :
    ∃ behind, printPairs (attr :: rest) = quotation attr.1.toList ++ behind := by
  cases rest with
  | nil => exact ⟨_, rfl⟩
  | cons next more => exact ⟨_, List.append_assoc ..⟩

private theorem trimmed_printPairs (attr : String × String) (rest : AttrList) :
    Trimmed (printPairs (attr :: rest)) := by
  refine ⟨?_, ?_⟩
  · obtain ⟨behind, shape⟩ := exists_printPairs_cons attr rest
    exact ⟨'"', _, shape.trans (quotation_append _ _), by decide⟩
  · induction rest generalizing attr with
    | nil =>
      refine ⟨quotation attr.1.toList ++ '=' :: '"' :: attr.2.toList.flatMap protect, '"', ?_,
        by decide⟩
      simp [printPairs, printPair, quoteName, quotation]
    | cons next more ih =>
      obtain ⟨front, c, shape, visible⟩ := ih next
      refine ⟨printPair attr ++ ',' :: ' ' :: front, c, ?_, visible⟩
      rw [printPairs, shape]
      · simp
      · exact List.cons_ne_nil next more

private theorem pairsFrom_printPairs {attrs : AttrList} (paired : PairedAttrs attrs) :
    pairsFrom (printPairs attrs) = (attrs, []) := by
  induction attrs with
  | nil => rw [printPairs, pairsFrom, if_pos rfl]
  | cons attr rest ih =>
    obtain ⟨left, right⟩ := paired attr (List.mem_cons_self ..)
    have others := ih fun other member => paired other (List.mem_cons_of_mem _ member)
    cases rest with
    | nil =>
      have read := separatedPair_printed left right (show separators [] = [((), [])] from rfl)
      rw [List.append_nil] at read
      have filled : printPair attr ≠ [] := by simp [printPair, quoteName, quotation]
      rw [printPairs, pairsFrom_of_front? filled read, pairsFrom, if_pos rfl]
    | cons next more =>
      obtain ⟨behind, shape⟩ := exists_printPairs_cons next more
      have gap : separators (',' :: ' ' :: printPairs (next :: more)) =
          [((), printPairs (next :: more))] := by
        rw [shape]
        exact separators_comma _ _
      have read := separatedPair_printed left right gap
      have filled : printPair attr ++ ',' :: ' ' :: printPairs (next :: more) ≠ [] := by simp
      rw [printPairs, pairsFrom_of_front? filled read, others]
      exact List.cons_ne_nil next more

/-- Blanks around a printed list are none of it. -/
theorem pairs_printPairs {attrs : AttrList} (paired : PairedAttrs attrs) :
    pairs (printPairs attrs) = (attrs, []) := by
  have whole : trim (printPairs attrs) = printPairs attrs := by
    cases attrs with
    | nil => rfl
    | cons attr rest => exact trim_of_trimmed (trimmed_printPairs attr rest)
  rw [pairs, whole, pairsFrom_printPairs paired]

end XdotViewer.Blueprint
