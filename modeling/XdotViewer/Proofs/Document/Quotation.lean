import XdotViewer.Proofs.Document.Ident
import Mathlib.Algebra.Ring.Parity

/-! # Quotation

Any text can be written as a quoted identifier, with a backslash in front of each quote, as long as
no backslash of its own stands there unpaired: a quotation has no escape for the backslash.
-/

namespace XdotViewer.Ident

/-- A character of a quotation: a quote gets a backslash. -/
def protect (c : Char) : List Char :=
  if c = '"' then ['\\', '"'] else [c]

/-- A text between quotes. -/
def quotation (text : List Char) : List Char :=
  '"' :: text.flatMap protect ++ ['"']

/-- The length of the run of backslashes at the end of a text. -/
def trailingBackslashes (text : List Char) : Nat :=
  (text.reverse.takeWhile (· == '\\')).length

/-- A text on one line in which each run of backslashes before a quote or at the end is even. -/
def Quotable (text : List Char) : Prop :=
  '\n' ∉ text ∧ ∀ n ≤ text.length,
    n = text.length ∨ text[n]? = some '"' → Even (trailingBackslashes (text.take n))

instance (text : List Char) : Decidable (Quotable text) := by
  unfold Quotable
  infer_instance

/-- A text cut into single characters and backslashes with the character after them. -/
inductive Paired : List Char → Prop
  | nil : Paired []
  | char {c : Char} {rest : List Char} (single : c ≠ '\\') (visible : c ≠ '\n') :
      Paired rest → Paired (c :: rest)
  | pair {c : Char} {rest : List Char} (free : c ≠ '"') (visible : c ≠ '\n') :
      Paired rest → Paired ('\\' :: c :: rest)

private theorem trailingBackslashes_append_single (text : List Char) (c : Char) :
    trailingBackslashes (text ++ [c]) =
      if c = '\\' then trailingBackslashes text + 1 else 0 := by
  by_cases same : c = '\\' <;> simp [trailingBackslashes, same]

private theorem trailingBackslashes_cons_of_ne {c : Char} (single : c ≠ '\\') (text : List Char) :
    trailingBackslashes (c :: text) = trailingBackslashes text := by
  induction text using List.reverseRecOn with
  | nil => simp [trailingBackslashes, single]
  | append_singleton text d ih =>
    rw [← List.cons_append, trailingBackslashes_append_single, trailingBackslashes_append_single,
      ih]

/-- A pair in front does not change the parity of the run at the end. -/
theorem even_trailingBackslashes_pair (c : Char) (text : List Char) :
    Even (trailingBackslashes ('\\' :: c :: text)) ↔ Even (trailingBackslashes text) := by
  induction text using List.reverseRecOn with
  | nil => by_cases same : c = '\\' <;> simp [trailingBackslashes, same]
  | append_singleton text d ih =>
    rw [← List.cons_append, ← List.cons_append, trailingBackslashes_append_single,
      trailingBackslashes_append_single]
    split
    · rw [Nat.even_add_one, Nat.even_add_one, ih]
    · rfl

private theorem Quotable.of_cons {c : Char} {rest : List Char} (single : c ≠ '\\')
    (quotable : Quotable (c :: rest)) : Quotable rest := by
  obtain ⟨oneLine, even⟩ := quotable
  refine ⟨fun member => oneLine (List.mem_cons_of_mem c member), ?_⟩
  intro n bound stop
  have shifted := even (n + 1) (Nat.succ_le_succ bound)
    (stop.imp (congrArg Nat.succ) (fun quote => by simpa using quote))
  rwa [List.take_succ_cons, trailingBackslashes_cons_of_ne single] at shifted

private theorem Quotable.of_pair {c : Char} {rest : List Char}
    (quotable : Quotable ('\\' :: c :: rest)) : Quotable rest := by
  obtain ⟨oneLine, even⟩ := quotable
  refine ⟨fun member => oneLine (by simp [member]), ?_⟩
  intro n bound stop
  have shifted := even (n + 2) (Nat.add_le_add_right bound 2)
    (stop.imp (congrArg (· + 2)) (fun quote => by simpa using quote))
  rwa [List.take_succ_cons, List.take_succ_cons, even_trailingBackslashes_pair] at shifted

/-- No backslash of a quotable text is left over where a quote or the end follows. -/
theorem Quotable.paired {text : List Char} (quotable : Quotable text) : Paired text := by
  match text with
  | [] => exact .nil
  | c :: rest =>
    have visible : c ≠ '\n' := fun same => quotable.1 (by simp [same])
    by_cases single : c = '\\'
    · subst single
      match rest with
      | [] =>
        have even := quotable.2 1 (Nat.le_refl 1) (.inl rfl)
        exact absurd even (by decide)
      | d :: rest =>
        have free : d ≠ '"' := by
          rintro rfl
          have even := quotable.2 1 (by simp) (.inr rfl)
          simp [trailingBackslashes] at even
        exact .pair free (fun same => quotable.1 (by simp [same])) quotable.of_pair.paired
    · exact .char single visible (quotable.of_cons single).paired

private theorem quotedRest_protect {text : List Char} (paired : Paired text) (rest : List Char) :
    quotedRest (text.flatMap protect ++ '"' :: rest) =
      some (text.flatMap protect ++ ['"'], rest) := by
  induction paired with
  | nil => rfl
  | @char c tail single visible _ ih =>
    by_cases quote : c = '"'
    · subst quote
      simp [protect, quotedRest, ih]
    · simp [protect, quote, quotedRest, single, ih]
  | @pair c tail free visible _ ih =>
    simp [protect, free, quotedRest, visible, ih]

/-- A quotation is read in one way, up to its closing quote. -/
theorem reading_quotation {text : List Char} (paired : Paired text) (rest : List Char) :
    reading (quotation text ++ rest) = [(quotation text, rest)] := by
  have inner := quotedRest_protect paired rest
  simp only [quotation, List.cons_append, List.append_assoc, List.nil_append, reading, inner,
    Option.map_some, Option.toList_some]

private theorem protect_ne_quote (text tail : List Char) : text.flatMap protect ≠ '"' :: tail := by
  cases text with
  | nil => simp
  | cons c rest => by_cases quote : c = '"' <;> simp [protect, quote]

private theorem unescapeQuotes_protect (text : List Char) :
    unescapeQuotes (text.flatMap protect) = text := by
  induction text with
  | nil => rfl
  | cons c rest ih =>
    by_cases quote : c = '"'
    · subst quote
      simp [protect, unescapeQuotes, ih]
    · rw [List.flatMap_cons, protect, if_neg quote, List.singleton_append, unescapeQuotes, ih]
      intro tail _ same
      exact protect_ne_quote rest tail same

private theorem value_quotation (text : List Char) : value (quotation text) = text := by
  have ends : (text.flatMap protect ++ ['"']).getLast? = some '"' := List.getLast?_concat
  simp only [value, quotation, List.cons_append, ends, if_true, List.dropLast_concat,
    unescapeQuotes_protect]

/-- A quotation stands for the text in it. -/
theorem text_quotation (content : String) : text (quotation content.toList) = content := by
  rw [text, value_quotation, String.ofList_toList]

end XdotViewer.Ident
