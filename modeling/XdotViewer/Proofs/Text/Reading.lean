import XdotViewer.Text.Reading
import Mathlib.Data.List.Basic

/-! # Ways of reading

How readings run one after the other on a given text, and what their ways have in common: a way
leaves a suffix of the text, and a text that is read whole was read up to its last character.
-/

namespace XdotViewer.Reading

variable {α β : Type}

theorem bind_apply (reading : Reading α) (next : α → Reading β) (text : List Char) :
    (reading >>= next) text = (reading text).flatMap fun way => next way.1 way.2 := rfl

theorem pure_apply (a : α) (text : List Char) : (pure a : Reading α) text = [(a, text)] := rfl

/-- Where there is one way, the next reading goes on from it. -/
theorem bind_of_single {reading : Reading α} {next : α → Reading β} {text rest : List Char}
    {a : α} (single : reading text = [(a, rest)]) : (reading >>= next) text = next a rest := by
  simp only [bind_apply, single, List.flatMap_cons, List.flatMap_nil, List.append_nil]

/-- Where there is no way, nothing follows. -/
theorem bind_of_nil {reading : Reading α} {next : α → Reading β} {text : List Char}
    (none : reading text = []) : (reading >>= next) text = [] := by
  simp only [bind_apply, none, List.flatMap_nil]

private theorem optional_apply (reading : Reading α) (text : List Char) :
    optional reading text =
      (reading text).map (fun way => (some way.1, way.2)) ++ [(none, text)] := by
  change ((reading text).flatMap fun way => [(some way.1, way.2)]) ++ [(none, text)] = _
  rw [← List.map_eq_flatMap]

/-- Where a reading has no way, it is left out. -/
theorem optional_of_nil {reading : Reading α} {text : List Char} (none : reading text = []) :
    optional reading text = [(.none, text)] := by
  rw [optional_apply, none, List.map_nil, List.nil_append]

/-- What follows an optional part is read after the part first, and without it next. -/
theorem optional_bind_of_single {reading : Reading α} {next : Option α → Reading β}
    {text rest : List Char} {a : α} (single : reading text = [(a, rest)]) :
    (optional reading >>= next) text = next (some a) rest ++ next none text := by
  simp only [bind_apply, optional_apply, single, List.map_cons, List.map_nil, List.cons_append,
    List.nil_append, List.flatMap_cons, List.flatMap_nil, List.append_nil]

theorem spelled_cons (same : Char → Char → Bool) (wanted c : Char) (word rest : List Char) :
    spelled same (wanted :: word) (c :: rest) =
      if same wanted c then spelled same word rest else [] := rfl

/-- A word in small letters is found where it is written as it is. -/
theorem keyword_append {word : List Char} (small : ∀ c ∈ word, c.toLower = c)
    (rest : List Char) : keyword word (word ++ rest) = [((), rest)] := by
  unfold keyword
  induction word with
  | nil => rfl
  | cons c word ih =>
    have same : sameLetter c c = true := by
      rw [sameLetter, small c (List.mem_cons_self ..), beq_self_eq_true, Bool.true_or]
    rw [List.cons_append, spelled_cons, if_pos same,
      ih fun d member => small d (List.mem_cons_of_mem c member)]

/-- A word is not found where another letter comes first. -/
theorem keyword_of_ne {wanted c : Char} (other : sameLetter wanted c = false)
    (word rest : List Char) : keyword (wanted :: word) (c :: rest) = [] := by
  rw [keyword, spelled_cons, other]
  rfl

/-- Where the only way reads everything, the text has that meaning. -/
theorem whole?_of_single {reading : Reading α} {text : List Char} {a : α}
    (single : reading text = [(a, [])]) : whole? reading text = some a := by
  simp [whole?, single]

/-- Where a reading has no way, it does not read the whole. -/
theorem whole?_of_nil {reading : Reading α} {text : List Char} (none : reading text = []) :
    whole? reading text = .none := by
  simp [whole?, none]

/-- What is read as a whole leaves nothing. -/
theorem mem_of_whole? {reading : Reading α} {text : List Char} {a : α}
    (read : whole? reading text = some a) : (a, []) ∈ reading text := by
  obtain ⟨way, found, rfl⟩ := Option.map_eq_some_iff.mp read
  have complete := List.find?_some found
  rw [List.isEmpty_iff] at complete
  rw [← complete]
  exact List.mem_of_find?_eq_some found

/-- Every way leaves a suffix of the text. -/
def Leaving (reading : Reading α) : Prop :=
  ∀ text, ∀ way ∈ reading text, way.2 <:+ text

private theorem leaving_pure (a : α) : Leaving (pure a) := by
  intro text way member
  obtain rfl := List.mem_singleton.mp member
  exact List.suffix_rfl

/-- Readings one after the other leave an end of the text. -/
theorem Leaving.bind {reading : Reading α} {next : α → Reading β} (first : reading.Leaving)
    (rest : ∀ a, (next a).Leaving) : (reading >>= next).Leaving := by
  intro text way member
  obtain ⟨middle, present, member⟩ := mem_bind.mp member
  exact (rest _ _ _ member).trans (first _ _ present)

private theorem Leaving.orElse {first second : Reading α} (left : first.Leaving)
    (right : second.Leaving) : (orElse first second).Leaving := by
  intro text way member
  rcases List.mem_append.mp member with member | member
  · exact left text way member
  · exact right text way member

theorem Leaving.optional {reading : Reading α} (leaving : reading.Leaving) :
    (optional reading).Leaving :=
  (leaving.bind fun _ => leaving_pure _).orElse (leaving_pure _)

theorem leaving_spelled (same : Char → Char → Bool) (word : List Char) :
    (spelled same word).Leaving := by
  induction word with
  | nil => exact leaving_pure ()
  | cons wanted word ih =>
    intro text way member
    cases text with
    | nil => cases member
    | cons c rest =>
      simp only [spelled] at member
      split at member
      · exact (ih rest way member).trans (List.suffix_cons c rest)
      · cases member

end XdotViewer.Reading
