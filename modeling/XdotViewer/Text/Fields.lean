/-! # Fields between separators -/

namespace XdotViewer

/-- The parts of a text between the separators; there is one more part than separators. -/
def fields (separator : Char) : List Char → List (List Char)
  | [] => [[]]
  | c :: rest =>
    if c = separator then [] :: fields separator rest
    else match fields separator rest with
      | first :: more => (c :: first) :: more
      | [] => [[c]]

theorem fields_ne_nil (separator : Char) (text : List Char) : fields separator text ≠ [] := by
  cases text with
  | nil => simp [fields]
  | cons c rest =>
    simp only [fields]
    split
    · simp
    · split <;> simp

/-- The parts are those of the library's splitting. -/
theorem fields_eq_splitOn (separator : Char) (text : List Char) :
    fields separator text = text.splitOn separator := by
  induction text with
  | nil => rfl
  | cons c rest ih =>
    obtain ⟨first, more, parts⟩ := List.exists_cons_of_ne_nil (fields_ne_nil separator rest)
    rw [List.splitOn_cons_eq_if_modifyHead, ← ih, fields]
    by_cases same : c = separator
    · simp [same]
    · simp [same, parts]

/-- A text without separators is one part. -/
theorem fields_of_not_mem {separator : Char} {text : List Char} (absent : separator ∉ text) :
    fields separator text = [text] := by
  induction text with
  | nil => rfl
  | cons c rest ih =>
    rw [List.mem_cons, not_or] at absent
    have other : ¬ c = separator := fun same => absent.1 same.symm
    simp [fields, other, ih absent.2]

end XdotViewer
