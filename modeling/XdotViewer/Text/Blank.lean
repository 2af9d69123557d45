import XdotViewer.Text.CodeRanges

/-! # Blanks

A blank is a character with the Unicode property White_Space. Texts are trimmed at their blanks.
-/

namespace XdotViewer

namespace Blank

def ranges : CodeRanges :=
  [(0x09, 0x0d), (0x20, 0x20), (0x85, 0x85), (0xa0, 0xa0), (0x1680, 0x1680), (0x2000, 0x200a),
   (0x2028, 0x2029), (0x202f, 0x202f), (0x205f, 0x205f), (0x3000, 0x3000)]

end Blank

def isBlank (c : Char) : Bool :=
  Blank.ranges.contains c

/-- No visible ASCII character is a blank. -/
theorem isBlank_of_ascii {c : Char} (low : 0x20 < c.toNat) (high : c.toNat < 0x7f) :
    isBlank c = false := by
  rw [Bool.eq_false_iff, ne_eq, isBlank, CodeRanges.contains_iff]
  rintro ⟨range, member, above, below⟩
  simp only [Blank.ranges, List.mem_cons, List.not_mem_nil, or_false] at member
  rcases member with rfl | rfl | rfl | rfl | rfl | rfl | rfl | rfl | rfl | rfl <;>
    simp only at above below <;> omega

/-- Drops the blanks at the front. -/
def trimStart (text : List Char) : List Char :=
  text.dropWhile isBlank

/-- Drops the blanks at the end. -/
def trimEnd (text : List Char) : List Char :=
  (text.reverse.dropWhile isBlank).reverse

/-- Drops the blanks at both ends. -/
def trim (text : List Char) : List Char :=
  trimEnd (trimStart text)

/-- Nothing is left exactly of a text of blanks. -/
theorem trimStart_eq_nil_iff {text : List Char} :
    trimStart text = [] ↔ ∀ c ∈ text, isBlank c = true := by
  induction text with
  | nil => simp [trimStart]
  | cons c text ih =>
    simp only [trimStart, List.dropWhile_cons] at ih ⊢
    by_cases blank : isBlank c = true <;> simp [blank, ih]

/-- What is left of a text trimmed at its start begins with no blank. -/
theorem head_trimStart_not_blank {text rest : List Char} {c : Char}
    (kept : trimStart text = c :: rest) : isBlank c = false := by
  induction text with
  | nil => cases kept
  | cons d text ih =>
    simp only [trimStart, List.dropWhile_cons] at kept ih
    split at kept
    · exact ih kept
    · rename_i visible
      cases kept
      simpa using visible

theorem trimStart_of_head {c : Char} {rest : List Char} (visible : isBlank c = false) :
    trimStart (c :: rest) = c :: rest := by
  simp [trimStart, visible]

@[simp] theorem trimStart_trimStart (text : List Char) :
    trimStart (trimStart text) = trimStart text := by
  cases kept : trimStart text with
  | nil => rfl
  | cons c rest => exact trimStart_of_head (head_trimStart_not_blank kept)

/-- Trimming takes a text's end. -/
theorem trimStart_suffix (text : List Char) : trimStart text <:+ text :=
  List.dropWhile_suffix isBlank

/-- Blanks at the front make no difference. -/
theorem trimStart_append_of_blank {blanks : List Char} (blank : ∀ c ∈ blanks, isBlank c = true)
    (text : List Char) : trimStart (blanks ++ text) = trimStart text :=
  List.dropWhile_append_of_pos blank

/-- Blanks at the end make no difference. -/
theorem trimEnd_append_of_blank {blanks : List Char} (blank : ∀ c ∈ blanks, isBlank c = true)
    (text : List Char) : trimEnd (text ++ blanks) = trimEnd text := by
  rw [trimEnd, List.reverse_append, List.dropWhile_append_of_pos, trimEnd]
  exact fun c member => blank c (List.mem_reverse.mp member)

/-- Blanks around a text do not count. -/
theorem trim_surrounded {before text after : List Char} (first : ∀ c ∈ before, isBlank c = true)
    (last : ∀ c ∈ after, isBlank c = true) : trim (before ++ text ++ after) = trim text := by
  rw [List.append_assoc, trim, trimStart_append_of_blank first, trimStart, List.dropWhile_append]
  split
  · rename_i blank
    have nothing : after.dropWhile isBlank = [] := trimStart_eq_nil_iff.mpr last
    rw [nothing, trim, trimStart, List.isEmpty_iff.mp blank]
  · exact trimEnd_append_of_blank last _

theorem trim_of_visible {text : List Char} (visible : ∀ c ∈ text, isBlank c = false) :
    trim text = text := by
  have start (text : List Char) (visible : ∀ c ∈ text, isBlank c = false) :
      trimStart text = text := by
    cases text with
    | nil => rfl
    | cons c rest => exact trimStart_of_head (visible c List.mem_cons_self)
  have last := start text.reverse fun c member => visible c (List.mem_reverse.mp member)
  change (trimStart (trimStart text).reverse).reverse = text
  rw [start text visible, last, List.reverse_reverse]

end XdotViewer
