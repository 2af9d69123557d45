import XdotViewer.Document.Ident
import XdotViewer.Proofs.Text.Reading
import Mathlib.Data.List.Infix
import Mathlib.Data.List.TakeWhile

/-! # Written identifiers

An identifier is written at the front of what was read, and no identifier ends in a brace.
-/

namespace XdotViewer.Ident

open Reading

/-- What was read stands in front of the rest, and does not end in a brace. -/
def Fronts (written rest text : List Char) : Prop :=
  written ++ rest = text ∧ written ≠ [] ∧ written.getLast? ≠ some '{'

private theorem getLast?_ne_of_forall {text : List Char} {c : Char} (free : ∀ d ∈ text, d ≠ c) :
    text.getLast? ≠ some c :=
  fun last => free c (List.mem_of_getLast? last) rfl

private theorem isWordChar_of_isWordStart {c : Char} (starts : isWordStart c = true) :
    isWordChar c = true := by
  simp only [isWordChar, starts, Bool.true_or]

private theorem ne_brace_of_isWordChar {c : Char} (letter : isWordChar c = true) : c ≠ '{' := by
  rintro rfl
  revert letter
  decide

private theorem fronts_of_mem_wordRest {text : List Char} {way : List Char × List Char}
    (member : way ∈ wordRest text) :
    way.1 ++ way.2 = text ∧ ∀ c ∈ way.1, isWordChar c = true := by
  have letters : ∀ c ∈ text.takeWhile isWordChar, isWordChar c = true :=
    fun c present => List.mem_takeWhile_imp present
  have longest := List.takeWhile_append_dropWhile (p := isWordChar) (l := text)
  simp only [wordRest] at member
  split at member
  · obtain rfl := List.mem_singleton.mp member
    exact ⟨longest, letters⟩
  · rename_i blank before cut
    rcases List.mem_cons.mp member with rfl | member
    · exact ⟨longest, letters⟩
    · obtain rfl := List.mem_singleton.mp member
      -- the shorter word is the longest one up to its last blank
      have suffix : blank :: before <:+ (text.takeWhile isWordChar).reverse :=
        cut ▸ List.dropWhile_suffix _
      have shorter : before.reverse <+: text.takeWhile isWordChar := by
        have reversed := List.reverse_prefix.mpr ((List.suffix_cons blank before).trans suffix)
        rwa [List.reverse_reverse] at reversed
      have front : before.reverse <+: text := shorter.trans (List.takeWhile_prefix _)
      refine ⟨?_, fun c present => letters c (shorter.subset present)⟩
      obtain ⟨rest, rfl⟩ := front
      have length : before.length = before.reverse.length := List.length_reverse.symm
      simp only [length, List.drop_left]

private theorem fronts_of_mem_word {text : List Char} {way : List Char × List Char}
    (member : way ∈ word text) : Fronts way.1 way.2 text := by
  cases text with
  | nil => cases member
  | cons c rest =>
    simp only [word] at member
    split at member
    · rename_i starts
      obtain ⟨inner, present, rfl⟩ := List.mem_map.mp member
      obtain ⟨whole, letters⟩ := fronts_of_mem_wordRest present
      refine ⟨by simp only [List.cons_append, whole], by simp, getLast?_ne_of_forall ?_⟩
      intro d member
      rcases List.mem_cons.mp member with rfl | member
      · exact ne_brace_of_isWordChar (isWordChar_of_isWordStart starts)
      · exact ne_brace_of_isWordChar (letters d member)
    · cases member

private theorem ne_brace_of_mem_spanDigits {text : List Char} {c : Char}
    (member : c ∈ (Literal.spanDigits text).1) : c ≠ '{' := by
  have digit : Literal.isDigit c = true := List.mem_takeWhile_imp member
  rintro rfl
  revert digit
  decide

private theorem spanDigits_append (text : List Char) :
    (Literal.spanDigits text).1 ++ (Literal.spanDigits text).2 = text := by
  simp only [Literal.spanDigits]
  exact List.takeWhile_append_dropWhile

/-- A numeral is made of digits and a point. -/
theorem fronts_of_unsignedNumeral {text : List Char} {way : List Char × List Char}
    (read : unsignedNumeral text = some way) :
    way.1 ++ way.2 = text ∧ way.1 ≠ [] ∧ ∀ c ∈ way.1, c ≠ '{' := by
  have whole := spanDigits_append text
  have digits : ∀ c ∈ (Literal.spanDigits text).1, c ≠ '{' := fun _ => ne_brace_of_mem_spanDigits
  unfold unsignedNumeral at read
  split at read
  · rename_i rest same
    rw [same] at whole
    have fraction := spanDigits_append rest
    have places : ∀ c ∈ (Literal.spanDigits rest).1, c ≠ '{' := fun _ => ne_brace_of_mem_spanDigits
    split at read
    · cases read
    · rename_i part after _ inner
      rw [inner] at fraction places
      cases read
      refine ⟨by simpa [fraction] using whole, by simp, ?_⟩
      intro c member
      rcases List.mem_cons.mp member with rfl | member
      · decide
      · exact places c member
  · cases read
  · rename_i front rest _ same
    rw [same] at whole digits
    have fraction := spanDigits_append rest
    have places : ∀ c ∈ (Literal.spanDigits rest).1, c ≠ '{' := fun _ => ne_brace_of_mem_spanDigits
    cases read
    refine ⟨by simpa [fraction] using whole, by simp, ?_⟩
    intro c member
    rcases List.mem_append.mp member with member | member
    · exact digits c member
    · rcases List.mem_cons.mp member with rfl | member
      · decide
      · exact places c member
  · rename_i front rest _ filled _ same
    rw [same] at whole digits
    cases read
    exact ⟨whole, filled, digits⟩

private theorem fronts_of_mem_numeral {text : List Char} {way : List Char × List Char}
    (member : way ∈ numeral text) : Fronts way.1 way.2 text := by
  unfold numeral at member
  split at member
  · obtain ⟨inner, present, rfl⟩ := Option.map_eq_some_iff.mp (Option.mem_toList.mp member)
    obtain ⟨whole, filled, digits⟩ := fronts_of_unsignedNumeral present
    refine ⟨by simp only [List.cons_append, whole], by simp, getLast?_ne_of_forall ?_⟩
    intro c member
    rcases List.mem_cons.mp member with rfl | member
    · decide
    · exact digits c member
  · obtain ⟨whole, filled, digits⟩ := fronts_of_unsignedNumeral (Option.mem_toList.mp member)
    exact ⟨whole, filled, getLast?_ne_of_forall digits⟩

/-- The end of a quoted string or of markup, read up to its closing character. -/
private theorem fronts_cons {c close : Char} {front back text : List Char} (shut : close ≠ '{')
    (inner : front ++ back = text ∧ front.getLast? = some close) :
    Fronts (c :: front) back (c :: text) := by
  obtain ⟨rfl, last⟩ := inner
  refine ⟨rfl, by simp, ?_⟩
  rw [List.getLast?_cons, last]
  simpa using shut

private theorem closes_of_quotedRest (text : List Char) :
    ∀ way, quotedRest text = some way → way.1 ++ way.2 = text ∧ way.1.getLast? = some '"' := by
  fun_induction quotedRest text with
  | case1 => intro way read; cases read
  | case2 rest => intro way read; cases read; exact ⟨rfl, rfl⟩
  | case3 => intro way read; cases read
  | case4 c rest _ ih =>
    intro way read
    obtain ⟨inner, present, rfl⟩ := Option.map_eq_some_iff.mp read
    obtain ⟨whole, last⟩ := ih inner present
    exact ⟨by simp only [List.cons_append, whole], by simp [List.getLast?_cons, last]⟩
  | case5 => intro way read; cases read
  | case6 c rest _ _ _ ih =>
    intro way read
    obtain ⟨inner, present, rfl⟩ := Option.map_eq_some_iff.mp read
    obtain ⟨whole, last⟩ := ih inner present
    exact ⟨by simp only [List.cons_append, whole], by simp [List.getLast?_cons, last]⟩

private theorem closes_of_markupRest (inner : Bool) (text : List Char) :
    ∀ way, markupRest inner text = some way →
      way.1 ++ way.2 = text ∧ way.1.getLast? = some '>' := by
  induction text generalizing inner with
  | nil => intro way read; cases read
  | cons c rest ih =>
    intro way read
    simp only [markupRest] at read
    split at read
    · rename_i ends
      cases read
      exact ⟨by simp [ends.1], rfl⟩
    · obtain ⟨tail, present, rfl⟩ := Option.map_eq_some_iff.mp read
      obtain ⟨whole, last⟩ := ih _ tail present
      exact ⟨by simp only [List.cons_append, whole], by simp [List.getLast?_cons, last]⟩

/-- What is read as an identifier is the front of the text. -/
theorem fronts_of_mem_reading {text : List Char} {way : List Char × List Char}
    (member : way ∈ reading text) : Fronts way.1 way.2 text := by
  unfold reading at member
  split at member
  · rename_i rest
    obtain ⟨inner, present, rfl⟩ := Option.map_eq_some_iff.mp (Option.mem_toList.mp member)
    exact fronts_cons (by decide) (closes_of_quotedRest rest inner present)
  · rename_i rest
    have read := Option.mem_toList.mp member
    unfold markup at read
    split at read
    · cases read
    · obtain ⟨inner, present, rfl⟩ := Option.map_eq_some_iff.mp read
      exact fronts_cons (by decide) (closes_of_markupRest false rest inner present)
  · rcases List.mem_append.mp member with member | member
    · exact fronts_of_mem_word member
    · exact fronts_of_mem_numeral member

/-- What an identifier leaves is the end of the text. -/
theorem leaving_reading : reading.Leaving := by
  intro text way member
  exact ⟨way.1, (fronts_of_mem_reading member).1⟩

private theorem suffix_of_mem_blankStarts {text start : List Char} {found : List (List Char)}
    (member : start ∈ blankStarts found text) : start ∈ found ∨ start <:+ text := by
  induction text generalizing found with
  | nil => exact .inl member
  | cons c rest ih =>
    simp only [blankStarts] at member
    split at member
    · rcases ih member with member | suffix
      · split at member
        · rcases List.mem_cons.mp member with rfl | member
          · exact .inr List.suffix_rfl
          · exact .inl member
        · exact .inl member
      · exact .inr (suffix.trans (List.suffix_cons c rest))
    · exact .inl member

theorem leaving_margin : margin.Leaving := by
  intro text way member
  obtain ⟨left, present, rfl⟩ := List.mem_map.mp member
  rcases List.mem_cons.mp present with rfl | present
  · exact trimStart_suffix text
  · rcases suffix_of_mem_blankStarts (List.mem_of_mem_take present) with none | suffix
    · cases none
    · exact suffix

theorem leaving_someMargin : someMargin.Leaving := by
  intro text way member
  cases text with
  | nil => cases member
  | cons c rest =>
    simp only [someMargin] at member
    split at member
    · exact (leaving_margin rest way member).trans (List.suffix_cons c rest)
    · cases member

private theorem toNat_of_isLetter {c : Char} (letter : isLetter c = true) :
    97 ≤ c.toNat ∧ c.toNat ≤ 122 ∨ 65 ≤ c.toNat ∧ c.toNat ≤ 90 := by
  simp only [isLetter, Bool.or_eq_true, Bool.and_eq_true, decide_eq_true_eq, Char.le_def,
    UInt32.le_iff_toNat_le] at letter
  exact letter

private theorem isWordStart_of_isLetter {c : Char} (letter : isLetter c = true) :
    isWordStart c = true := by
  simp only [isWordStart, letter, Bool.true_or]

/-- No letter is a blank. -/
theorem isBlank_of_isLetter {c : Char} (letter : isLetter c = true) : isBlank c = false := by
  have bounds := toNat_of_isLetter letter
  apply isBlank_of_ascii <;> omega

private theorem isDigit_of_isLetter {c : Char} (letter : isLetter c = true) :
    Literal.isDigit c = false := by
  have bounds := toNat_of_isLetter letter
  simp only [Literal.isDigit, Bool.and_eq_false_iff, decide_eq_false_iff_not, Char.le_def,
    UInt32.le_iff_toNat_le]
  right
  change ¬ c.toNat ≤ 57
  omega

/-- No word that starts with a letter is a numeral. -/
theorem numeral_of_isLetter {c : Char} {rest : List Char} (letter : isLetter c = true) :
    numeral (c :: rest) = [] := by
  have bounds := toNat_of_isLetter letter
  have digits : Literal.spanDigits (c :: rest) = ([], c :: rest) := by
    simp only [Literal.spanDigits, List.takeWhile_cons, List.dropWhile_cons,
      isDigit_of_isLetter letter, Bool.false_eq_true, if_false]
  unfold numeral
  split
  · rename_i same
    cases same
    simp at bounds
  · have point : c ≠ '.' := by
      rintro rfl
      simp at bounds
    simp [unsignedNumeral, digits, point]

/-- A bare word in front of a character that no word holds is read in one way. -/
theorem reading_word {stop : Char} {word rest : List Char} (filled : word ≠ [])
    (letters : ∀ c ∈ word, isLetter c = true) (stops : isWordChar stop = false) :
    reading (word ++ stop :: rest) = [(word, stop :: rest)] := by
  obtain ⟨c, more, rfl⟩ := List.exists_cons_of_ne_nil filled
  have starts := letters c (List.mem_cons_self ..)
  have inside : ∀ d ∈ more, isLetter d = true :=
    fun d member => letters d (List.mem_cons_of_mem c member)
  have words : ∀ d ∈ more, isWordChar d = true :=
    fun d member => isWordChar_of_isWordStart (isWordStart_of_isLetter (inside d member))
  have run : (more ++ stop :: rest).takeWhile isWordChar = more := by
    rw [List.takeWhile_append_of_pos words, List.takeWhile_cons_of_neg (by simp [stops]),
      List.append_nil]
  have left : (more ++ stop :: rest).dropWhile isWordChar = stop :: rest := by
    rw [List.dropWhile_append_of_pos words, List.dropWhile_cons_of_neg (by simp [stops])]
  have unbroken : more.reverse.dropWhile (fun d => !isBlank d) = [] := by
    rw [List.dropWhile_eq_nil_iff]
    intro d member
    rw [isBlank_of_isLetter (inside d (List.mem_reverse.mp member)), Bool.not_false]
  have bounds := toNat_of_isLetter starts
  rw [List.cons_append]
  unfold reading
  split
  · rename_i same
    cases same
    simp at bounds
  · rename_i same
    cases same
    simp at bounds
  · simp only [Ident.word, isWordStart_of_isLetter starts, if_true, wordRest, run, left, unbroken,
      numeral_of_isLetter starts, List.map_cons, List.map_nil, List.append_nil]

end XdotViewer.Ident
