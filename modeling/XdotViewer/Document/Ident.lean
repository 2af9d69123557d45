import XdotViewer.Decimal.Literal
import XdotViewer.Text.Reading

/-! # Identifiers

Names and values are written as a bare word, a numeral, a quoted string, or markup between angle
brackets that may hold one more level of brackets.
-/

namespace XdotViewer

namespace Ident

def isLetter (c : Char) : Bool :=
  'a' ≤ c && c ≤ 'z' || 'A' ≤ c && c ≤ 'Z'

/-- Every character above ASCII may stand in a word, blanks among them. -/
def isWordStart (c : Char) : Bool :=
  isLetter c || c == '_' || 0x80 ≤ c.toNat

def isWordChar (c : Char) : Bool :=
  isWordStart c || Literal.isDigit c

/-- The rest of a word, as long as possible first. Nothing that follows a word begins with one of
its characters, unless it is a blank; so the word may only end early before the last blank in it. -/
def wordRest : Reading (List Char) := fun text =>
  let run := text.takeWhile isWordChar
  let longest := (run, text.dropWhile isWordChar)
  match run.reverse.dropWhile fun c => !isBlank c with
  | [] => [longest]
  | _ :: before => [longest, (before.reverse, text.drop before.length)]

def word : Reading (List Char)
  | c :: rest => if isWordStart c then (wordRest rest).map fun way => (c :: way.1, way.2) else []
  | [] => []

/-- Digits with an optional point; at least one digit stands after a leading point. -/
def unsignedNumeral (text : List Char) : Option (List Char × List Char) :=
  match Literal.spanDigits text with
  | ([], '.' :: rest) =>
    match Literal.spanDigits rest with
    | ([], _) => none
    | (fraction, rest) => some ('.' :: fraction, rest)
  | ([], _) => none
  | (digits, '.' :: rest) =>
    let (fraction, rest) := Literal.spanDigits rest
    some (digits ++ '.' :: fraction, rest)
  | (digits, rest) => some (digits, rest)

def numeral : Reading (List Char)
  | '-' :: rest => ((unsignedNumeral rest).map fun way => ('-' :: way.1, way.2)).toList
  | text => (unsignedNumeral text).toList

/-- The rest of a quoted string with its closing quote. A backslash takes the next character with
it, unless that is a line break. -/
def quotedRest : List Char → Option (List Char × List Char)
  | [] => none
  | '"' :: rest => some (['"'], rest)
  | '\\' :: c :: rest =>
    if c = '\n' then none
    else (quotedRest rest).map fun way => ('\\' :: c :: way.1, way.2)
  | c :: rest =>
    if c = '\\' then none else (quotedRest rest).map fun way => (c :: way.1, way.2)

/-- The rest of some markup with its closing bracket, given whether an inner bracket is open. -/
def markupRest : Bool → List Char → Option (List Char × List Char)
  | _, [] => none
  | inner, c :: rest =>
    if c = '>' ∧ inner = false then some (['>'], rest)
    else
      (markupRest (if inner then c != '>' else c == '<') rest).map fun way => (c :: way.1, way.2)

/-- Markup holds at least one character. -/
def markup (text : List Char) : Option (List Char × List Char) :=
  match text with
  | '>' :: _ => none
  | _ => (markupRest false text).map fun way => ('<' :: way.1, way.2)

/-- An identifier as it is written. -/
def reading : Reading (List Char)
  | '"' :: rest => ((quotedRest rest).map fun way => ('"' :: way.1, way.2)).toList
  | '<' :: rest => (markup rest).toList
  | text => word text ++ numeral text

/-- The texts that begin at one of the blanks in front and may be a word, the last of them first. -/
def blankStarts (found : List (List Char)) : List Char → List (List Char)
  | [] => found
  | c :: rest =>
    if isBlank c then blankStarts (if isWordStart c then (c :: rest) :: found else found) rest
    else found

/-- Blanks in front of an identifier, all of them first. A word may begin with one of them, and of
these words the shortest two are enough: a longer one ends as one of them does. -/
def margin : Reading Unit := fun text =>
  (trimStart text :: (blankStarts [] text).take 2).map fun rest => ((), rest)

/-- At least one blank in front of an identifier. -/
def someMargin : Reading Unit
  | c :: rest => if isBlank c then margin rest else []
  | [] => []

/-- Writes a quote for every quote with a backslash. -/
def unescapeQuotes : List Char → List Char
  | '\\' :: '"' :: rest => '"' :: unescapeQuotes rest
  | c :: rest => c :: unescapeQuotes rest
  | [] => []

/-- What an identifier stands for: a quoted one for the text between its quotes. -/
def value (written : List Char) : List Char :=
  match written with
  | '"' :: rest =>
    if rest.getLast? = some '"' then unescapeQuotes rest.dropLast else written
  | _ => written

def text (written : List Char) : String :=
  String.ofList (value written)

section Progress

theorem length_wordRest_le (text : List Char) :
    ∀ way ∈ wordRest text, way.2.length ≤ text.length := by
  intro way member
  have shorter := (List.dropWhile_suffix (l := text) isWordChar).length_le
  simp only [wordRest] at member
  split at member
  · cases List.mem_singleton.mp member
    exact shorter
  · rcases List.mem_cons.mp member with rfl | member
    · exact shorter
    · cases List.mem_singleton.mp member
      simp

theorem length_le_of_mem_blankStarts {text start : List Char} {found : List (List Char)}
    (member : start ∈ blankStarts found text) :
    start ∈ found ∨ start.length ≤ text.length := by
  induction text generalizing found with
  | nil => exact .inl member
  | cons c rest ih =>
    simp only [blankStarts] at member
    split at member
    · rcases ih member with member | shorter
      · split at member
        · rcases List.mem_cons.mp member with rfl | member
          · exact .inr (Nat.le_refl _)
          · exact .inl member
        · exact .inl member
      · exact .inr (Nat.le_succ_of_le shorter)
    · exact .inl member

theorem bounded_margin : margin.Bounded := by
  intro text way member
  obtain ⟨left, present, rfl⟩ := List.mem_map.mp member
  rcases List.mem_cons.mp present with rfl | present
  · exact (trimStart_suffix text).length_le
  · rcases length_le_of_mem_blankStarts (List.mem_of_mem_take present) with none | shorter
    · cases none
    · exact shorter

/-- A word takes a character at least. -/
theorem consuming_word : word.Consuming := by
  intro text way member
  cases text with
  | nil => cases member
  | cons c rest =>
    simp only [word] at member
    split at member
    · obtain ⟨inner, present, rfl⟩ := List.mem_map.mp member
      exact Nat.lt_succ_of_le (length_wordRest_le rest inner present)
    · cases member

theorem length_spanDigits (text : List Char) :
    (Literal.spanDigits text).1.length + (Literal.spanDigits text).2.length = text.length := by
  simp only [Literal.spanDigits]
  rw [← List.length_append, List.takeWhile_append_dropWhile]

theorem length_unsignedNumeral_lt {text : List Char} {way : List Char × List Char}
    (read : unsignedNumeral text = some way) : way.2.length < text.length := by
  have whole := length_spanDigits text
  unfold unsignedNumeral at read
  split at read
  · rename_i rest same
    rw [same] at whole
    have fraction := length_spanDigits rest
    simp only [List.length_nil, List.length_cons] at whole
    split at read
    · cases read
    · rename_i split
      rw [split] at fraction
      cases read
      simp only at fraction ⊢
      omega
  · cases read
  · rename_i digits rest _ same
    rw [same] at whole
    have fraction := length_spanDigits rest
    cases read
    simp only [List.length_cons] at whole
    change (Literal.spanDigits rest).2.length < _
    omega
  · rename_i digits rest _ filled _ same
    rw [same] at whole
    cases read
    have some : digits.length ≠ 0 := fun none =>
      filled (List.length_eq_zero_iff.mp none)
    change rest.length < _
    change digits.length + rest.length = _ at whole
    omega

/-- A numeral takes a character at least. -/
theorem consuming_numeral : numeral.Consuming := by
  intro text way member
  unfold numeral at member
  split at member
  · rename_i rest
    obtain ⟨inner, present, rfl⟩ := Option.map_eq_some_iff.mp (Option.mem_toList.mp member)
    have shorter := length_unsignedNumeral_lt present
    exact Nat.lt_succ_of_lt shorter
  · exact length_unsignedNumeral_lt (Option.mem_toList.mp member)

/-- A quoted part takes a character at least: its closing quote. -/
theorem length_quotedRest_lt (text : List Char) :
    ∀ way, quotedRest text = some way → way.2.length < text.length := by
  fun_induction quotedRest text with
  | case1 => intro way read; cases read
  | case2 rest => intro way read; cases read; exact Nat.lt_succ_self _
  | case3 => intro way read; cases read
  | case4 c rest _ ih =>
    intro way read
    obtain ⟨inner, present, rfl⟩ := Option.map_eq_some_iff.mp read
    exact Nat.lt_succ_of_lt (Nat.lt_succ_of_lt (ih inner present))
  | case5 => intro way read; cases read
  | case6 c rest _ _ _ ih =>
    intro way read
    obtain ⟨inner, present, rfl⟩ := Option.map_eq_some_iff.mp read
    exact Nat.lt_succ_of_lt (ih inner present)

/-- A part in angle brackets takes a character at least: its closing bracket. -/
theorem length_markupRest_lt (inner : Bool) (text : List Char) :
    ∀ way, markupRest inner text = some way → way.2.length < text.length := by
  induction text generalizing inner with
  | nil => intro way read; cases read
  | cons c rest ih =>
    intro way read
    simp only [markupRest] at read
    split at read
    · cases read
      exact Nat.lt_succ_self _
    · obtain ⟨tail, present, rfl⟩ := Option.map_eq_some_iff.mp read
      exact Nat.lt_succ_of_lt (ih _ tail present)

/-- An identifier takes a character at least. -/
theorem consuming_reading : reading.Consuming := by
  intro text way member
  unfold reading at member
  split at member
  · rename_i rest
    obtain ⟨inner, present, rfl⟩ := Option.map_eq_some_iff.mp (Option.mem_toList.mp member)
    exact Nat.lt_succ_of_lt (length_quotedRest_lt rest inner present)
  · rename_i rest
    have read := Option.mem_toList.mp member
    unfold markup at read
    split at read
    · cases read
    · obtain ⟨inner, present, rfl⟩ := Option.map_eq_some_iff.mp read
      exact Nat.lt_succ_of_lt (length_markupRest_lt false rest inner present)
  · rcases List.mem_append.mp member with member | member
    · exact consuming_word text way member
    · exact consuming_numeral text way member

end Progress

end Ident
end XdotViewer
