import XdotViewer.Decimal.Literal
import XdotViewer.Text.Blank

/-! # Reading a script from the front

A script is made of words with blanks between them. A string in it is announced by a word that
counts its bytes and begins after a minus sign, so it may hold blanks. A reading that fails has
used up the words it looked at.
-/

namespace XdotViewer

/-- What is left of a script. -/
structure Cursor where
  rest : List Char
deriving DecidableEq, Repr

namespace Cursor

def ofText (text : List Char) : Cursor :=
  ⟨trimStart text⟩

def remaining (cursor : Cursor) : String :=
  String.ofList cursor.rest

def isAtEnd (cursor : Cursor) : Bool :=
  cursor.rest.isEmpty

/-- Takes the next word. -/
def takeWord (cursor : Cursor) : Option (List Char) × Cursor :=
  match cursor.rest.takeWhile fun c => !isBlank c with
  | [] => (none, cursor)
  | word => (some word, .ofText (cursor.rest.dropWhile fun c => !isBlank c))

/-- Takes up to `count` words. -/
def takeWords : Nat → Cursor → List (List Char) × Cursor
  | 0, cursor => ([], cursor)
  | count + 1, cursor =>
    match cursor.takeWord with
    | (none, cursor) => ([], cursor)
    | (some word, cursor) =>
      let (words, cursor) := takeWords count cursor
      (word :: words, cursor)

/-- Takes a word that is a finite number. -/
def takeNumber (cursor : Cursor) : Option Float × Cursor :=
  let (word, cursor) := cursor.takeWord
  (word.bind fun word => (readFloat? word).filter Float.isFinite, cursor)

/-- Takes exactly `count` numbers; the first word that is none ends the reading. -/
def takeNumbers : Nat → Cursor → Option (List Float) × Cursor
  | 0, cursor => (some [], cursor)
  | count + 1, cursor =>
    match cursor.takeNumber with
    | (none, cursor) => (none, cursor)
    | (some number, cursor) =>
      let (numbers, cursor) := takeNumbers count cursor
      (numbers.map (number :: ·), cursor)

/-- Splits off the shortest front part with at least `count` bytes. -/
def splitBytes : List Char → Nat → Option (List Char × List Char)
  | text, 0 => some ([], text)
  | [], _ + 1 => none
  | c :: rest, count + 1 =>
    (splitBytes rest (count + 1 - c.utf8Size)).map fun (front, back) => (c :: front, back)

/-- Takes a string with its announcement. -/
def takeString (cursor : Cursor) : Option (List Char) × Cursor :=
  match cursor.takeWord with
  | (none, cursor) => (none, cursor)
  | (some word, cursor) =>
    match readWord? word, cursor.rest with
    | some count, '-' :: payload =>
      match splitBytes payload count with
      | some (text, rest) => (some text, .ofText rest)
      | none => (none, cursor)
    | _, _ => (none, cursor)

/-- Splitting loses nothing. -/
theorem splitBytes_append {text front back : List Char} {count : Nat}
    (split : splitBytes text count = some (front, back)) : front ++ back = text := by
  fun_induction splitBytes text count generalizing front back with
  | case1 => cases split; rfl
  | case2 => cases split
  | case3 c rest count ih =>
    obtain ⟨⟨tail, other⟩, inner, same⟩ := Option.map_eq_some_iff.mp split
    cases same
    simp [ih inner]

/-- The bytes of a text. -/
def byteCount : List Char → Nat
  | [] => 0
  | c :: rest => c.utf8Size + byteCount rest

/-- No character is left out that the announced bytes reach into. -/
theorem le_byteCount_of_splitBytes {text front back : List Char} {count : Nat}
    (split : splitBytes text count = some (front, back)) : count ≤ byteCount front := by
  fun_induction splitBytes text count generalizing front back with
  | case1 => exact Nat.zero_le _
  | case2 => cases split
  | case3 c rest count ih =>
    obtain ⟨⟨tail, other⟩, inner, same⟩ := Option.map_eq_some_iff.mp split
    cases same
    have bound := ih inner
    simp only [byteCount] at bound ⊢
    omega

/-- A word that is taken makes the rest shorter. -/
theorem length_takeWord_lt {cursor after : Cursor} {word : List Char}
    (taken : cursor.takeWord = (some word, after)) :
    after.rest.length < cursor.rest.length := by
  unfold takeWord at taken
  split at taken
  · cases taken
  · rename_i nonempty
    cases taken
    have whole := congrArg List.length
      (List.takeWhile_append_dropWhile (p := fun c => !isBlank c) (l := cursor.rest))
    have left := (trimStart_suffix (cursor.rest.dropWhile fun c => !isBlank c)).length_le
    rw [List.length_append] at whole
    have filled : 0 < (cursor.rest.takeWhile fun c => !isBlank c).length :=
      List.length_pos_iff.mpr fun empty => nonempty empty
    simp only [ofText]
    omega

section Progress

variable {cursor middle after : Cursor}

/-- There is no blank in front. -/
def Begun (cursor : Cursor) : Prop :=
  ∀ c ∈ cursor.rest.head?, isBlank c = false

/-- The second cursor has no more left than an end of what the first has, and no blank in front
unless the first has. -/
structure Onward (cursor after : Cursor) : Prop where
  suffix : after.rest <:+ cursor.rest
  begun : cursor.Begun → after.Begun

/-- A cursor begins behind the blanks. -/
theorem begun_ofText (text : List Char) : (ofText text).Begun := by
  intro c head
  obtain ⟨rest, kept⟩ := List.head?_eq_some_iff.mp head
  exact head_trimStart_not_blank kept

namespace Onward

theorem refl (cursor : Cursor) : Onward cursor cursor :=
  ⟨List.suffix_rfl, id⟩

theorem trans (first : Onward cursor middle) (second : Onward middle after) :
    Onward cursor after :=
  ⟨second.suffix.trans first.suffix, second.begun ∘ first.begun⟩

/-- A cursor on an end of what is left has moved on. -/
theorem of_suffix {text : List Char} (suffix : text <:+ cursor.rest) :
    Onward cursor (ofText text) :=
  ⟨(trimStart_suffix text).trans suffix, fun _ => begun_ofText text⟩

end Onward

/-! Taking something leads onward, also where it fails. -/

/-- Taking a word only moves the cursor on. -/
theorem onward_takeWord (cursor : Cursor) : Onward cursor cursor.takeWord.2 := by
  rw [takeWord]
  split
  · exact .refl cursor
  · exact .of_suffix (List.dropWhile_suffix _)

theorem onward_takeWords (count : Nat) (cursor : Cursor) :
    Onward cursor (cursor.takeWords count).2 := by
  induction count generalizing cursor with
  | zero => exact .refl cursor
  | succ count ih =>
    have first := onward_takeWord cursor
    rw [takeWords]
    split
    · rename_i left taken
      rwa [taken] at first
    · rename_i word left taken
      rw [taken] at first
      exact first.trans (ih left)

/-- Taking a number only moves the cursor on, also when it is none. -/
theorem onward_takeNumber (cursor : Cursor) : Onward cursor cursor.takeNumber.2 :=
  onward_takeWord cursor

/-- Taking numbers only moves the cursor on, also when one is missing. -/
theorem onward_takeNumbers (count : Nat) (cursor : Cursor) :
    Onward cursor (cursor.takeNumbers count).2 := by
  induction count generalizing cursor with
  | zero => exact .refl cursor
  | succ count ih =>
    have first := onward_takeNumber cursor
    rw [takeNumbers]
    split
    · rename_i left taken
      rwa [taken] at first
    · rename_i number left taken
      rw [taken] at first
      exact first.trans (ih left)

/-- What is left behind a string is an end of what was there. -/
theorem suffix_of_announced {payload text back : List Char} {count : Nat}
    (marked : cursor.rest = '-' :: payload) (split : splitBytes payload count = some (text, back)) :
    back <:+ cursor.rest := by
  rw [marked, ← splitBytes_append split]
  exact (List.suffix_append text back).trans (List.suffix_cons _ _)

/-- Taking a string only moves the cursor on, also when it is cut short. -/
theorem onward_takeString (cursor : Cursor) : Onward cursor cursor.takeString.2 := by
  have first := onward_takeWord cursor
  rw [takeString]
  split
  · rename_i left taken
    rwa [taken] at first
  · rename_i word left taken
    rw [taken] at first
    split
    · rename_i count payload announced marked
      split
      · rename_i text rest split
        exact first.trans (.of_suffix (suffix_of_announced marked split))
      · exact first
    · exact first

end Progress

end Cursor
end XdotViewer
