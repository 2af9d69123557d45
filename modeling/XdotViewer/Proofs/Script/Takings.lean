import Mathlib.Order.Bounds.Basic
import XdotViewer.Proofs.Script.Counts

/-! # A cursor in use

A cursor is moved by takings, and one that gives nothing may have moved it as well. Wherever takings
have led it, the end of the text is left, with no blank in front. That is what ends a script in the
right place: a word is missing only where nothing is left, and each instruction takes some of it.
-/

namespace XdotViewer

/-- What can be asked of a cursor. -/
inductive Taking where
  | word
  | words (count : Nat)
  | number
  | numbers (count : Nat)
  | string

namespace Cursor

/-- The cursor behind a taking, whether that has given something or not. -/
def step (cursor : Cursor) : Taking → Cursor
  | .word => cursor.takeWord.2
  | .words count => (cursor.takeWords count).2
  | .number => cursor.takeNumber.2
  | .numbers count => (cursor.takeNumbers count).2
  | .string => cursor.takeString.2

def run (cursor : Cursor) (takings : List Taking) : Cursor :=
  takings.foldl step cursor

/-- The places in a text, in bytes, that stand between characters. -/
def boundaries (text : List Char) : Set Nat :=
  {size | (String.Pos.Raw.mk size).IsValid (String.ofList text)}

/-- A word that counts bytes, and a minus sign with the payload. -/
def Announces (cursor : Cursor) (count : Nat) (payload : List Char) : Prop :=
  ∃ word after, cursor.takeWord = (some word, after) ∧ readWord? word = some count ∧
    after.rest = '-' :: payload

variable {cursor after : Cursor}

section Steps

private theorem onward_step (cursor : Cursor) (taking : Taking) :
    Onward cursor (cursor.step taking) := by
  cases taking with
  | word => exact onward_takeWord cursor
  | words count => exact onward_takeWords count cursor
  | number => exact onward_takeNumber cursor
  | numbers count => exact onward_takeNumbers count cursor
  | string => exact onward_takeString cursor

private theorem onward_run (cursor : Cursor) (takings : List Taking) :
    Onward cursor (cursor.run takings) := by
  induction takings generalizing cursor with
  | nil => exact .refl cursor
  | cons taking rest ih => exact (onward_step cursor taking).trans (ih (cursor.step taking))

/-- A blank in front would pass for the end of the text. -/
theorem takeWord_eq_none_iff (begun : cursor.Begun) :
    cursor.takeWord.1 = none ↔ cursor.rest = [] := by
  cases next : cursor.rest with
  | nil => simp [takeWord, next]
  | cons c rest =>
    have visible : isBlank c = false := begun c (by rw [next]; rfl)
    simp [takeWord, next, visible]

end Steps

section Strings

variable {text payload front back other : List Char} {count size : Nat}

private theorem mem_boundaries :
    size ∈ boundaries text ↔ ∃ front, front <+: text ∧ byteCount front = size := by
  rw [boundaries, Set.mem_ofPred_eq, String.Pos.Raw.isValid_ofList]
  simp only [utf8ByteSize_eq_byteCount, String.toList_ofList]
  constructor
  · rintro ⟨length, same⟩
    exact ⟨text.take length, List.take_prefix length text, same.symm⟩
  · rintro ⟨front, isPrefix, rfl⟩
    exact ⟨front.length, by rw [← List.prefix_iff_eq_take.mp isPrefix]⟩

private theorem exists_splitBytes (enough : count ≤ byteCount text) :
    ∃ front back, splitBytes text count = some (front, back) := by
  fun_induction splitBytes text count with
  | case1 text => exact ⟨[], text, rfl⟩
  | case2 => exact absurd enough (by simp [byteCount])
  | case3 c rest count ih =>
    rw [byteCount] at enough
    obtain ⟨front, back, split⟩ := ih (by omega)
    exact ⟨c :: front, back, by rw [split]; rfl⟩

/-- A front part with the bytes is no shorter than the one that is split off. -/
theorem byteCount_le_of_splitBytes (split : splitBytes text count = some (front, back))
    (isPrefix : other <+: text) (enough : count ≤ byteCount other) :
    byteCount front ≤ byteCount other := by
  fun_induction splitBytes text count generalizing front back other with
  | case1 =>
    cases split
    exact Nat.zero_le _
  | case2 => cases split
  | case3 c rest count ih =>
    obtain ⟨⟨tail, left⟩, inner, same⟩ := Option.map_eq_some_iff.mp split
    cases same
    cases other with
    | nil => exact absurd enough (by simp [byteCount])
    | cons d more =>
      obtain ⟨rfl, shorter⟩ := List.cons_prefix_cons.mp isPrefix
      simp only [byteCount] at enough ⊢
      have left : count + 1 - d.utf8Size ≤ byteCount more := by omega
      have bound := ih inner shorter left
      omega

private theorem eq_of_byteCount_eq (first : front <+: text) (second : other <+: text)
    (same : byteCount front = byteCount other) : front = other := by
  have equal {short long : List Char} (within : short <+: long)
      (bytes : byteCount short = byteCount long) : short = long := by
    obtain ⟨more, rfl⟩ := within
    have none := length_le_byteCount more
    rw [byteCount_append] at bytes
    have empty : more = [] := List.eq_nil_of_length_eq_zero (by omega)
    rw [empty, List.append_nil]
  rcases List.prefix_or_prefix_of_prefix first second with within | within
  · exact equal within same
  · exact (equal within same.symm).symm

private theorem splitBytes_eq_some_iff : splitBytes payload count = some (front, back) ↔
    payload = front ++ back ∧
      IsLeast {size | size ∈ boundaries payload ∧ count ≤ size} (byteCount front) := by
  have least {front back : List Char} (split : splitBytes payload count = some (front, back)) :
      IsLeast {size | size ∈ boundaries payload ∧ count ≤ size} (byteCount front) := by
    have whole := splitBytes_append split
    refine ⟨⟨mem_boundaries.mpr ⟨front, ⟨back, whole⟩, rfl⟩, le_byteCount_of_splitBytes split⟩, ?_⟩
    rintro size ⟨boundary, enough⟩
    obtain ⟨other, isPrefix, rfl⟩ := mem_boundaries.mp boundary
    exact byteCount_le_of_splitBytes split isPrefix enough
  constructor
  · exact fun split => ⟨(splitBytes_append split).symm, least split⟩
  · rintro ⟨rfl, shortest⟩
    have enough : count ≤ byteCount (front ++ back) := by
      have inside := shortest.1.2
      rw [byteCount_append]
      omega
    obtain ⟨text, rest, split⟩ := exists_splitBytes enough
    have whole := splitBytes_append split
    obtain rfl : text = front := eq_of_byteCount_eq ⟨rest, whole⟩ (List.prefix_append front back)
      ((least split).unique shortest)
    rw [split, List.append_cancel_left whole]

private theorem takeString_eq_some : cursor.takeString = (some text, after) ↔
    ∃ count payload back, cursor.Announces count payload ∧
      splitBytes payload count = some (text, back) ∧ after = ofText back := by
  constructor
  · intro taken
    rw [takeString] at taken
    split at taken
    · cases taken
    · rename_i word left front
      split at taken
      · rename_i count payload announced marked
        split at taken
        · rename_i content rest split
          cases taken
          exact ⟨count, payload, rest, ⟨word, left, front, announced, marked⟩, split, rfl⟩
        · cases taken
      · cases taken
  · rintro ⟨count, payload, back, ⟨word, left, front, announced, marked⟩, split, rfl⟩
    simp only [takeString, front, announced, marked, split]

end Strings

section Shorter

private theorem byteCount_lt_of_takeWord {word : List Char}
    (taken : cursor.takeWord = (some word, after)) :
    byteCount after.rest < byteCount cursor.rest := by
  have onward := onward_takeWord cursor
  have shorter := length_takeWord_lt taken
  rw [taken] at onward
  obtain ⟨front, whole⟩ : after.rest <:+ cursor.rest := onward.suffix
  have bytes := length_le_byteCount front
  rw [← whole, List.length_append] at shorter
  rw [← whole, byteCount_append]
  omega

private theorem byteCount_lt_of_takeNumber {number : Float}
    (taken : cursor.takeNumber = (some number, after)) :
    byteCount after.rest < byteCount cursor.rest := by
  obtain ⟨word, front, -⟩ := takeNumber_eq_some.mp taken
  exact byteCount_lt_of_takeWord front

private theorem byteCount_lt_of_takeString {text : List Char}
    (taken : cursor.takeString = (some text, after)) :
    byteCount after.rest < byteCount cursor.rest := by
  obtain ⟨count, payload, back, ⟨word, left, front, -, marked⟩, split, rfl⟩ :=
    takeString_eq_some.mp taken
  have onward : Onward left (ofText back) := .of_suffix (suffix_of_announced marked split)
  exact (byteCount_le_of_suffix onward.suffix).trans_lt (byteCount_lt_of_takeWord front)

end Shorter

section Scripts

variable {final : Cursor} {instructions : List Instruction}

private theorem onward_of_reads (reads : Reads cursor instructions final) :
    Onward cursor final := by
  induction reads with
  | nil cursor => exact .refl cursor
  | @cons cursor left rest final word op _ _ taken known done _ ih =>
    have first := onward_takeWord cursor
    have second := Instruction.onward_read op left
    rw [taken] at first
    rw [done] at second
    exact first.trans (second.trans ih)

/-- Each instruction takes a byte at least. -/
theorem byteCount_add_length_le (reads : Reads cursor instructions final) :
    byteCount final.rest + instructions.length ≤ byteCount cursor.rest := by
  induction reads with
  | nil cursor => exact Nat.le_refl _
  | @cons cursor left rest final word op _ _ taken known done _ ih =>
    have first := byteCount_lt_of_takeWord taken
    have onward := Instruction.onward_read op left
    rw [done] at onward
    have second : byteCount rest.rest ≤ byteCount left.rest := byteCount_le_of_suffix onward.suffix
    rw [List.length_cons]
    omega

end Scripts

/-- What holds of a cursor on a text wherever takings have led it. -/
structure Placed (text : List Char) (cursor : Cursor) : Prop where
  /-- The end of the text is left. -/
  suffix : cursor.rest <:+ text
  begun : cursor.Begun
  /-- No taking leaves more than there was, whether it gives something or not. -/
  onward : ∀ taking, (cursor.step taking).rest <:+ cursor.rest
  word_shorter : ∀ word after, cursor.takeWord = (some word, after) →
    byteCount after.rest < byteCount cursor.rest
  number_shorter : ∀ number after, cursor.takeNumber = (some number, after) →
    byteCount after.rest < byteCount cursor.rest
  string_shorter : ∀ string after, cursor.takeString = (some string, after) →
    byteCount after.rest < byteCount cursor.rest
  /-- A word is missing only where nothing is left. -/
  ended : cursor.takeWord.1 = none ↔ cursor.rest = []
  /-- A string is the shortest front part of its payload that has the bytes and no part of a
  character. -/
  string : ∀ string after, cursor.takeString = (some string, after) ↔
    ∃ count payload back, cursor.Announces count payload ∧ payload = string ++ back ∧
      IsLeast {size | size ∈ boundaries payload ∧ count ≤ size} (byteCount string) ∧
      after = ofText back
  /-- There are no more instructions than bytes. -/
  turns : ∀ instructions final, Reads cursor instructions final →
    byteCount final.rest + instructions.length ≤ byteCount cursor.rest
  /-- A script is read until nothing is left, or up to an instruction that is fatal. -/
  finished : ∃ final, Reads cursor (Script.readFrom cursor).instructions final ∧
    match (Script.readFrom cursor).fault with
    | none => final.rest = []
    | some fault => Fatal final fault

/-- A cursor stays placed through takings of any kind and number, those that fail among them. -/
theorem placed_run (text : List Char) (takings : List Taking) :
    Placed text ((ofText text).run takings) := by
  have way := onward_run (ofText text) takings
  have begun := way.begun (begun_ofText text)
  exact {
    suffix := way.suffix.trans (trimStart_suffix text)
    begun
    onward := fun taking => (onward_step _ taking).suffix
    word_shorter := fun word after => byteCount_lt_of_takeWord
    number_shorter := fun number after => byteCount_lt_of_takeNumber
    string_shorter := fun string after => byteCount_lt_of_takeString
    ended := takeWord_eq_none_iff begun
    string := by
      intro string after
      simp only [takeString_eq_some, splitBytes_eq_some_iff, and_assoc]
    turns := fun instructions final => byteCount_add_length_le
    finished := by
      obtain ⟨final, reads, ended⟩ := exists_reads ((ofText text).run takings)
      refine ⟨final, reads, ?_⟩
      split
      · rename_i complete
        rw [complete] at ended
        exact (takeWord_eq_none_iff ((onward_of_reads reads).begun begun)).mp ended
      · rename_i fault failed
        rwa [failed] at ended }

end Cursor
end XdotViewer
