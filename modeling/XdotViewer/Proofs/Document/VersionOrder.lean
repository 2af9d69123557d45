import XdotViewer.Document.Version
import Mathlib.Data.List.Basic

/-! # The order of versions

Versions are compared as the lists of their numbers, filled up with zeros to one length, in
lexicographic order. A list of numbers is read off every text in which it is written, and off every
other text some list is read as well, with a zero for each part that is no number. So the comparison
is a total preorder on all texts.
-/

namespace XdotViewer
namespace Version

/-- The numbers of a version in decimal, with points between them. -/
def dotted (numbers : List Nat) : String :=
  ".".intercalate (numbers.map toString)

/-- A version in writing, with blanks around it or none. -/
inductive Writes (numbers : List Nat) : String → Prop
  | surrounded {before after : String} : (∀ c ∈ before.toList, isBlank c = true) →
    (∀ c ∈ after.toList, isBlank c = true) → Writes numbers (before ++ dotted numbers ++ after)

section Reading

variable {numbers : List Nat} {text : String} {n : Nat} {c : Char}

private theorem toList_dotted (numbers : List Nat) :
    (dotted numbers).toList = ['.'].intercalate (numbers.map (Nat.toDigits 10)) := by
  simp [dotted, String.toList_intercalate, Function.comp_def]

private theorem toNat_of_isDigit (digit : Literal.isDigit c = true) :
    48 ≤ c.toNat ∧ c.toNat ≤ 57 := by
  simp only [Literal.isDigit, Bool.and_eq_true, decide_eq_true_eq, Char.le_def,
    UInt32.le_iff_toNat_le] at digit
  exact digit

private theorem visible_of_mem_toDigits (member : c ∈ Nat.toDigits 10 n) : isBlank c = false := by
  have bounds := toNat_of_isDigit (isDigit_of_mem_toDigits member)
  apply isBlank_of_ascii <;> omega

private theorem point_not_mem_toDigits : '.' ∉ Nat.toDigits 10 n := by
  intro member
  have digit := isDigit_of_mem_toDigits member
  exact absurd digit (by decide)

/-- What stands between parts is the separator. -/
theorem eq_or_mem_of_mem_intercalate {separator : Char} {parts : List (List Char)}
    (member : c ∈ [separator].intercalate parts) : c = separator ∨ ∃ part ∈ parts, c ∈ part := by
  induction parts with
  | nil => cases member
  | cons first rest ih =>
    cases rest with
    | nil =>
      rw [List.intercalate_singleton] at member
      exact .inr ⟨first, List.mem_cons_self, member⟩
    | cons second rest =>
      rw [List.intercalate_cons_cons, List.append_assoc, List.mem_append, List.mem_append,
        List.mem_singleton] at member
      rcases member with here | same | later
      · exact .inr ⟨first, List.mem_cons_self, here⟩
      · exact .inl same
      · exact (ih later).imp_right fun ⟨part, present, inside⟩ =>
          ⟨part, List.mem_cons_of_mem first present, inside⟩

private theorem visible_of_mem_dotted (member : c ∈ (dotted numbers).toList) :
    isBlank c = false := by
  rw [toList_dotted] at member
  rcases eq_or_mem_of_mem_intercalate member with rfl | ⟨part, present, inside⟩
  · decide
  · obtain ⟨n, -, rfl⟩ := List.mem_map.mp present
    exact visible_of_mem_toDigits inside

/-- The numbers that are written are read. -/
theorem Writes.parts (writes : Writes numbers text) (filled : numbers ≠ [])
    (small : ∀ n ∈ numbers, n < UInt64.size) : parts text.toList = numbers := by
  obtain ⟨first, last⟩ := writes
  have words : fields '.' (dotted numbers).toList = numbers.map (Nat.toDigits 10) := by
    rw [fields_eq_splitOn, toList_dotted, List.splitOn_intercalate]
    · intro part present
      obtain ⟨n, -, rfl⟩ := List.mem_map.mp present
      exact point_not_mem_toDigits
    · rwa [ne_eq, List.map_eq_nil_iff]
  have read : ∀ n ∈ numbers, (readWord? (trim (Nat.toDigits 10 n))).getD 0 = n := by
    intro n present
    rw [trim_of_visible fun c => visible_of_mem_toDigits, readWord?,
      readNatBelow?_toDigits (small n present), Option.getD_some]
  rw [Version.parts, String.toList_append, String.toList_append, trim_surrounded first last,
    trim_of_visible fun c => visible_of_mem_dotted, words, List.map_map]
  exact (List.map_congr_left read).trans (List.map_id numbers)

end Reading

section Order

variable {a b : List Nat} {length : Nat}

/-- One place is compared after the other; behind its end a list has zeros. -/
theorem compareParts_eq_then (a b : List Nat) : compareParts a b =
    (compare (a.headD 0) (b.headD 0)).then (compareParts a.tail b.tail) := by
  have left (x : Nat) (xs : List Nat) :
      compareParts (x :: xs) [] = (compare x 0).then (compareParts xs []) := by
    simp only [compareParts, List.all_cons]
    cases x with
    | zero => simp
    | succ x => simp [Nat.compare_eq_gt.mpr]
  cases a with
  | nil =>
    cases b with
    | nil => rfl
    | cons y ys =>
      rw [← compareParts_swap, left, Ordering.swap_then, Nat.compare_swap, compareParts_swap]
      rfl
  | cons x xs =>
    cases b with
    | nil => exact left x xs
    | cons y ys => rfl

private theorem rightpad_succ (a : List Nat) (length : Nat) :
    a.rightpad (length + 1) 0 = a.headD 0 :: a.tail.rightpad length 0 := by
  cases a with
  | nil => simp [List.rightpad, List.replicate_succ]
  | cons x xs => simp [List.rightpad]

/-- Filled up to any length that takes both, the lists compare in lexicographic order. -/
theorem compareParts_eq_compare (left : a.length ≤ length) (right : b.length ≤ length) :
    compareParts a b = compare (a.rightpad length 0) (b.rightpad length 0) := by
  induction length generalizing a b with
  | zero =>
    obtain rfl := List.eq_nil_of_length_eq_zero (Nat.le_zero.mp left)
    obtain rfl := List.eq_nil_of_length_eq_zero (Nat.le_zero.mp right)
    rfl
  | succ length ih =>
    have shorter : a.tail.length ≤ length := by
      rw [List.length_tail]
      omega
    have shorter' : b.tail.length ≤ length := by
      rw [List.length_tail]
      omega
    rw [compareParts_eq_then, ih shorter shorter', rightpad_succ, rightpad_succ,
      List.compare_cons_cons]

instance : Std.TransCmp compareParts where
  eq_swap := (compareParts_swap _ _).symm
  isLE_trans {a b c} := by
    -- a length that takes all three, so that the order of the lists carries over
    let length := max a.length (max b.length c.length)
    have first : a.length ≤ length := by omega
    have second : b.length ≤ length := by omega
    have third : c.length ≤ length := by omega
    rw [compareParts_eq_compare first second, compareParts_eq_compare second third,
      compareParts_eq_compare first third]
    exact Std.TransCmp.isLE_trans

instance : Std.TransCmp compareTexts where
  eq_swap := (compareParts_swap _ _).symm
  isLE_trans {x y z} :=
    @Std.TransCmp.isLE_trans _ compareParts _ (parts x.toList) (parts y.toList) (parts z.toList)

end Order

/-- Versions in writing compare as their numbers do in lexicographic order, filled up with zeros to
one length; and on all texts the comparison is reflexive, turns around with its arguments and is
transitive. -/
theorem compareTexts_totalPreorder :
    (∀ (a b : List Nat) (x y : String), a ≠ [] → b ≠ [] → (∀ n ∈ a, n < UInt64.size) →
      (∀ n ∈ b, n < UInt64.size) → Writes a x → Writes b y →
      ∀ length, a.length ≤ length → b.length ≤ length →
        compareTexts x y = compare (a.rightpad length 0) (b.rightpad length 0)) ∧
    (∀ x, compareTexts x x = .eq) ∧
    (∀ x y, compareTexts y x = (compareTexts x y).swap) ∧
    ∀ x y z, (compareTexts x y).isLE → (compareTexts y z).isLE → (compareTexts x z).isLE := by
  refine ⟨?_, ?_, ?_, ?_⟩
  · intro a b x y filledA filledB smallA smallB writesA writesB length longA longB
    rw [compareTexts, writesA.parts filledA smallA, writesB.parts filledB smallB]
    exact compareParts_eq_compare longA longB
  · exact fun x => Std.ReflCmp.compare_self
  · exact fun x y => Std.OrientedCmp.eq_swap
  · exact fun x y z => Std.TransCmp.isLE_trans

/-- Versions with blanks, with more parts, and with a part that is no number. -/
theorem compareTexts_totalPreorder_spaced :
    Writes [1, 10] " 1.10\n" ∧ Writes [1, 2, 0] "1.2.0" ∧ compareTexts " 1.10\n" "1.2.0" = .gt ∧
      compareTexts "1.two" "1.two" = .eq ∧ compareTexts "1.two" " 1.10\n" = .lt ∧
      (compareTexts "1.two" "1").isLE ∧ (compareTexts "1" "1.2.0").isLE ∧
      (compareTexts "1.two" "1.2.0").isLE := by
  have none : ∀ c ∈ "".toList, isBlank c = true := nofun
  have space : ∀ c ∈ " ".toList, isBlank c = true := List.forall_mem_singleton.mpr (by decide)
  have line : ∀ c ∈ "\n".toList, isBlank c = true := List.forall_mem_singleton.mpr (by decide)
  have spaced : Writes [1, 10] " 1.10\n" := @Writes.surrounded [1, 10] " " "\n" space line
  have plain : Writes [1, 2, 0] "1.2.0" := @Writes.surrounded [1, 2, 0] "" "" none none
  obtain ⟨numeric, reflexive, turns, transitive⟩ := compareTexts_totalPreorder
  have greater : compareTexts " 1.10\n" "1.2.0" = .gt :=
    numeric _ _ _ _ (by simp) (by simp) (by simp [UInt64.size]) (by simp [UInt64.size]) spaced plain
      3 (by simp) (by simp)
  have first : (compareTexts "1.two" "1").isLE := by decide
  have second : (compareTexts "1" "1.2.0").isLE := by decide
  have unread : compareTexts " 1.10\n" "1.two" = .gt := by decide
  have turned : compareTexts "1.two" " 1.10\n" = .lt :=
    (turns " 1.10\n" "1.two").trans (congrArg Ordering.swap unread)
  exact ⟨spaced, plain, greater, reflexive "1.two", turned, first, second,
    transitive _ _ _ first second⟩

end Version
end XdotViewer
