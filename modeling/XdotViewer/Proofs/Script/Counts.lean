import XdotViewer.Proofs.Script.Encoding

/-! # Counted points

Points are announced by their number, and a number above the bytes that remain is refused at once.
That spares a long reading and decides nothing: every coordinate takes at least one character, so
the reading would have failed anyway. It also keeps all counts within the words of a machine.
-/

namespace XdotViewer

namespace Cursor

variable {cursor after : Cursor} {word : List Char} {number : Float} {numbers : List Float}
  {count : Nat} {points : List (Point Float)}

/-- Takes a whole number that is not negative, of any size. -/
def takeAnyCount (cursor : Cursor) : Option Nat × Cursor :=
  let (word, cursor) := cursor.takeWord
  (word.bind count?, cursor)

/-- Takes a count of any size and as many points. -/
def takeAnyPoints (cursor : Cursor) : Option (Nat × List (Point Float)) × Cursor :=
  match cursor.takeAnyCount with
  | (none, cursor) => (none, cursor)
  | (some count, cursor) =>
    let (numbers, cursor) := cursor.takeNumbers (2 * count)
    (numbers.map fun numbers => (count, pairUp numbers), cursor)

/-- Takes a count as a machine does whose greatest word is `top`: a number above it is taken for it,
and only then compared with the bytes that remain. -/
def takeCastCount (top : Nat) (cursor : Cursor) : Option Nat × Cursor :=
  let (number, cursor) := cursor.takeNumber
  let count := number.bind fun number =>
    let value := Binary64.ofFloat number
    let cast := (value.toIntWithin 0 top).toNat
    if value.toWhole?.any (0 ≤ ·) ∧ cast ≤ byteCount cursor.rest then some cast else none
  (count, cursor)

section Lengths

/-- A number is a word that can be read as a finite one. -/
theorem takeNumber_eq_some : cursor.takeNumber = (some number, after) ↔
    ∃ word, cursor.takeWord = (some word, after) ∧ finite? word = some number := by
  rcases taken : cursor.takeWord with ⟨_ | word, left⟩
  · simp [takeNumber, taken]
  · rw [takeNumber_of_takeWord taken]
    simp [and_comm]

/-- Every number takes a character. -/
theorem length_takeNumbers (taken : cursor.takeNumbers count = (some numbers, after)) :
    numbers.length = count ∧ after.rest.length + count ≤ cursor.rest.length := by
  induction count generalizing cursor numbers with
  | zero =>
    cases taken
    exact ⟨rfl, Nat.le_refl _⟩
  | succ count ih =>
    obtain ⟨number, left, rest, first, later, rfl⟩ := takeNumbers_succ_eq_some.mp taken
    obtain ⟨word, front, -⟩ := takeNumber_eq_some.mp first
    have shorter := length_takeWord_lt front
    obtain ⟨length, fewer⟩ := ih later
    refine ⟨congrArg (· + 1) length, ?_⟩
    omega

private theorem length_pairUp (even : numbers.length = 2 * count) :
    (pairUp numbers).length = count := by
  induction count generalizing numbers with
  | zero =>
    obtain rfl := List.length_eq_zero_iff.mp even
    rfl
  | succ count ih =>
    match numbers with
    | x :: y :: rest =>
      have fewer : rest.length = 2 * count := by
        simp only [List.length_cons] at even
        omega
      rw [pairUp, List.length_cons, ih fewer]
    | [] | [_] =>
      simp only [List.length_cons, List.length_nil] at even
      omega

end Lengths

section Guard

private theorem takeAnyCount_eq_some : cursor.takeAnyCount = (some count, after) ↔
    ∃ number, cursor.takeNumber = (some number, after) ∧
      (Binary64.ofFloat number).toWhole? = some (.ofNat count) := by
  rcases taken : cursor.takeWord with ⟨_ | word, left⟩
  · simp [takeAnyCount, takeNumber, taken]
  · have counted : cursor.takeAnyCount = (count? word, left) := by rw [takeAnyCount, taken]; rfl
    rw [counted, takeNumber_of_takeWord taken, Prod.mk.injEq, count?_eq_some]
    constructor
    · rintro ⟨⟨number, read, whole⟩, rfl⟩
      exact ⟨number, Prod.ext read rfl, whole⟩
    · rintro ⟨number, read, whole⟩
      obtain ⟨same, rfl⟩ := Prod.mk.inj read
      exact ⟨⟨number, same, whole⟩, rfl⟩

private theorem takeCount_iff : cursor.takeCount = (some count, after) ↔
    cursor.takeAnyCount = (some count, after) ∧ count ≤ byteCount after.rest := by
  rw [takeCount_eq_some, takeAnyCount_eq_some]
  constructor
  · rintro ⟨number, taken, whole, bounded⟩
    exact ⟨⟨number, taken, whole⟩, bounded⟩
  · rintro ⟨⟨number, taken, whole⟩, bounded⟩
    exact ⟨number, taken, whole, bounded⟩

private theorem takeAnyPoints_eq_some : cursor.takeAnyPoints = (some (count, points), after) ↔
    ∃ left numbers, cursor.takeAnyCount = (some count, left) ∧
      left.takeNumbers (2 * count) = (some numbers, after) ∧ points = pairUp numbers := by
  constructor
  · intro taken
    rw [takeAnyPoints] at taken
    split at taken
    · cases taken
    · rename_i count left any
      rcases later : left.takeNumbers (2 * count) with ⟨_ | numbers, final⟩ <;>
        rw [later] at taken
      · cases taken
      · cases taken
        exact ⟨left, numbers, any, later, rfl⟩
  · rintro ⟨left, numbers, any, later, rfl⟩
    simp only [takeAnyPoints, any, later, Option.map_some]

private theorem takeAnyPoints_of_takePoints (taken : cursor.takePoints = (some points, after)) :
    ∃ count, cursor.takeCount.1 = some count ∧
      cursor.takeAnyPoints = (some (count, points), after) := by
  obtain ⟨count, left, numbers, counted, later, rfl⟩ := takePoints_eq_some.mp taken
  obtain ⟨any, -⟩ := takeCount_iff.mp counted
  exact ⟨count, congrArg Prod.fst counted,
    takeAnyPoints_eq_some.mpr ⟨left, numbers, any, later, rfl⟩⟩

/-- As many coordinates as are announced are only there if there is a byte for each. -/
theorem takePoints_of_takeAnyPoints (taken : cursor.takeAnyPoints = (some (count, points), after)) :
    cursor.takeCount.1 = some count ∧ cursor.takePoints = (some points, after) ∧
      points.length = count := by
  obtain ⟨left, numbers, any, later, rfl⟩ := takeAnyPoints_eq_some.mp taken
  obtain ⟨length, fewer⟩ := length_takeNumbers later
  have bytes := length_le_byteCount left.rest
  have counted : cursor.takeCount = (some count, left) := takeCount_iff.mpr ⟨any, by omega⟩
  exact ⟨congrArg Prod.fst counted,
    takePoints_eq_some.mpr ⟨count, left, numbers, counted, later, rfl⟩, length_pairUp length⟩

/-- A reading of counted points fails with the guard if it fails without it. -/
theorem takePoints_eq_none_iff : cursor.takePoints.1 = none ↔ cursor.takeAnyPoints.1 = none := by
  rw [← not_iff_not, ← ne_eq, ← ne_eq, Option.ne_none_iff_exists', Option.ne_none_iff_exists']
  constructor
  · rintro ⟨points, taken⟩
    obtain ⟨count, -, any⟩ := takeAnyPoints_of_takePoints (Prod.ext taken rfl)
    exact ⟨(count, points), congrArg Prod.fst any⟩
  · rintro ⟨⟨count, points⟩, any⟩
    obtain ⟨-, taken, -⟩ := takePoints_of_takeAnyPoints (Prod.ext any rfl)
    exact ⟨points, congrArg Prod.fst taken⟩

end Guard

section Words

variable {top : Nat}

/-- The end of a text has no more bytes than the text. -/
theorem byteCount_le_of_suffix {text whole : List Char} (suffix : text <:+ whole) :
    byteCount text ≤ byteCount whole := by
  obtain ⟨front, rfl⟩ := suffix
  rw [byteCount_append]
  exact Nat.le_add_left _ _

private theorem byteCount_le_of_takeNumber {read : Option Float}
    (taken : cursor.takeNumber = (read, after)) : byteCount after.rest ≤ byteCount cursor.rest := by
  have onward := onward_takeNumber cursor
  rw [taken] at onward
  exact byteCount_le_of_suffix onward.suffix

/-- The cast of a whole number. -/
theorem toIntWithin_of_toWhole? {value : Binary64} {whole low high : Int}
    (read : value.toWhole? = some whole) :
    value.toIntWithin low high = max low (min high whole) := by
  cases value with
  | nan => cases read
  | infinite negative => cases read
  | finite negative mantissa exponent =>
    rw [Binary64.toWhole?] at read
    split at read
    · obtain rfl := Option.some.inj read
      rfl
    · cases read

/-- A machine takes the counts that there are, as long as its words reach beyond the bytes. -/
theorem takeCastCount_eq (reach : byteCount cursor.rest < top) :
    cursor.takeCastCount top = cursor.takeCount := by
  rw [takeCastCount, takeCount]
  rcases taken : cursor.takeNumber with ⟨_ | number, left⟩
  · rfl
  · have shorter := byteCount_le_of_takeNumber taken
    simp only [Option.bind_some]
    cases whole : (Binary64.ofFloat number).toWhole? with
    | none => rfl
    | some n =>
      rw [toIntWithin_of_toWhole? whole]
      cases n with
      | negSucc n => rfl
      | ofNat n =>
        have cast : (max 0 (min (top : Int) (.ofNat n))).toNat = min top n := by
          simp only [Int.ofNat_eq_natCast]
          omega
        rw [cast]
        -- A number above the greatest word is above the bytes, and so is that word.
        by_cases bounded : n ≤ byteCount left.rest
        · have same : min top n = n := by omega
          simp [same, bounded]
        · have beyond : ¬ min top n ≤ byteCount left.rest := by omega
          simp only [beyond, bounded, and_false, if_false]

/-- A count that is taken can be doubled. -/
theorem two_mul_lt_of_takeCount (reach : 2 * byteCount cursor.rest < top)
    (taken : cursor.takeCount.1 = some count) : 2 * count < top := by
  rcases counted : cursor.takeCount with ⟨found, left⟩
  obtain rfl : found = some count := (congrArg Prod.fst counted).symm.trans taken
  obtain ⟨number, front, -, bounded⟩ := takeCount_eq_some.mp counted
  have shorter := byteCount_le_of_takeNumber front
  omega

end Words

end Cursor

/-- The operations on counted points, each with the instruction that it makes of them. -/
def OpCode.ofPoints? : OpCode → Option (List (Point Float) → Instruction)
  | .polygon filled => some (.polygon filled)
  | .polyline => some .polyline
  | .spline filled => some (.spline filled)
  | _ => none

namespace Instruction

variable {op : OpCode} {make : List (Point Float) → Instruction}

private theorem read_of_ofPoints? (counted : op.ofPoints? = some make) (cursor : Cursor) :
    read op cursor = complete op cursor.takePoints make := by
  cases op with
  | polygon | polyline | spline =>
    cases counted
    rfl
  | _ => cases counted

private theorem injective_of_ofPoints? (counted : op.ofPoints? = some make) : make.Injective := by
  intro first second same
  cases op with
  | polygon | polyline | spline =>
    cases counted
    injection same
  | _ => cases counted

/-- An operation on counted points is read exactly if it is read without a bound on the count, with
the same count and the same points; otherwise an operand is missing, as it is without the bound. On
a machine whose words reach to twice the length of the text, its casts and its doubled counts are
exact. -/
theorem read_eq_unguarded (counted : op.ofPoints? = some make) (cursor : Cursor) :
    (∀ count points rest, cursor.takeAnyPoints = (some (count, points), rest) ↔
      cursor.takeCount.1 = some count ∧ points.length = count ∧
        read op cursor = (.ok (make points), rest)) ∧
    ((read op cursor).1 = .error (.missingOperand op) ↔ cursor.takeAnyPoints.1 = none) ∧
    ∀ top, 2 * Cursor.byteCount cursor.rest < top →
      cursor.takeCastCount top = cursor.takeCount ∧
        ∀ count, cursor.takeCount.1 = some count → 2 * count < top := by
  rw [read_of_ofPoints? counted]
  refine ⟨fun count points rest => ⟨fun any => ?_, ?_⟩, ?_, fun top reach => ⟨?_, ?_⟩⟩
  · obtain ⟨announced, taken, length⟩ := Cursor.takePoints_of_takeAnyPoints any
    exact ⟨announced, length, complete_eq_ok.mpr ⟨points, taken, rfl⟩⟩
  · rintro ⟨announced, -, done⟩
    obtain ⟨others, taken, same⟩ := complete_eq_ok.mp done
    obtain rfl := injective_of_ofPoints? counted same
    obtain ⟨n, found, any⟩ := Cursor.takeAnyPoints_of_takePoints taken
    obtain rfl := Option.some.inj (found.symm.trans announced)
    exact any
  · rw [← Cursor.takePoints_eq_none_iff, complete]
    split <;> simp_all
  · exact Cursor.takeCastCount_eq (by omega)
  · exact fun count => Cursor.two_mul_lt_of_takeCount reach

/-- A count that can be met, and one that is far too great. -/
theorem read_eq_unguarded_huge :
    let fitting : Cursor := .ofText "2 1 2 3 4 c".toList
    let huge : Cursor := .ofText "1e300 1 2 3 4".toList
    OpCode.polyline.ofPoints? = some polyline ∧
      (∃ points rest, points.length = 2 ∧ read .polyline fitting = (.ok (polyline points), rest)) ∧
      fitting.takeCastCount (UInt64.size - 1) = fitting.takeCount ∧
      (read .polyline huge).1 = .error (.missingOperand .polyline) := by
  intro fitting huge
  obtain ⟨accepts, -, words⟩ := @read_eq_unguarded .polyline _ rfl fitting
  obtain ⟨-, refuses, -⟩ := @read_eq_unguarded .polyline _ rfl huge
  have counted : fitting.takeAnyPoints.1.map Prod.fst = some 2 := by decide +kernel
  obtain ⟨⟨count, points⟩, taken, rfl⟩ := Option.map_eq_some_iff.mp counted
  obtain ⟨-, length, done⟩ := (accepts _ _ _).mp (Prod.ext taken rfl)
  have missing : huge.takeAnyPoints.1 = none := Option.isNone_iff_eq_none.mp (by decide +kernel)
  exact ⟨rfl, ⟨points, _, length, done⟩, (words _ (by decide +kernel)).1, refuses.mpr missing⟩

end Instruction
end XdotViewer
