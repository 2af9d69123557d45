import Mathlib.Algebra.Order.Floor.Semiring
import Mathlib.Algebra.Order.Archimedean.Real.Basic
import Mathlib.Data.List.Intervals
import Mathlib.Tactic
import XdotViewer.Proofs.Geometry.Reals

/-! # Evenly spaced places on a way

Places lie on a way at a first distance and then at every further step. What a way leaves over
before the next place is the first distance on the way that follows it, so the places on two ways
in a row are those on the whole.
-/

namespace XdotViewer

/-- How many of the places `first`, `first + step`, … are on a way of this length. -/
noncomputable def tickCount (step first length : ℝ) : ℕ :=
  ⌊(length - first) / step + 1⌋₊

/-- The places on a way, by their distances from its beginning. -/
noncomputable def ticks (step first length : ℝ) : List ℝ :=
  (List.range (tickCount step first length)).map fun i : ℕ => first + i * step

/-- The distance from the end of a way to the next place. -/
noncomputable def leftover (step first length : ℝ) : ℝ :=
  first + tickCount step first length * step - length

section Ticks

variable {step first length more : ℝ}

private theorem tickCount_of_lt (positive : 0 < step) (short : length < first) :
    tickCount step first length = 0 := by
  have negative : (length - first) / step < 0 := div_neg_of_neg_of_pos (by linarith) positive
  rw [tickCount, Nat.floor_eq_zero]
  linarith

/-- Before the first tick there are none. -/
theorem ticks_of_lt (positive : 0 < step) (short : length < first) :
    ticks step first length = [] := by
  rw [ticks, tickCount_of_lt positive short]
  rfl

/-- Before the first tick the whole length has been used up on the way to it. -/
theorem leftover_of_lt (positive : 0 < step) (short : length < first) :
    leftover step first length = first - length := by
  rw [leftover, tickCount_of_lt positive short]
  simp

/-- Behind the first place the others are a step apart. -/
theorem tickCount_of_le (positive : 0 < step) (enough : first ≤ length) :
    tickCount step first length = tickCount step step (length - first) + 1 := by
  have nonneg : 0 ≤ (length - first) / step := div_nonneg (by linarith) positive.le
  have shift : (length - first - step) / step + 1 = (length - first) / step := by
    field_simp
    ring
  rw [tickCount, tickCount, shift, Nat.floor_add_one nonneg]

/-- One place at the first distance, and one for each whole step behind it. -/
theorem tickCount_eq (positive : 0 < step) : tickCount step first length =
    if length < first then 0 else ⌊(length - first) / step⌋₊ + 1 := by
  split
  case isTrue short => exact tickCount_of_lt positive short
  case isFalse enough =>
    exact Nat.floor_add_one (div_nonneg (sub_nonneg.mpr (not_lt.mp enough)) positive.le)

/-- After the first tick, the others follow at whole steps. -/
theorem ticks_of_le (positive : 0 < step) (enough : first ≤ length) :
    ticks step first length =
      first :: (ticks step step (length - first)).map fun place => first + place := by
  rw [ticks, tickCount_of_le positive enough, List.range_succ_eq_map, List.map_cons, List.map_map,
    ticks, List.map_map]
  congr 1
  · simp
  · refine List.map_congr_left fun i _ => ?_
    simp only [Function.comp_apply, Nat.cast_succ]
    ring

/-- After the first tick, what is left is counted from it. -/
theorem leftover_of_le (positive : 0 < step) (enough : first ≤ length) :
    leftover step first length = leftover step step (length - first) := by
  rw [leftover, leftover, tickCount_of_le positive enough]
  push_cast
  ring

/-- The next tick always lies ahead. -/
theorem leftover_pos (positive : 0 < step) : 0 < leftover step first length := by
  have beyond := Nat.lt_floor_add_one ((length - first) / step + 1)
  have scaled : (length - first) / step < tickCount step first length := by
    rw [tickCount]
    linarith
  rw [div_lt_iff₀ positive] at scaled
  rw [leftover]
  linarith

/-- Ticks lie between the first one and the end. -/
theorem mem_ticks {place : ℝ} (positive : 0 < step) (member : place ∈ ticks step first length) :
    first ≤ place ∧ place ≤ length := by
  obtain ⟨i, inside, rfl⟩ := List.mem_map.mp member
  rw [List.mem_range, tickCount, Nat.lt_iff_add_one_le, Nat.le_floor_iff' (Nat.succ_ne_zero i)]
    at inside
  push_cast at inside
  have scaled : (i : ℝ) ≤ (length - first) / step := by linarith
  rw [le_div_iff₀ positive] at scaled
  have nonneg : 0 ≤ (i : ℝ) * step := mul_nonneg i.cast_nonneg positive.le
  constructor <;> linarith

/-- Ticks follow each other. -/
theorem pairwise_ticks (positive : 0 < step) :
    (ticks step first length).Pairwise (· < ·) := by
  refine List.pairwise_map.mpr (List.pairwise_lt_range.imp fun less => ?_)
  gcongr

private theorem tickCount_add (positive : 0 < step) (nonneg : 0 ≤ more) :
    tickCount step first (length + more) =
      tickCount step first length + tickCount step (leftover step first length) more := by
  have shift : (more - leftover step first length) / step + 1 =
      (length + more - first) / step + 1 - tickCount step first length := by
    rw [leftover]
    field_simp
    ring
  have fewer : tickCount step first length ≤ tickCount step first (length + more) := by
    refine Nat.floor_mono (add_le_add_left ?_ 1)
    exact div_le_div_of_nonneg_right (by linarith) positive.le
  have rest : tickCount step (leftover step first length) more =
      tickCount step first (length + more) - tickCount step first length := by
    rw [tickCount, shift, Nat.floor_sub_natCast]
    rfl
  omega

/-- The places on two ways in a row are those on the whole. -/
theorem ticks_add (positive : 0 < step) (nonneg : 0 ≤ more) :
    ticks step first (length + more) = ticks step first length ++
      (ticks step (leftover step first length) more).map fun place => length + place := by
  rw [ticks, tickCount_add positive nonneg, List.range_add, List.map_append, List.map_map, ticks,
    ticks, List.map_map]
  congr 1
  refine List.map_congr_left fun i _ => ?_
  simp only [Function.comp_apply, leftover]
  push_cast
  ring

/-- The leftover of a length is where the ticks of the next one begin. -/
theorem leftover_add (positive : 0 < step) (nonneg : 0 ≤ more) :
    leftover step first (length + more) = leftover step (leftover step first length) more := by
  rw [leftover, tickCount_add positive nonneg, leftover.eq_1 step (leftover step first length)]
  simp only [leftover]
  push_cast
  ring

/-- From the beginning, the places are the multiples of the step. -/
theorem tickCount_self (step length : ℝ) (positive : 0 < step) :
    tickCount step step length = ⌊length / step⌋₊ := by
  have shift : (length - step) / step + 1 = length / step := by
    field_simp
    ring
  rw [tickCount, shift]

private theorem leftover_self (step length : ℝ) (positive : 0 < step) :
    leftover step step length = (⌊length / step⌋₊ + 1) * step - length := by
  rw [leftover, tickCount_self step length positive]
  ring

/-- Behind a position the multiples of the step go on. -/
theorem map_ticks_leftover {position : ℝ} (positive : 0 < step) (nonneg : 0 ≤ more) :
    (ticks step (leftover step step position) more).map (fun place => position + place) =
      (List.Ico (⌊position / step⌋₊ + 1) (⌊(position + more) / step⌋₊ + 1)).map
        fun i : ℕ => i * step := by
  have count : tickCount step (leftover step step position) more =
      ⌊(position + more) / step⌋₊ + 1 - (⌊position / step⌋₊ + 1) := by
    have whole : tickCount step step (position + more) = tickCount step step position +
        tickCount step (leftover step step position) more := tickCount_add positive nonneg
    rw [tickCount_self _ _ positive, tickCount_self _ _ positive] at whole
    omega
  rw [ticks, count, List.map_map, List.Ico, List.range'_eq_map_range, List.map_map]
  refine List.map_congr_left fun i _ => ?_
  simp only [Function.comp_apply, leftover_self step position positive]
  push_cast
  ring

end Ticks

section Floor

variable {step position : ℝ}

theorem floor_mul_le (positive : 0 < step) (nonneg : 0 ≤ position) :
    ⌊position / step⌋₊ * step ≤ position :=
  (le_div_iff₀ positive).mp (Nat.floor_le (div_nonneg nonneg positive.le))

theorem lt_floor_add_one_mul (positive : 0 < step) :
    position < (⌊position / step⌋₊ + 1) * step :=
  (div_lt_iff₀ positive).mp (Nat.lt_floor_add_one _)

end Floor

/-- A whole number of steps. -/
def IsMultiple (step position : ℝ) : Prop :=
  ∃ k : ℕ, position = k * step

/-- The multiples of a step between two positions, both included. -/
noncomputable def multiples (step low high : ℝ) : List ℝ :=
  (List.Ico ⌈low / step⌉₊ (⌊high / step⌋₊ + 1)).map fun i : ℕ => i * step

section Multiples

variable {step low high : ℝ}

theorem IsMultiple.zero : IsMultiple step 0 :=
  ⟨0, by simp⟩

private theorem ceil_of_isMultiple (positive : 0 < step) (whole : IsMultiple step low) :
    ⌈low / step⌉₊ = ⌊low / step⌋₊ := by
  obtain ⟨k, rfl⟩ := whole
  rw [mul_div_cancel_right₀ _ positive.ne', Nat.ceil_natCast, Nat.floor_natCast]

private theorem ceil_of_not_isMultiple (positive : 0 < step) (nonneg : 0 ≤ low)
    (broken : ¬ IsMultiple step low) : ⌈low / step⌉₊ = ⌊low / step⌋₊ + 1 := by
  refine le_antisymm (Nat.ceil_le_floor_add_one _) (Nat.lt_ceil.mpr ?_)
  refine lt_of_le_of_ne (Nat.floor_le (div_nonneg nonneg positive.le)) fun equal => broken ?_
  exact ⟨⌊low / step⌋₊, by rw [equal, div_mul_cancel₀ _ positive.ne']⟩

/-- The next place after a multiple of the step is a whole step ahead. -/
theorem leftover_self_eq_iff (positive : 0 < step) :
    leftover step step low = step ↔ IsMultiple step low := by
  rw [leftover_self step low positive]
  constructor
  · intro whole
    exact ⟨⌊low / step⌋₊, by linarith⟩
  · rintro ⟨k, rfl⟩
    rw [mul_div_cancel_right₀ _ positive.ne', Nat.floor_natCast]
    ring

/-- Where an interval does not begin at a multiple, its multiples lie behind its beginning. -/
theorem multiples_of_not_isMultiple (positive : 0 < step) (nonneg : 0 ≤ low)
    (broken : ¬ IsMultiple step low) : multiples step low high =
      (List.Ico (⌊low / step⌋₊ + 1) (⌊high / step⌋₊ + 1)).map fun i : ℕ => i * step := by
  rw [multiples, ceil_of_not_isMultiple positive nonneg broken]

/-- Where an interval begins at a multiple, that is the first one. -/
theorem multiples_of_isMultiple (positive : 0 < step) (ordered : low ≤ high)
    (whole : IsMultiple step low) : multiples step low high = low ::
      (List.Ico (⌊low / step⌋₊ + 1) (⌊high / step⌋₊ + 1)).map fun i : ℕ => i * step := by
  have fewer : ⌊low / step⌋₊ ≤ ⌊high / step⌋₊ :=
    Nat.floor_mono (div_le_div_of_nonneg_right ordered positive.le)
  rw [multiples, ceil_of_isMultiple positive whole, List.Ico.eq_cons (Nat.lt_succ_of_le fewer),
    List.map_cons]
  obtain ⟨k, rfl⟩ := whole
  rw [mul_div_cancel_right₀ _ positive.ne', Nat.floor_natCast]

end Multiples
end XdotViewer
