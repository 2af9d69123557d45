import Mathlib
import XdotViewer.Proofs.Geometry.Ordered

/-! # Doubles in order

Doubles that are numbers, the infinities among them, lie in one order. It goes by sign, then by
exponent and mantissa, and both zeros have the same place in it.
-/

namespace XdotViewer

namespace Double

open Float.Model
open Float.Model.UnpackedFloat

/-- The place of a number among the others: by its sign, its exponent and its mantissa. -/
def place? : UnpackedFloat → Option (ℤ ×ₗ ℤ ×ₗ ℤ)
  | .notANumber => none
  | .infinity .negative => some (toLex (-2, toLex (0, 0)))
  | .finite .negative mantissa exponent _ => some (toLex (-1, toLex (-exponent, -mantissa)))
  | .zero _ => some (toLex (0, toLex (0, 0)))
  | .finite .positive mantissa exponent _ => some (toLex (1, toLex (exponent, mantissa)))
  | .infinity .positive => some (toLex (2, toLex (0, 0)))

private theorem compare_eq_lt_iff {a b : UnpackedFloat} :
    a.compare b = some .lt ↔ ∃ p ∈ place? a, ∃ q ∈ place? b, p < q := by
  have signs (s t : Sign) : Ord.compare s t = .lt ↔ s.toBitVec = 1 ∧ t.toBitVec = 0 := by
    cases s <;> cases t <;> decide
  rcases a with (_ | _) | _ | _ | ⟨_ | _, m, e, _⟩ <;>
    rcases b with (_ | _) | _ | _ | ⟨_ | _, n, f, _⟩ <;>
    simp [UnpackedFloat.compare, place?, signs, Sign.toBitVec, Prod.Lex.toLex_lt_toLex,
      Ordering.then_eq_lt, Ordering.then_eq_gt, Nat.compare_eq_lt, Nat.compare_eq_gt,
      Int.compare_eq_lt, Int.compare_eq_gt]

private theorem compare_eq_eq_iff {a b : UnpackedFloat} :
    a.compare b = some .eq ↔ ∃ p, place? a = some p ∧ place? b = some p := by
  have signs (s t : Sign) : Ord.compare s t = .eq ↔ s.toBitVec = t.toBitVec := by
    cases s <;> cases t <;> decide
  have same : a.compare b = some .eq ↔ (place? a).isSome ∧ place? b = place? a := by
    rcases a with (_ | _) | _ | _ | ⟨_ | _, m, e, _⟩ <;>
      rcases b with (_ | _) | _ | _ | ⟨_ | _, n, f, _⟩ <;>
      simp [UnpackedFloat.compare, place?, signs, Sign.toBitVec, Ordering.then_eq_eq] <;>
      omega
  rw [same, Option.isSome_iff_exists]
  constructor
  · rintro ⟨⟨p, place⟩, equal⟩
    exact ⟨p, place, equal.trans place⟩
  · rintro ⟨p, place, other⟩
    exact ⟨⟨p, place⟩, other.trans place.symm⟩

private theorem le_iff {a b : UnpackedFloat} :
    a.le b = true ↔ ∃ p ∈ place? a, ∃ q ∈ place? b, p ≤ q := by
  have cases : a.le b = true ↔ a.compare b = some .lt ∨ a.compare b = some .eq := by
    unfold UnpackedFloat.le
    rcases a.compare b with _ | _ | _ | _ <;> decide
  rw [cases, compare_eq_lt_iff, compare_eq_eq_iff]
  constructor
  · rintro (⟨p, hp, q, hq, less⟩ | ⟨p, hp, hq⟩)
    · exact ⟨p, hp, q, hq, less.le⟩
    · exact ⟨p, hp, p, hq, le_rfl⟩
  · rintro ⟨p, hp, q, hq, most⟩
    rcases most.lt_or_eq with less | rfl
    · exact .inl ⟨p, hp, q, hq, less⟩
    · exact .inr ⟨p, hp, hq⟩

/-- Whatever the places of two doubles, these are their order. -/
theorem le_iff_place {a b : Float} :
    a ≤ b ↔ ∃ p ∈ place? a.toModel.unpack, ∃ q ∈ place? b.toModel.unpack, p ≤ q :=
  (decide_eq_true_iff (p := a.toModel ≤ b.toModel)).trans le_iff

/-- Doubles are ordered by their places, where they have one. -/
theorem lt_iff_place {a b : Float} :
    a < b ↔ ∃ p ∈ place? a.toModel.unpack, ∃ q ∈ place? b.toModel.unpack, p < q :=
  (decide_eq_true_iff (p := a.toModel < b.toModel)).trans (beq_iff_eq.trans compare_eq_lt_iff)

private theorem beq_iff_place {a b : Float} : (a == b) = true ↔
    ∃ p, place? a.toModel.unpack = some p ∧ place? b.toModel.unpack = some p := by
  rw [← compare_eq_eq_iff]
  exact beq_iff_eq (a := a.toModel.unpack.compare b.toModel.unpack)

/-- A number has a place. -/
theorem exists_place {a : Float} (number : Scalar.IsNumber a) :
    ∃ p, place? a.toModel.unpack = some p := by
  have self : (a == a) = true := by simpa [Scalar.IsNumber, Scalar.isNaN] using number
  obtain ⟨p, place, -⟩ := beq_iff_place.mp self
  exact ⟨p, place⟩

instance : Scalar.Ordered Float where
  le_refl number := by
    obtain ⟨p, place⟩ := exists_place number
    exact le_iff_place.mpr ⟨p, place, p, place, le_rfl⟩
  le_trans first second := by
    obtain ⟨p, hp, q, hq, below⟩ := le_iff_place.mp first
    obtain ⟨q', hq', r, hr, above⟩ := le_iff_place.mp second
    obtain rfl := Option.mem_unique hq hq'
    exact le_iff_place.mpr ⟨p, hp, r, hr, below.trans above⟩
  le_of_lt less := by
    obtain ⟨p, hp, q, hq, below⟩ := lt_iff_place.mp less
    exact le_iff_place.mpr ⟨p, hp, q, hq, below.le⟩
  lt_or_le first second := by
    obtain ⟨p, hp⟩ := exists_place first
    obtain ⟨q, hq⟩ := exists_place second
    rcases lt_or_ge p q with below | above
    · exact .inl (lt_iff_place.mpr ⟨p, hp, q, hq, below⟩)
    · exact .inr (le_iff_place.mpr ⟨q, hq, p, hp, above⟩)
  beq_of_le there back := by
    obtain ⟨p, hp, q, hq, below⟩ := le_iff_place.mp there
    obtain ⟨q', hq', p', hp', above⟩ := le_iff_place.mp back
    obtain rfl := Option.mem_unique hp hp'
    obtain rfl := Option.mem_unique hq hq'
    exact beq_iff_place.mpr ⟨p, hp, below.antisymm above ▸ hq⟩

end Double
end XdotViewer
