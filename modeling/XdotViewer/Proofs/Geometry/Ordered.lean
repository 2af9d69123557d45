import XdotViewer.Geometry.Bezier

/-! # Numbers in order

The numbers among the scalars of a type may lie in one order, whatever its operations round. Then
the lesser and the greater of two numbers are what they are called, and the rectangle around some
rectangles lies within another exactly when each of them does.
-/

namespace XdotViewer

/-- The scalar stands for a number. -/
def Scalar.IsNumber {α : Type} [Scalar α] (a : α) : Prop :=
  Scalar.isNaN a = false

instance {α : Type} [Scalar α] (a : α) : Decidable (Scalar.IsNumber a) :=
  inferInstanceAs (Decidable (Scalar.isNaN a = false))

/-- The numbers lie in one order. What is no number has no place in it. -/
class Scalar.Ordered (α : Type) [Scalar α] : Prop where
  le_refl {a : α} : Scalar.IsNumber a → a ≤ a
  le_trans {a b c : α} : a ≤ b → b ≤ c → a ≤ c
  le_of_lt {a b : α} : a < b → a ≤ b
  lt_or_le {a b : α} : Scalar.IsNumber a → Scalar.IsNumber b → a < b ∨ b ≤ a
  beq_of_le {a b : α} : a ≤ b → b ≤ a → (a == b) = true

variable {α : Type} [Scalar α]

namespace Scalar

variable {a b c : α}

private theorem IsNumber.min (first : IsNumber a) (second : IsNumber b) :
    IsNumber (Scalar.min a b) := by
  unfold Scalar.min
  split
  · exact first
  · split
    · exact first
    · exact second

private theorem IsNumber.max (first : IsNumber a) (second : IsNumber b) :
    IsNumber (Scalar.max a b) := by
  unfold Scalar.max
  split
  · exact first
  · split
    · exact first
    · exact second

variable [Ordered α]

private theorem le_min_iff (first : IsNumber a) (second : IsNumber b) :
    c ≤ Scalar.min a b ↔ c ≤ a ∧ c ≤ b := by
  rw [Scalar.min, if_neg (Bool.eq_false_iff.mp second)]
  split
  · rename_i less
    exact ⟨fun under => ⟨under, Ordered.le_trans under (Ordered.le_of_lt less)⟩, And.left⟩
  · rename_i more
    have greater : b ≤ a := (Ordered.lt_or_le first second).resolve_left more
    exact ⟨fun under => ⟨Ordered.le_trans under greater, under⟩, And.right⟩

private theorem max_le_iff (first : IsNumber a) (second : IsNumber b) :
    Scalar.max a b ≤ c ↔ a ≤ c ∧ b ≤ c := by
  rw [Scalar.max, if_neg (Bool.eq_false_iff.mp second)]
  split
  · rename_i less
    exact ⟨fun under => ⟨under, Ordered.le_trans (Ordered.le_of_lt less) under⟩, And.left⟩
  · rename_i more
    have greater : a ≤ b := (Ordered.lt_or_le second first).resolve_left more
    exact ⟨fun under => ⟨Ordered.le_trans greater under, under⟩, And.right⟩

end Scalar

/-- Both coordinates are numbers, as they are of every point that is not out of range. -/
structure Point.IsNumber (p : Point α) : Prop where
  x : Scalar.IsNumber p.x
  y : Scalar.IsNumber p.y

instance (p : Point α) : Decidable p.IsNumber :=
  decidable_of_iff (Scalar.IsNumber p.x ∧ Scalar.IsNumber p.y)
    ⟨fun both => ⟨both.1, both.2⟩, fun number => ⟨number.x, number.y⟩⟩

namespace Rect

/-- All edges are numbers. -/
structure IsNumber (r : Rect α) : Prop where
  left : Scalar.IsNumber r.left
  top : Scalar.IsNumber r.top
  right : Scalar.IsNumber r.right
  bottom : Scalar.IsNumber r.bottom

instance (r : Rect α) : Decidable r.IsNumber :=
  decidable_of_iff ((Scalar.IsNumber r.left ∧ Scalar.IsNumber r.top) ∧
      Scalar.IsNumber r.right ∧ Scalar.IsNumber r.bottom)
    ⟨fun all => ⟨all.1.1, all.1.2, all.2.1, all.2.2⟩,
      fun number => ⟨⟨number.left, number.top⟩, number.right, number.bottom⟩⟩

/-- No edge of the inner rectangle lies beyond the same edge of the outer one. -/
structure Within (inner outer : Rect α) : Prop where
  left : outer.left ≤ inner.left
  top : outer.top ≤ inner.top
  right : inner.right ≤ outer.right
  bottom : inner.bottom ≤ outer.bottom

/-- The point lies in the rectangle, edges included. -/
def Covers (r : Rect α) (p : Point α) : Prop :=
  (atPoint p).Within r

/-- A rectangle around a seed and some points, within every other one. -/
structure LeastAround (seed : Rect α) (points : List (Point α)) (box : Rect α) : Prop where
  seeded : seed.Within box
  covers : ∀ p ∈ points, box.Covers p
  least : ∀ outer, seed.Within outer → (∀ p ∈ points, outer.Covers p) → box.Within outer

variable {r s outer : Rect α} {p q : Point α}

private theorem isNumber_atPoint (number : p.IsNumber) : (atPoint p).IsNumber :=
  ⟨number.x, number.y, number.x, number.y⟩

private theorem IsNumber.expand (first : r.IsNumber) (second : s.IsNumber) :
    (r.expand s).IsNumber :=
  ⟨first.left.min second.left, first.top.min second.top, first.right.max second.right,
    first.bottom.max second.bottom⟩

private theorem IsNumber.foldl_expand {rects : List (Rect α)} (first : r.IsNumber)
    (others : ∀ s ∈ rects, s.IsNumber) : (rects.foldl Rect.expand r).IsNumber := by
  induction rects generalizing r with
  | nil => exact first
  | cons s rest ih =>
    obtain ⟨here, later⟩ := List.forall_mem_cons.mp others
    exact ih (first.expand here) later

private theorem around_cons (p : Point α) (rest : List (Point α)) :
    around (p :: rest) = some ((rest.map atPoint).foldl expand (atPoint p)) :=
  congrArg some List.foldl_map.symm

private theorem isNumber_around {points : List (Point α)} {box : Rect α}
    (made : around points = some box)
    (numbers : ∀ p ∈ points, p.IsNumber) : box.IsNumber := by
  cases points with
  | nil => cases made
  | cons p rest =>
    obtain ⟨here, later⟩ := List.forall_mem_cons.mp numbers
    obtain rfl := Option.some.inj ((around_cons p rest).symm.trans made)
    exact (isNumber_atPoint here).foldl_expand
      (List.forall_mem_map.mpr fun q member => isNumber_atPoint (later q member))

variable [Scalar.Ordered α]

private theorem IsNumber.within_self (number : r.IsNumber) : r.Within r :=
  ⟨Scalar.Ordered.le_refl number.left, Scalar.Ordered.le_refl number.top,
    Scalar.Ordered.le_refl number.right, Scalar.Ordered.le_refl number.bottom⟩

theorem Within.trans (first : r.Within s) (second : s.Within outer) : r.Within outer where
  left := Scalar.Ordered.le_trans second.left first.left
  top := Scalar.Ordered.le_trans second.top first.top
  right := Scalar.Ordered.le_trans first.right second.right
  bottom := Scalar.Ordered.le_trans first.bottom second.bottom

/-- Rectangles within each other have the same edges, the sign of a zero aside. -/
theorem Within.beq (there : r.Within s) (back : s.Within r) : (r == s) = true := by
  have left := Scalar.Ordered.beq_of_le back.left there.left
  have top := Scalar.Ordered.beq_of_le back.top there.top
  have right := Scalar.Ordered.beq_of_le there.right back.right
  have bottom := Scalar.Ordered.beq_of_le there.bottom back.bottom
  change (r.left == s.left && (r.top == s.top && (r.right == s.right && r.bottom == s.bottom))) =
    true
  rw [left, top, right, bottom]
  rfl

private theorem expand_within_iff (first : r.IsNumber) (second : s.IsNumber) :
    (r.expand s).Within outer ↔ r.Within outer ∧ s.Within outer := by
  constructor
  · rintro ⟨left, top, right, bottom⟩
    simp only [expand] at left top right bottom
    rw [Scalar.le_min_iff first.left second.left] at left
    rw [Scalar.le_min_iff first.top second.top] at top
    rw [Scalar.max_le_iff first.right second.right] at right
    rw [Scalar.max_le_iff first.bottom second.bottom] at bottom
    exact ⟨⟨left.1, top.1, right.1, bottom.1⟩, ⟨left.2, top.2, right.2, bottom.2⟩⟩
  · rintro ⟨here, there⟩
    constructor
    · exact (Scalar.le_min_iff first.left second.left).mpr ⟨here.left, there.left⟩
    · exact (Scalar.le_min_iff first.top second.top).mpr ⟨here.top, there.top⟩
    · exact (Scalar.max_le_iff first.right second.right).mpr ⟨here.right, there.right⟩
    · exact (Scalar.max_le_iff first.bottom second.bottom).mpr ⟨here.bottom, there.bottom⟩

private theorem foldl_expand_within_iff {rects : List (Rect α)} (first : r.IsNumber)
    (others : ∀ s ∈ rects, s.IsNumber) :
    (rects.foldl expand r).Within outer ↔ r.Within outer ∧ ∀ s ∈ rects, s.Within outer := by
  induction rects generalizing r with
  | nil => simp
  | cons s rest ih =>
    obtain ⟨here, later⟩ := List.forall_mem_cons.mp others
    rw [List.foldl_cons, ih (first.expand here) later, expand_within_iff first here,
      List.forall_mem_cons, and_assoc]

/-- The box around some points lies where all of them do. -/
theorem around_within_iff {points : List (Point α)} {box : Rect α}
    (made : around points = some box) (numbers : ∀ p ∈ points, p.IsNumber) :
    box.Within outer ↔ ∀ p ∈ points, outer.Covers p := by
  cases points with
  | nil => cases made
  | cons p rest =>
    obtain ⟨here, later⟩ := List.forall_mem_cons.mp numbers
    obtain rfl := Option.some.inj ((around_cons p rest).symm.trans made)
    rw [foldl_expand_within_iff (isNumber_atPoint here)
        (List.forall_mem_map.mpr fun q member => isNumber_atPoint (later q member)),
      List.forall_mem_map, List.forall_mem_cons]
    rfl

/-- Least rectangles around a seed and the same points, in whatever order, have the same edges. -/
theorem LeastAround.beq {seed box other : Rect α} {points others : List (Point α)}
    (first : seed.LeastAround points box) (second : seed.LeastAround others other)
    (same : ∀ p, p ∈ points ↔ p ∈ others) : (box == other) = true := by
  apply Within.beq
  · exact first.least other second.seeded fun p member => second.covers p ((same p).mp member)
  · exact second.least box first.seeded fun p member => first.covers p ((same p).mpr member)

/-- A seed that grows by the boxes of some lists of points becomes the least rectangle around it and
all of them. -/
theorem leastAround_foldl_expand {seed : Rect α} {lists : List (List (Point α))}
    (number : seed.IsNumber) (numbers : ∀ p ∈ lists.flatten, p.IsNumber) :
    seed.LeastAround lists.flatten ((lists.filterMap around).foldl expand seed) := by
  have made (box : Rect α) (member : box ∈ lists.filterMap around) :
      ∃ points ∈ lists, around points = some box ∧ ∀ p ∈ points, p.IsNumber := by
    obtain ⟨points, listed, made⟩ := List.mem_filterMap.mp member
    exact ⟨points, listed, made, fun p here =>
      numbers p (List.mem_flatten.mpr ⟨points, listed, here⟩)⟩
  have boxNumbers (box : Rect α) (member : box ∈ lists.filterMap around) : box.IsNumber := by
    obtain ⟨points, -, made, here⟩ := made box member
    exact isNumber_around made here
  have within (outer : Rect α) : ((lists.filterMap around).foldl expand seed).Within outer ↔
      seed.Within outer ∧ ∀ box ∈ lists.filterMap around, box.Within outer :=
    foldl_expand_within_iff number boxNumbers
  obtain ⟨seeded, inside⟩ := (within _).mp (number.foldl_expand boxNumbers).within_self
  refine ⟨seeded, fun p member => ?_, fun outer around covers => ?_⟩
  · obtain ⟨points, listed, here⟩ := List.mem_flatten.mp member
    cases points with
    | nil => cases here
    | cons first rest =>
      have box := List.mem_filterMap.mpr ⟨first :: rest, listed, around_cons first rest⟩
      exact (around_within_iff (around_cons first rest) fun q there =>
        numbers q (List.mem_flatten.mpr ⟨_, listed, there⟩)).mp (inside _ box) p here
  · refine (within outer).mpr ⟨around, fun box member => ?_⟩
    obtain ⟨points, listed, made, here⟩ := made box member
    exact (around_within_iff made here).mpr fun p there =>
      covers p (List.mem_flatten.mpr ⟨points, listed, there⟩)

/-- Edges are put in order by the box around the two corners. -/
theorem normalized_within_iff (first : p.IsNumber) (second : q.IsNumber) :
    (Rect.mk p.x p.y q.x q.y).normalized.Within outer ↔ outer.Covers p ∧ outer.Covers q :=
  expand_within_iff (isNumber_atPoint first) (isNumber_atPoint second)

end Rect
end XdotViewer
