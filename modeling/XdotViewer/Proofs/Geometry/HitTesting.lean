import XdotViewer.Proofs.Geometry.Boxes
import XdotViewer.Proofs.Geometry.Polyline

/-! # Hit tests

A chord is hit when the point is near its box and near the line through it. A point within the
tolerance of the chord passes both tests. A point that passes them has a point of the chord at
hand: the foot of its perpendicular, or if this lies beyond an end, that end, which differs from it
by no more than the tolerance in each coordinate. Boxes around the curve and the path reject
nothing that a chord would accept.
-/

namespace XdotViewer

namespace Point

variable (p q : Point ℝ)

private theorem distance_sq : p.distance q ^ 2 = (p.x - q.x) ^ 2 + (p.y - q.y) ^ 2 := by
  rw [distance_eq, Real.sq_sqrt (add_nonneg (mul_self_nonneg _) (mul_self_nonneg _))]
  ring

private theorem abs_x_le_distance : |p.x - q.x| ≤ p.distance q :=
  abs_le_of_sq_le_sq (by nlinarith [p.distance_sq q]) (p.distance_nonneg q)

private theorem abs_y_le_distance : |p.y - q.y| ≤ p.distance q :=
  abs_le_of_sq_le_sq (by nlinarith [p.distance_sq q]) (p.distance_nonneg q)

variable {p q}

private theorem distance_le_of_abs {bound : ℝ} (nonneg : 0 ≤ bound) (near : |p.x - q.x| ≤ bound)
    (close : |p.y - q.y| ≤ bound) : p.distance q ≤ √2 * bound := by
  have level : (p.x - q.x) ^ 2 ≤ bound ^ 2 := sq_le_sq' (abs_le.mp near).1 (abs_le.mp near).2
  have upright : (p.y - q.y) ^ 2 ≤ bound ^ 2 := sq_le_sq' (abs_le.mp close).1 (abs_le.mp close).2
  refine abs_le_of_sq_le_sq' ?_ (by positivity) |>.2
  rw [distance_sq, mul_pow, Real.sq_sqrt zero_le_two]
  linarith

private theorem distance_eq_zero_iff : p.distance q = 0 ↔ p = q := by
  constructor
  · intro empty
    have sum := p.distance_sq q
    rw [empty] at sum
    have level : p.x - q.x = 0 := by nlinarith [sq_nonneg (p.x - q.x), sq_nonneg (p.y - q.y)]
    have upright : p.y - q.y = 0 := by nlinarith [sq_nonneg (p.x - q.x), sq_nonneg (p.y - q.y)]
    cases p
    cases q
    simp_all [sub_eq_zero]
  · rintro rfl
    rw [distance_eq]
    simp

end Point

section Chord

variable {p q r : Point ℝ} {x y tolerance : ℝ}

/-- A point of the chord from `p` to `q`. -/
def OnChord (p q r : Point ℝ) : Prop :=
  ∃ t, 0 ≤ t ∧ t ≤ 1 ∧ Point.between t p q = r

/-- How far a point lies along the chord, times the length of the chord. -/
def along (p q : Point ℝ) (x y : ℝ) : ℝ :=
  (q.x - p.x) * (x - p.x) + (q.y - p.y) * (y - p.y)

/-- How far a point lies to the side of the chord, times the length of the chord. -/
def aside (p q : Point ℝ) (x y : ℝ) : ℝ :=
  (q.x - p.x) * (y - p.y) - (q.y - p.y) * (x - p.x)

private theorem Rect.contains_of_distance_le {box : Rect ℝ} (covered : box.Covers r)
    (near : r.distance ⟨x, y⟩ ≤ tolerance) : box.contains x y tolerance = true := by
  obtain ⟨left, top, right, bottom⟩ := covered
  obtain ⟨after, before⟩ := abs_le.mp (r.abs_x_le_distance ⟨x, y⟩)
  obtain ⟨below, above⟩ := abs_le.mp (r.abs_y_le_distance ⟨x, y⟩)
  have allowed := le_max_left tolerance 0
  simp only [atPoint] at left top right bottom after before below above
  rw [contains_iff]
  refine ⟨⟨?_, ?_⟩, ?_, ?_⟩ <;> linarith

namespace Bezier

private theorem twiceArea_eq : twiceArea p q x y = |aside p q x y| := by
  change |_| = _
  rw [aside]
  congr 1
  ring

private theorem chordDistance_of_empty : chordDistance p p x y = p.distance ⟨x, y⟩ := by
  simp [chordDistance, Point.distance_eq_zero_iff.mpr rfl]

private theorem chordDistance_of_ne (different : p ≠ q) :
    chordDistance p q x y = |aside p q x y| / p.distance q := by
  have long : p.distance q ≠ 0 := mt Point.distance_eq_zero_iff.mp different
  simp [chordDistance, long, twiceArea_eq]

private theorem chordDistance_nonneg : 0 ≤ chordDistance p q x y := by
  by_cases same : p = q
  · rw [same, chordDistance_of_empty]
    exact Point.distance_nonneg _ _
  · rw [chordDistance_of_ne same]
    exact div_nonneg (abs_nonneg _) (Point.distance_nonneg _ _)

private theorem isNearChord_iff : isNearChord p q x y tolerance = true ↔
    (Rect.mk p.x p.y q.x q.y).normalized.contains x y tolerance = true ∧
      chordDistance p q x y ≤ tolerance := by
  simp [isNearChord]

/-- The way from a point of the line to another point, as it goes along the line and aside. -/
theorem distance_between_sq (t : ℝ) (p q : Point ℝ) (x y : ℝ) :
    (Point.between t p q).distance ⟨x, y⟩ ^ 2 * p.distance q ^ 2 =
      aside p q x y ^ 2 + (along p q x y - t * p.distance q ^ 2) ^ 2 := by
  rw [Point.distance_sq, Point.distance_sq, Point.between_eq, aside, along]
  ring

/-- The line through a chord is no farther away than any point of the chord. -/
theorem chordDistance_le_distance (on : OnChord p q r) :
    chordDistance p q x y ≤ r.distance ⟨x, y⟩ := by
  obtain ⟨t, -, -, rfl⟩ := on
  by_cases same : p = q
  · rw [same, chordDistance_of_empty, Point.between_eq]
    ring_nf
    exact le_rfl
  · have long : 0 < p.distance q :=
      (p.distance_nonneg q).lt_of_ne' (mt Point.distance_eq_zero_iff.mp same)
    rw [chordDistance_of_ne same, div_le_iff₀ long]
    refine abs_le_of_sq_le_sq ?_ (mul_nonneg (Point.distance_nonneg _ _) long.le)
    rw [mul_pow, distance_between_sq]
    exact le_add_of_nonneg_right (sq_nonneg _)

private theorem isNearChord_of_distance_le (on : OnChord p q r)
    (near : r.distance ⟨x, y⟩ ≤ tolerance) :
    isNearChord p q x y tolerance = true := by
  refine isNearChord_iff.mpr ⟨?_, (chordDistance_le_distance on).trans near⟩
  obtain ⟨t, nonneg, before, rfl⟩ := on
  obtain ⟨first, last⟩ := (Rect.normalized_within_iff p.isNumber_real q.isNumber_real).mp
    (.refl (Rect.mk p.x p.y q.x q.y).normalized)
  exact Rect.contains_of_distance_le (first.between last nonneg before) near

private theorem isNearChord_comm :
    isNearChord p q x y tolerance = isNearChord q p x y tolerance := by
  have box : (Rect.mk p.x p.y q.x q.y).normalized = (Rect.mk q.x q.y p.x p.y).normalized := by
    simp [Rect.normalized, min_comm, max_comm]
  have line : chordDistance p q x y = chordDistance q p x y := by
    by_cases same : p = q
    · rw [same]
    · have turned : aside q p x y = -aside p q x y := by
        rw [aside, aside]
        ring
      rw [chordDistance_of_ne same, chordDistance_of_ne (Ne.symm same), turned, abs_neg,
        Point.distance_comm]
  rw [isNearChord, isNearChord, box, line]

/-- In one coordinate: behind the first end of a chord the box reaches no farther than the
tolerance, and neither does the strip along the line on the side where the chord is. -/
theorem abs_le_of_behind {first last place across other length : ℝ} (long : 0 < length)
    (base : (last - first) ^ 2 + across ^ 2 = length ^ 2)
    (strip : |(last - first) * other - across * (place - first)| ≤ tolerance * length)
    (behind : (last - first) * (place - first) + across * other ≤ 0)
    (after : min first last - tolerance ≤ place) (before : place ≤ max first last + tolerance) :
    |place - first| ≤ tolerance := by
  have slope : |across| ≤ length :=
    abs_le_of_sq_le_sq (by nlinarith [sq_nonneg (last - first)]) long.le
  have sideways : |across * ((last - first) * other - across * (place - first))| ≤
      tolerance * length ^ 2 := by
    rw [abs_mul, pow_two, ← mul_assoc, mul_comm |across|]
    exact mul_le_mul strip slope (abs_nonneg _) ((abs_nonneg _).trans strip)
  obtain ⟨low, high⟩ := abs_le.mp sideways
  have square : 0 < length ^ 2 := pow_pos long 2
  have place_eq : (place - first) * length ^ 2 =
      (last - first) * ((last - first) * (place - first) + across * other) -
        across * ((last - first) * other - across * (place - first)) := by
    rw [← base]
    ring
  rw [abs_le]
  rcases le_total first last with forward | backward
  · rw [min_eq_left forward] at after
    have against := mul_nonpos_of_nonneg_of_nonpos (sub_nonneg.mpr forward) behind
    exact ⟨by linarith, le_of_mul_le_mul_right (by linarith) square⟩
  · rw [max_eq_left backward] at before
    have against := mul_nonneg_of_nonpos_of_nonpos (sub_nonpos.mpr backward) behind
    exact ⟨le_of_mul_le_mul_right (by linarith) square, by linarith⟩

private theorem le_sqrt_two_mul (nonneg : 0 ≤ tolerance) : tolerance ≤ √2 * tolerance :=
  le_mul_of_one_le_left nonneg (Real.one_le_sqrt.mpr one_le_two)

/-- A point that hits a chord from behind its first end is near this end. -/
theorem distance_le_of_behind (near : isNearChord p q x y tolerance = true)
    (behind : along p q x y ≤ 0) : p.distance ⟨x, y⟩ ≤ √2 * tolerance := by
  obtain ⟨box, line⟩ := isNearChord_iff.mp near
  have nonneg : 0 ≤ tolerance := chordDistance_nonneg.trans line
  by_cases same : p = q
  · rw [same, chordDistance_of_empty] at line
    rw [same]
    exact line.trans (le_sqrt_two_mul nonneg)
  have long : 0 < p.distance q :=
    (p.distance_nonneg q).lt_of_ne' (mt Point.distance_eq_zero_iff.mp same)
  have base := p.distance_sq q
  rw [chordDistance_of_ne same, div_le_iff₀ long, aside] at line
  rw [Rect.contains_iff, max_eq_left nonneg] at box
  simp only [Rect.normalized, Scalar.min_real, Scalar.max_real] at box
  obtain ⟨⟨after, before⟩, below, above⟩ := box
  rw [along] at behind
  -- Upright, the two coordinates change places, which turns the strip over.
  have turned : |(q.y - p.y) * (x - p.x) - (q.x - p.x) * (y - p.y)| ≤
      tolerance * p.distance q := by
    rwa [abs_sub_comm]
  refine Point.distance_le_of_abs nonneg ?_ ?_
  · rw [abs_sub_comm]
    exact abs_le_of_behind long (by rw [base]; ring) line behind after before
  · rw [abs_sub_comm]
    exact abs_le_of_behind long (by rw [base]; ring) turned (by linarith) below above

/-- The foot of the perpendicular is as far away as the line. -/
theorem distance_foot (different : p ≠ q) :
    (Point.between (along p q x y / p.distance q ^ 2) p q).distance ⟨x, y⟩ =
      chordDistance p q x y := by
  have long : 0 < p.distance q :=
    (p.distance_nonneg q).lt_of_ne' (mt Point.distance_eq_zero_iff.mp different)
  have foot := distance_between_sq (along p q x y / p.distance q ^ 2) p q x y
  rw [div_mul_cancel₀ _ (pow_pos long 2).ne', sub_self, zero_pow two_ne_zero, add_zero, ← mul_pow,
    ← sq_abs (aside p q x y)] at foot
  rw [chordDistance_of_ne different, eq_div_iff long.ne']
  exact (sq_eq_sq₀ (mul_nonneg (Point.distance_nonneg _ _) long.le) (abs_nonneg _)).mp foot

/-- A point that hits a chord has a point of the chord near it. -/
theorem exists_distance_le_of_isNearChord (near : isNearChord p q x y tolerance = true) :
    ∃ r, OnChord p q r ∧ r.distance ⟨x, y⟩ ≤ √2 * tolerance := by
  have turned : along q p x y = p.distance q ^ 2 - along p q x y := by
    rw [along, along, Point.distance_sq]
    ring
  rcases le_or_gt (along p q x y) 0 with behind | ahead
  · exact ⟨p, ⟨0, le_rfl, zero_le_one, Point.between_zero p q⟩, distance_le_of_behind near behind⟩
  rcases le_or_gt (p.distance q ^ 2) (along p q x y) with beyond | inside
  · refine ⟨q, ⟨1, zero_le_one, le_rfl, Point.between_one p q⟩, ?_⟩
    exact distance_le_of_behind (isNearChord_comm ▸ near) (by linarith)
  · have square : 0 < p.distance q ^ 2 := ahead.trans inside
    have different : p ≠ q := by
      rintro rfl
      rw [Point.distance_eq_zero_iff.mpr rfl] at square
      norm_num at square
    have line := (isNearChord_iff.mp near).2
    refine ⟨_, ⟨_, (div_pos ahead square).le, (div_le_one square).mpr inside.le, rfl⟩, ?_⟩
    rw [distance_foot different]
    exact line.trans (le_sqrt_two_mul (chordDistance_nonneg.trans line))

end Bezier
end Chord

/-- A point of a chord between two consecutive points. -/
def OnPolyline (points : List (Point ℝ)) (r : Point ℝ) : Prop :=
  ∃ p q, [p, q] <:+: points ∧ OnChord p q r

/-- A point of the polyline through the chord points of the curve. -/
def Bezier.Draws (b : Bezier ℝ) (r : Point ℝ) : Prop :=
  OnPolyline (b.chordPoints.map ChordPoint.point) r

/-- A point of the polyline of one of the segments. -/
def Path.Draws (path : Path ℝ) (r : Point ℝ) : Prop :=
  ∃ b ∈ path.segments, b.Draws r

/-- The answer is yes when something that is drawn lies within the tolerance of the target, and
only when something lies within √2 times the tolerance. -/
structure Tells (answer : Bool) (draws : Point ℝ → Prop) (target : Point ℝ) (tolerance : ℝ) :
    Prop where
  never_misses : ∀ r, draws r → r.distance target ≤ tolerance → answer = true
  tight : answer = true → ∃ r, draws r ∧ r.distance target ≤ √2 * tolerance

section HitTest

variable {x y tolerance : ℝ}

namespace Bezier

private theorem isNearPolyline_iff {points : List (Point ℝ)} :
    isNearPolyline x y tolerance points = true ↔
      ∃ p q, [p, q] <:+: points ∧ isNearChord p q x y tolerance = true := by
  induction points with
  | nil => simp [isNearPolyline]
  | cons first points ih =>
    cases points with
    | nil => simp [isNearPolyline, List.infix_cons_iff]
    | cons second rest =>
      rw [isNearPolyline, Bool.or_eq_true, ih]
      constructor
      · rintro (here | ⟨p, q, later, near⟩)
        · exact ⟨first, second, (List.prefix_append [first, second] rest).isInfix, here⟩
        · exact ⟨p, q, List.infix_cons later, near⟩
      · rintro ⟨p, q, consecutive, near⟩
        rcases List.infix_cons_iff.mp consecutive with here | later
        · obtain ⟨rfl, next⟩ := List.cons_prefix_cons.mp here
          obtain ⟨rfl, -⟩ := List.cons_prefix_cons.mp next
          exact .inl near
        · exact .inr ⟨p, q, later, near⟩

private theorem isNearPolyline_tells (points : List (Point ℝ)) (x y tolerance : ℝ) :
    Tells (isNearPolyline x y tolerance points) (OnPolyline points) ⟨x, y⟩ tolerance where
  never_misses := by
    rintro r ⟨p, q, consecutive, on⟩ near
    exact isNearPolyline_iff.mpr ⟨p, q, consecutive, isNearChord_of_distance_le on near⟩
  tight hit := by
    obtain ⟨p, q, consecutive, near⟩ := isNearPolyline_iff.mp hit
    obtain ⟨r, on, close⟩ := exists_distance_le_of_isNearChord near
    exact ⟨r, ⟨p, q, consecutive, on⟩, close⟩

/-- The box of a curve does not reject what one of its chords accepts. -/
theorem isNearBox_of_isNearPolyline {b : Bezier ℝ}
    (hit : isNearPolyline x y tolerance (b.chordPoints.map ChordPoint.point) = true) :
    b.isNearBox x y tolerance = true := by
  obtain ⟨p, q, consecutive, near⟩ := isNearPolyline_iff.mp hit
  have covers : ∀ r ∈ [p, q], b.box.Covers r := by
    intro r member
    obtain ⟨piece, vertex, rfl⟩ := List.mem_map.mp (consecutive.subset member)
    exact covers_of_mem_chordPoints vertex
  exact Rect.contains_of_within
    ((Rect.normalized_within_iff p.isNumber_real q.isNumber_real).mpr
      ⟨covers p (by simp), covers q (by simp)⟩)
    (isNearChord_iff.mp near).1

theorem isNear_eq (b : Bezier ℝ) (x y tolerance : ℝ) : b.isNear x y tolerance =
    isNearPolyline x y tolerance (b.chordPoints.map ChordPoint.point) := by
  rw [isNear, Bool.and_eq_right_iff_imp]
  exact isNearBox_of_isNearPolyline

end Bezier

namespace Path

private theorem isNearBox_of_isNear {path : Path ℝ} {b : Bezier ℝ} (member : b ∈ path.segments)
    (hit : b.isNear x y tolerance = true) : path.isNearBox x y tolerance = true := by
  obtain ⟨box, made, within⟩ := path.exists_box_of_mem member
  rw [Bezier.isNear, Bool.and_eq_true] at hit
  rw [isNearBox, made]
  exact Rect.contains_of_within within hit.1

theorem isNear_eq (path : Path ℝ) (x y tolerance : ℝ) :
    path.isNear x y tolerance = path.segments.any fun b => b.isNear x y tolerance := by
  rw [isNear, Bool.and_eq_right_iff_imp, List.any_eq_true]
  rintro ⟨b, member, hit⟩
  exact isNearBox_of_isNear member hit

/-- A hit test of a curve or a path tells what is near, and would do so without the boxes that
reject most points early. -/
theorem isNear_tells (x y tolerance : ℝ) :
    (∀ b : Bezier ℝ, Tells (b.isNear x y tolerance) b.Draws ⟨x, y⟩ tolerance ∧
      b.isNear x y tolerance =
        Bezier.isNearPolyline x y tolerance (b.chordPoints.map ChordPoint.point)) ∧
      ∀ path : Path ℝ, Tells (path.isNear x y tolerance) path.Draws ⟨x, y⟩ tolerance ∧
        path.isNear x y tolerance = path.segments.any fun b => b.isNear x y tolerance := by
  have curve : ∀ b : Bezier ℝ, Tells (b.isNear x y tolerance) b.Draws ⟨x, y⟩ tolerance :=
    fun b => b.isNear_eq x y tolerance ▸ Bezier.isNearPolyline_tells _ x y tolerance
  refine ⟨fun b => ⟨curve b, b.isNear_eq x y tolerance⟩, fun path => ⟨⟨?_, ?_⟩, ?_⟩⟩
  · rintro r ⟨b, member, draws⟩ near
    rw [isNear_eq, List.any_eq_true]
    exact ⟨b, member, (curve b).never_misses r draws near⟩
  · intro hit
    rw [isNear_eq, List.any_eq_true] at hit
    obtain ⟨b, member, hit⟩ := hit
    obtain ⟨r, draws, near⟩ := (curve b).tight hit
    exact ⟨r, ⟨b, member, draws⟩, near⟩
  · exact path.isNear_eq x y tolerance

/-- Off the corner of the box around a level line there is a hit, but no closer point than the
factor allows. -/
theorem isNear_tells_corner :
    let level : Bezier ℝ := .line ⟨0, 0⟩ ⟨10, 0⟩
    level.isNear 11 1 1 = true ∧ (∃ r, level.Draws r ∧ r.distance ⟨11, 1⟩ ≤ √2 * 1) ∧
      ¬ ∃ r, level.Draws r ∧ r.distance ⟨11, 1⟩ ≤ 1 := by
  intro level
  have vertices : level.chordPoints.map ChordPoint.point = [⟨0, 0⟩, ⟨10, 0⟩] := by
    rw [Bezier.chordPoints, Bezier.pieces_line]
    rfl
  have hit : level.isNear 11 1 1 = true := by
    have box : (Rect.mk 0 0 10 0 : Rect ℝ).normalized.contains 11 1 1 = true := by
      norm_num [Rect.contains_iff, Rect.normalized]
    have line : Bezier.chordDistance ⟨0, 0⟩ ⟨10, 0⟩ 11 1 ≤ (1 : ℝ) := by
      rw [Bezier.chordDistance_of_ne (by norm_num), aside, Point.distance_level]
      norm_num
    rw [Bezier.isNear_eq, vertices]
    exact Bezier.isNearPolyline_iff.mpr
      ⟨_, _, List.infix_refl _, Bezier.isNearChord_iff.mpr ⟨box, line⟩⟩
  refine ⟨hit, ((isNear_tells 11 1 1).1 level).1.tight hit, ?_⟩
  rintro ⟨r, ⟨p, q, consecutive, t, nonneg, before, rfl⟩, near⟩
  rw [vertices] at consecutive
  obtain ⟨rfl, rfl⟩ : p = ⟨0, 0⟩ ∧ q = ⟨10, 0⟩ := by
    simpa using consecutive.eq_of_length rfl
  have square := Point.distance_sq (Point.between t ⟨0, 0⟩ ⟨10, 0⟩) ⟨11, 1⟩
  rw [Point.between_eq] at near square
  nlinarith [Point.distance_nonneg (⟨0 * (1 - t) + 10 * t, 0 * (1 - t) + 0 * t⟩ : Point ℝ) ⟨11, 1⟩]

end Path
end HitTest
end XdotViewer
