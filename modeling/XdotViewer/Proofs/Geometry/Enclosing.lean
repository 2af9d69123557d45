import XdotViewer.Proofs.Geometry.Boxes
import XdotViewer.Proofs.Geometry.Dashes
import XdotViewer.Proofs.Geometry.Dots

/-! # What the box of a curve encloses

A construction that only divides between points stays in every rectangle around them. So the box of
a curve encloses the curve, the polygon that stands for it and each of its parts, and the box of a
path encloses the dashes and dots that are drawn along it.
-/

namespace XdotViewer

/-- The control points of a curve lie in the rectangle, and so do the points of the curve. -/
structure Rect.Encloses (r : Rect ℝ) (b : Bezier ℝ) : Prop where
  controls : ∀ p ∈ b.points, r.Covers p
  curve : ∀ t, 0 ≤ t → t ≤ 1 → r.Covers (b.pointAt t)

namespace Bezier

variable {b dash : Bezier ℝ} {outer : Rect ℝ} {p : Point ℝ} {length spacing t t₁ t₂ : ℝ}

/-- The points of a curve are the ends of its parts, so the construction finds them in the box. -/
theorem covers_pointAt (b : Bezier ℝ) (nonneg : 0 ≤ t) (before : t ≤ 1) :
    b.box.Covers (b.pointAt t) := by
  have last : (b.split t).1.box.Covers (b.pointAt t) := by
    rw [← finish_split_left]
    exact covers_of_mem_points (List.mem_of_getLast? (getLast?_points _))
  exact last.trans (box_split_within nonneg before).1

/-- A curve is enclosed where its control points are. -/
theorem encloses_iff : outer.Encloses b ↔ b.box.Within outer := by
  constructor
  · intro enclosed
    exact box_within_iff.mpr enclosed.controls
  · intro within
    refine ⟨box_within_iff.mp within, fun t nonneg before => ?_⟩
    exact (b.covers_pointAt nonneg before).trans within

/-- A part is divided off twice, unless it ends at the start of the curve. -/
theorem box_between_within (nonneg : 0 ≤ t₁) (ordered : t₁ ≤ t₂) (before : t₂ ≤ 1) :
    (b.between t₁ t₂).box.Within b.box := by
  rw [between, Scalar.zero_real]
  split
  case isTrue =>
    rw [box_within_iff, points_map]
    intro p member
    obtain ⟨-, -, rfl⟩ := List.mem_map.mp member
    exact covers_of_mem_points (List.mem_of_head? b.head?_points)
  case isFalse behind =>
    have positive : 0 < t₂ := not_le.mp behind
    have first : (b.split t₂).1.box.Within b.box := (box_split_within positive.le before).1
    have share : t₁ / t₂ ≤ 1 := (div_le_one positive).mpr ordered
    exact (box_split_within (div_nonneg nonneg positive.le) share).2.trans first

/-- The dash is the part of the curve between two parameters of its range. -/
def IsPart (b dash : Bezier ℝ) : Prop :=
  ∃ t₁ t₂, 0 ≤ t₁ ∧ t₁ ≤ t₂ ∧ t₂ ≤ 1 ∧ dash = b.between t₁ t₂

private theorem IsPart.box_within (part : b.IsPart dash) : dash.box.Within b.box := by
  obtain ⟨t₁, t₂, nonneg, ordered, before, rfl⟩ := part
  exact box_between_within nonneg ordered before

/-- The marks lie in order in the range of the curve, so what lies between two of them is a part. -/
theorem isPart_of_mem_dashes {phase : DashPhase ℝ} (member : dash ∈ (b.dashes length phase).1) :
    b.IsPart dash := by
  rw [fst_dashes] at member
  obtain ⟨⟨first, last⟩, drawn, rfl⟩ := List.mem_map.mp member
  obtain ⟨nonneg, ordered, before, -⟩ := mem_alternate (b.sorted_times length phase.next) drawn
  exact ⟨first, last, nonneg, ordered, before, rfl⟩

private theorem exists_pointAt_of_mem_dots {next : ℝ} (member : p ∈ (b.dots spacing next).1) :
    ∃ t, 0 ≤ t ∧ t ≤ 1 ∧ p = b.pointAt t := by
  simp only [dots, List.mem_append, List.mem_map, List.mem_ite_nil_right, List.mem_singleton]
    at member
  rcases member with ⟨-, start⟩ | ⟨t, marked, rfl⟩
  · exact ⟨0, le_rfl, zero_le_one, start⟩
  · obtain ⟨after, sorted⟩ := List.pairwise_cons.mp (b.sorted_times spacing next)
    have before := (List.pairwise_append.mp sorted).2.2 t marked 1 (List.mem_singleton.mpr rfl)
    exact ⟨t, after t (List.mem_append_left _ marked), before, rfl⟩

end Bezier

namespace Path

variable {dash : Bezier ℝ} {p : Point ℝ} {segments : List (Bezier ℝ)} {length spacing : ℝ}

/-- Whatever phase is handed on, each dash is a part of one segment. -/
theorem exists_isPart_of_mem_dashesFrom {phase : DashPhase ℝ}
    (member : dash ∈ dashesFrom length phase segments) : ∃ b ∈ segments, b.IsPart dash := by
  induction segments generalizing phase with
  | nil => cases member
  | cons b rest ih =>
    rcases List.mem_append.mp member with here | later
    · exact ⟨b, List.mem_cons_self, Bezier.isPart_of_mem_dashes here⟩
    · obtain ⟨c, among, part⟩ := ih later
      exact ⟨c, List.mem_cons_of_mem b among, part⟩

private theorem exists_pointAt_of_mem_dotsFrom {next : ℝ}
    (member : p ∈ dotsFrom spacing next segments) :
    ∃ b ∈ segments, ∃ t, 0 ≤ t ∧ t ≤ 1 ∧ p = b.pointAt t := by
  induction segments generalizing next with
  | nil => cases member
  | cons b rest ih =>
    rcases List.mem_append.mp member with here | later
    · exact ⟨b, List.mem_cons_self, Bezier.exists_pointAt_of_mem_dots here⟩
    · obtain ⟨c, among, point⟩ := ih later
      exact ⟨c, List.mem_cons_of_mem b among, point⟩

/-- All that is derived from a curve stays in the box of the curve: its points, its polygon, and the
control points of its parts. So the dashes and the dots of a path stay in the box of the path. -/
theorem boxes_enclose :
    (∀ b : Bezier ℝ, b.box.Encloses b ∧ (∀ piece ∈ b.chordPoints, b.box.Covers piece.point) ∧
      (∀ t, 0 ≤ t → t ≤ 1 → b.box.Encloses (b.split t).1 ∧ b.box.Encloses (b.split t).2) ∧
      ∀ t₁ t₂, 0 ≤ t₁ → t₁ ≤ t₂ → t₂ ≤ 1 → b.box.Encloses (b.between t₁ t₂)) ∧
    ∀ path : Path ℝ,
      (∀ length, ∃ dashes, path.dashes? length = some dashes ∧
        ∀ dash ∈ dashes, ∃ box, path.box? = some box ∧ box.Encloses dash) ∧
      ∀ spacing, ∃ dots, path.dots? spacing = some dots ∧
        ∀ p ∈ dots, ∃ box, path.box? = some box ∧ box.Covers p := by
  refine ⟨fun b => ⟨?_, ?_, ?_, ?_⟩, fun path => ⟨?_, ?_⟩⟩
  · exact Bezier.encloses_iff.mpr (.refl _)
  · exact fun piece member => Bezier.covers_of_mem_chordPoints member
  · intro t nonneg before
    obtain ⟨first, second⟩ := b.box_split_within nonneg before
    exact ⟨Bezier.encloses_iff.mpr first, Bezier.encloses_iff.mpr second⟩
  · intro t₁ t₂ nonneg ordered before
    exact Bezier.encloses_iff.mpr (Bezier.box_between_within nonneg ordered before)
  · intro length
    refine ⟨_, dashesFrom?_eq _ _, fun dash member => ?_⟩
    obtain ⟨b, among, part⟩ := exists_isPart_of_mem_dashesFrom member
    obtain ⟨box, made, within⟩ := path.exists_box_of_mem among
    exact ⟨box, made, Bezier.encloses_iff.mpr (part.box_within.trans within)⟩
  · intro spacing
    refine ⟨_, dotsFrom?_eq _ _, fun p member => ?_⟩
    obtain ⟨b, among, t, nonneg, before, rfl⟩ := exists_pointAt_of_mem_dotsFrom member
    obtain ⟨box, made, within⟩ := path.exists_box_of_mem among
    exact ⟨box, made, (b.covers_pointAt nonneg before).trans within⟩

/-- The middle half of a wave, and the first dash and a dot on two lines in a row. -/
theorem boxes_enclose_wave :
    let wave : Bezier ℝ := .cubic ⟨0, 0⟩ ⟨30, 80⟩ ⟨70, -40⟩ ⟨100, 20⟩
    let dash : Bezier ℝ := .line ⟨0, 0⟩ ⟨10, 0⟩
    wave.box.Encloses (wave.between (1 / 4) (3 / 4)) ∧
      (∃ dashes, (twoLines 15 30).dashes? 10 = some dashes ∧ dash ∈ dashes ∧
        ∃ box, (twoLines 15 30).box? = some box ∧ box.Encloses dash) ∧
      (∃ dots, (twoLines 15 30).dots? 10 = some dots ∧ ⟨10, 0⟩ ∈ dots ∧
        ∃ box, (twoLines 15 30).box? = some box ∧ box.Covers ⟨10, 0⟩) := by
  intro wave dash
  let level : Bezier ℝ := .line ⟨0, 0⟩ ⟨15, 0⟩
  have positive : (0 : ℝ) < 10 := by norm_num
  have long : (⟨0, 0⟩ : Point ℝ).distance ⟨15, 0⟩ = 15 := by norm_num [Point.distance_level]
  have times : (level.marks 10 10).times = [2 / 3] := by
    rw [Bezier.marks_line _ _ positive positive, long, ticks_of_le positive (by norm_num),
      ticks_of_lt positive (by norm_num)]
    norm_num
  obtain ⟨curves, paths⟩ := boxes_enclose
  refine ⟨?_, ?_, ?_⟩
  · exact (curves wave).2.2.2 (1 / 4) (3 / 4) (by norm_num) (by norm_num) (by norm_num)
  · have first : dash ∈ (level.dashes 10 ⟨10, true⟩).1 := by
      rw [Bezier.fst_dashes, times]
      norm_num [alternate, level, dash, Bezier.between, Bezier.split, Point.between_eq]
    obtain ⟨dashes, ended, enclosed⟩ := (paths (twoLines 15 30)).1 10
    have drawn : dash ∈ dashes := by
      rw [← Option.some.inj ((dashesFrom?_eq _ _).symm.trans ended)]
      exact List.mem_append_left _ first
    exact ⟨dashes, ended, drawn, enclosed dash drawn⟩
  · have second : ⟨10, 0⟩ ∈ (level.dots 10 10).1 := by
      norm_num [Bezier.dots, times, level, Bezier.pointAt_line, Point.between_eq]
    obtain ⟨dots, ended, enclosed⟩ := (paths (twoLines 15 30)).2 10
    have dotted : ⟨10, 0⟩ ∈ dots := by
      rw [← Option.some.inj ((dotsFrom?_eq _ _).symm.trans ended)]
      exact List.mem_append_left _ second
    exact ⟨dots, ended, dotted, enclosed _ dotted⟩

end Path
end XdotViewer
