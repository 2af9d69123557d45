import XdotViewer.Proofs.Geometry.Marking

/-! # Evenly spaced marks

The marks of a curve lie at equal ways along the polyline that stands for it, as many as there is
room for, and what is left of the way to the next one is where the marks of the next curve begin.
-/

namespace XdotViewer
namespace Bezier

variable {distance first : ℝ}

/-- Marks at a first way along a curve and at every further distance. The way that is left leads
from the end of the curve to the next one. -/
structure EvenlyMarked (b : Bezier ℝ) (distance first : ℝ) (marks : Marks ℝ) : Prop where
  count : marks.times.length =
    if b.drawnLength < first then 0 else ⌊(b.drawnLength - first) / distance⌋₊ + 1
  increasing : marks.times.Pairwise (· < ·)
  inside : ∀ t ∈ marks.times, 0 < t ∧ t ≤ 1
  /-- Pieces without length lie at one way with the piece before them, so the mark is the first. -/
  places : ∀ (i : ℕ) (t : ℝ), marks.times[i]? = some t →
    IsLeast {u | b.reach u = first + i * distance} t
  next : marks.next = first + marks.times.length * distance - b.drawnLength
  ahead : 0 < marks.next

private theorem evenlyMarked_marks (b : Bezier ℝ) (positive : 0 < distance) (ahead : 0 < first) :
    b.EvenlyMarked distance first (b.marks distance first) where
  count := by
    rw [b.times_marks positive ahead, ticks, List.length_map, List.length_map, List.length_range,
      tickCount_eq positive]
  increasing := b.pairwise_times positive ahead
  inside := fun t member => mem_times positive ahead member
  places := by
    intro i t found
    rw [b.times_marks positive ahead, List.getElem?_map] at found
    obtain ⟨way, tick, rfl⟩ := Option.map_eq_some_iff.mp found
    obtain ⟨after, inside⟩ := mem_ticks positive (List.mem_of_getElem? tick)
    rw [ticks, List.getElem?_map] at tick
    obtain ⟨k, counted, rfl⟩ := Option.map_eq_some_iff.mp tick
    obtain ⟨_, rfl⟩ := List.getElem?_eq_some_iff.mp counted
    simp only [List.getElem_range] at after inside ⊢
    exact Polyline.isLeast_parameterAt b.tiles_unit (ahead.trans_le after) inside
  next := by
    rw [b.next_marks positive ahead, b.times_marks positive ahead, ticks, List.length_map,
      List.length_map, List.length_range, leftover]
  ahead := by
    rw [b.next_marks positive ahead]
    exact leftover_pos positive

/-- The polyline of two curves, the second with its parameters behind those of the first. -/
noncomputable def joined (b c : Bezier ℝ) : List (ChordPoint ℝ) :=
  b.chordPoints ++ c.chordPoints.tail.map ChordPoint.later

/-- On two curves in a row, the marks of the second go on with the way that the first has left. -/
theorem exists_paces_joined {b c : Bezier ℝ} (meets : b.finish = c.start) (positive : 0 < distance)
    (ahead : 0 < first) (left : 0 < (b.marks distance first).next) :
    ∃ walked, Marks.Paces distance (b.joined c) ⟨[], 0, first⟩ walked ∧
      walked.times.reverse = (b.marks distance first).times ++
        (c.marks distance (b.marks distance first).next).times.map (· + 1) ∧
      walked.next = (c.marks distance (b.marks distance first).next).next := by
  obtain ⟨paced, one, ends, placed⟩ := b.exists_paces positive ahead
  rw [marks_eq_of placed] at left ⊢
  obtain ⟨walked, two, -, further⟩ := c.exists_paces positive left
  have shifted := two.later paced.times
  have resumed : Marks.Walk.later paced.times ⟨[], 0, paced.next⟩ = paced := by
    rw [Marks.Walk.later, zero_add, ← ends]
    rfl
  have last : b.chordPoints.getLast?.map ChordPoint.point = some c.start := by
    obtain ⟨piece, last, -, at_end⟩ := getLast?_pieces maxDepth b 0 1
    rw [chordPoints, List.getLast?_cons, last, Option.getD_some, Option.map_some, at_end, meets]
  rw [resumed] at shifted
  refine ⟨_, one.append last shifted, ?_, ?_⟩
  · rw [marks_eq_of further, Marks.Walk.later, List.reverse_append, List.map_reverse]
  · rw [marks_eq_of further]
    rfl

/-- To pace off the polyline of a curve comes to an end and gives the marks, which are evenly
spaced. A curve that goes on from its end is marked as if the two were one. -/
theorem marks_pace_off (b : Bezier ℝ) (positive : 0 < distance) (first : ℝ) :
    let begin := if 0 < first then first else distance
    ∃ marks, b.marks? distance first = some marks ∧
      (∀ found, Marks.PacedOff distance b.chordPoints begin found ↔ found = marks) ∧
      b.EvenlyMarked distance begin marks ∧
      ∀ c : Bezier ℝ, b.finish = c.start →
        ∃ more, c.marks? distance marks.next = some more ∧ ∀ found,
          Marks.PacedOff distance (b.joined c) begin found ↔
            found = ⟨marks.times ++ more.times.map (· + 1), more.next⟩ := by
  intro begin
  have ahead : 0 < begin := first_pos positive first
  have same : b.marks distance first = b.marks distance begin :=
    (b.marks_of_first distance first).symm
  have even : b.EvenlyMarked distance begin (b.marks distance first) :=
    same ▸ b.evenlyMarked_marks positive ahead
  refine ⟨_, b.marks?_eq distance first, fun found => ?_, even, fun c meets =>
    ⟨_, c.marks?_eq distance _, fun found => ?_⟩⟩
  · obtain ⟨walked, paces, -, placed⟩ := b.exists_paces positive ahead
    rw [paces.pacedOff_iff, same, marks_eq_of placed]
  · obtain ⟨walked, paces, times, next⟩ :=
      exists_paces_joined meets positive ahead (same ▸ even.ahead)
    rw [paces.pacedOff_iff, same, times, next]

/-- Two lines in a row: the five units that the first has left are where the second goes on. -/
theorem marks_pace_off_lines :
    let b : Bezier ℝ := line ⟨0, 0⟩ ⟨25, 0⟩
    let c : Bezier ℝ := line ⟨25, 0⟩ ⟨40, 0⟩
    (0 : ℝ) < 10 ∧ b.finish = c.start ∧ b.EvenlyMarked 10 10 ⟨[2 / 5, 4 / 5], 5⟩ ∧
      Marks.PacedOff 10 (b.joined c) 10 ⟨[2 / 5, 4 / 5, 4 / 3, 2], 10⟩ := by
  intro b c
  have positive : (0 : ℝ) < 10 := by norm_num
  have longer : (⟨0, 0⟩ : Point ℝ).distance ⟨25, 0⟩ = 25 := by norm_num [Point.distance_level]
  have shorter : (⟨25, 0⟩ : Point ℝ).distance ⟨40, 0⟩ = 15 := by norm_num [Point.distance_level]
  have begins : (if (0 : ℝ) < 0 then (0 : ℝ) else 10) = 10 := if_neg (lt_irrefl 0)
  have one : b.marks 10 0 = ⟨[2 / 5, 4 / 5], 5⟩ := by
    rw [← b.marks_of_first, begins, marks_line _ _ positive positive, longer,
      ticks_of_le positive (by norm_num), ticks_of_le positive (by norm_num),
      ticks_of_lt positive (by norm_num), leftover_of_le positive (by norm_num),
      leftover_of_le positive (by norm_num), leftover_of_lt positive (by norm_num)]
    norm_num
  have two : c.marks 10 5 = ⟨[1 / 3, 1], 10⟩ := by
    rw [marks_line _ _ positive (by norm_num), shorter,
      ticks_of_le positive (by norm_num), ticks_of_le positive (by norm_num),
      ticks_of_lt positive (by norm_num), leftover_of_le positive (by norm_num),
      leftover_of_le positive (by norm_num), leftover_of_lt positive (by norm_num)]
    norm_num
  obtain ⟨marks, placed, -, even, joins⟩ := b.marks_pace_off positive 0
  obtain rfl := (marks_eq_of placed).symm.trans one
  obtain ⟨more, further, joined⟩ := joins c rfl
  obtain rfl := (marks_eq_of further).symm.trans two
  rw [begins] at even joined
  refine ⟨positive, rfl, even, (joined _).mpr ?_⟩
  norm_num

end Bezier
end XdotViewer
