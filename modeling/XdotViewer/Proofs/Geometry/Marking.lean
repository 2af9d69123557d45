import XdotViewer.Proofs.Geometry.Pacing

/-! # Marks along a curve

The walk along a curve places its marks at equal ways along the polyline. On one chord they are the
ticks of its length, and the way that is left is where the ticks of the next chord begin. So the
marks of a whole curve are the ticks of its drawn length.
-/

namespace XdotViewer
namespace Marks

/-- A walk has gone on over a length: it has marked the ticks at their parameters, and keeps the
way to the next one. -/
structure Covers (distance length : ℝ) (parameter : ℝ → ℝ) (walk walked : Walk ℝ) : Prop where
  times : walked.times =
    ((ticks distance walk.next length).map parameter).reverse ++ walk.times
  next : walked.next = leftover distance walk.next length

variable {distance length : ℝ} {walk walked : Walk ℝ}

namespace Covers

variable {more t : ℝ} {parameter later whole : ℝ → ℝ} {further : Walk ℝ}

private theorem of_lt (positive : 0 < distance) (short : length < walk.next)
    (times : walked.times = walk.times) (next : walked.next = walk.next - length) :
    Covers distance length parameter walk walked where
  times := by rw [times, ticks_of_lt positive short]; rfl
  next := by rw [next, leftover_of_lt positive short]

/-- After one mark the next is a whole distance ahead. -/
theorem of_le (positive : 0 < distance) (reached : walk.next ≤ length)
    (rest : Covers distance (length - walk.next) later
      ⟨parameter walk.next :: walk.times, t, distance⟩ walked)
    (far : ∀ way, later way = parameter (walk.next + way)) :
    Covers distance length parameter walk walked where
  times := by
    have others : later = parameter ∘ fun way => walk.next + way := funext far
    rw [rest.times, ticks_of_le positive reached, List.map_cons, List.map_map, List.reverse_cons,
      List.append_assoc, others]
    rfl
  next := by rw [rest.next, leftover_of_le positive reached]

/-- Ways in a row are one way, and the parameters after the first are found on the second. -/
theorem append (positive : 0 < distance) (nonneg : 0 ≤ more)
    (left : Covers distance length parameter walk walked)
    (right : Covers distance more later walked further)
    (near : ∀ way ≤ length, whole way = parameter way)
    (far : ∀ way > 0, whole (length + way) = later way) :
    Covers distance (length + more) whole walk further where
  times := by
    have first : (ticks distance walk.next length).map whole =
        (ticks distance walk.next length).map parameter :=
      List.map_congr_left fun way member => near way (mem_ticks positive member).2
    have second : (ticks distance walked.next more).map (whole ∘ fun way => length + way) =
        (ticks distance walked.next more).map later := by
      refine List.map_congr_left fun way member => far way ?_
      rw [left.next] at member
      exact (leftover_pos positive).trans_le (mem_ticks positive member).1
    rw [right.times, left.times, ticks_add positive nonneg, ← left.next, List.map_append,
      List.map_map, first, second, List.reverse_append, List.append_assoc]
  next := by rw [right.next, left.next, leftover_add positive nonneg]

end Covers

/-- Along a chord its ticks are marked in turn. -/
theorem PacesChord.covers {width step remaining : ℝ} (positive : 0 < distance)
    (paces : PacesChord distance length width step remaining walk walked)
    (first : step = walk.next / length * width) :
    Covers distance remaining (fun way => walk.t + way / length * width) walk walked := by
  induction paces with
  | stop short => exact .of_lt positive (not_le.mp short) rfl rfl
  | @even _ _ walk _ reached whole _ ih =>
    have same : distance = walk.next := by simpa using whole
    subst same first
    refine .of_le positive reached (ih rfl) fun way => ?_
    ring
  | odd reached _ _ ih =>
    subst first
    refine .of_le positive reached (ih rfl) fun way => ?_
    ring

/-- Along the first piece of a polyline the ticks of its chord are marked. A piece without length
has none. -/
theorem Paces.exists_covers {origin piece : ChordPoint ℝ} {rest : List (ChordPoint ℝ)}
    (paces : Paces distance (origin :: piece :: rest) walk walked) (positive : 0 < distance)
    (ahead : 0 < walk.next) (begins : walk.t = piece.tStart) :
    ∃ paced, Covers distance (piece.point.distance origin.point)
        (Polyline.parameterAt origin.point (piece :: rest)) walk paced ∧
      paced.t = piece.tEnd ∧ Paces distance (piece :: rest) paced walked := by
  cases paces with
  | pass empty others =>
    have none : piece.point.distance origin.point = 0 := by simpa using empty
    refine ⟨_, ?_, ?_, others⟩
    · exact .of_lt positive (none ▸ ahead) rfl (by rw [none, sub_zero])
    · rw [begins, Scalar.ofRat_real, Polyline.tStart_add_width]
  | chord same _ paces others =>
    subst same
    obtain ⟨times, next⟩ := paces.covers positive rfl
    refine ⟨_, ?_, rfl, others⟩
    refine ⟨times.trans ?_, next⟩
    congr 2
    refine List.map_congr_left fun way member => ?_
    rw [Polyline.parameterAt_of_le (mem_ticks positive member).2, begins, Scalar.ofRat_real]

/-- Along a polyline the ticks of its whole length are marked. -/
theorem Paces.covers {origin : ChordPoint ℝ} {pieces : List (ChordPoint ℝ)} {t₁ t₂ : ℚ}
    (paces : Paces distance (origin :: pieces) walk walked) (tiles : Tiles t₁ pieces t₂)
    (positive : 0 < distance) (ahead : 0 < walk.next) (begins : walk.t = t₁) :
    Covers distance (Polyline.length origin.point pieces)
      (Polyline.parameterAt origin.point pieces) walk walked := by
  induction tiles generalizing origin walk with
  | nil =>
    cases paces
    exact .of_lt positive ahead rfl (sub_zero _).symm
  | cons piece starts _ _ ih =>
    rw [← starts] at begins
    obtain ⟨paced, chord, ends, others⟩ := paces.exists_covers positive ahead begins
    have further := ih others (chord.next ▸ leftover_pos positive) ends
    refine chord.append positive (Polyline.length_nonneg _ _) further (fun _ _ => rfl) ?_
    intro way far
    rw [Polyline.parameterAt_of_lt (by linarith), add_sub_cancel_left]

end Marks

namespace Bezier

variable {distance first : ℝ}

/-- The polyline of a curve is paced off, to its last parameter, and that gives the marks. -/
theorem exists_paces (b : Bezier ℝ) (positive : 0 < distance) (ahead : 0 < first) :
    ∃ walked, Marks.Paces distance b.chordPoints ⟨[], 0, first⟩ walked ∧ walked.t = 1 ∧
      b.marks? distance first = some ⟨walked.times.reverse, walked.next⟩ := by
  have begins : (0 : ℝ) = (0 : ℚ) := Rat.cast_zero.symm
  obtain ⟨walked, paces⟩ :=
    Marks.exists_paces ⟨0, 0, b.start⟩ (b.pieces maxDepth 0 1) ⟨[], 0, first⟩ positive
  have placed : Marks.alongPieces? distance b.chordPoints ⟨[], 0, first⟩ = some walked :=
    Marks.alongPieces?_eq_some_iff.mpr paces
  refine ⟨walked, paces, (paces.t_eq b.tiles_unit begins).trans Rat.cast_one, ?_⟩
  simp [marks?, positive, ahead, placed]

/-- A first distance that is not positive stands for the distance itself. -/
theorem marks?_of_first (b : Bezier ℝ) (distance first : ℝ) :
    b.marks? distance (if 0 < first then first else distance) = b.marks? distance first := by
  simpa only [Scalar.zero_real] using b.marks?_of_least distance first

private theorem marks?_of_not_pos (b : Bezier ℝ) (first : ℝ) (none : ¬ 0 < distance) :
    b.marks? distance first = some ⟨[], if 0 < first then first else distance⟩ := by
  simp [marks?, none]

theorem first_pos (positive : 0 < distance) (first : ℝ) :
    0 < if 0 < first then first else distance := by
  split
  · assumption
  · exact positive

/-- Without rounding, marks are placed to the end of every curve. -/
theorem exists_marks (b : Bezier ℝ) (distance first : ℝ) :
    ∃ marks, b.marks? distance first = some marks := by
  by_cases positive : 0 < distance
  · obtain ⟨walked, -, -, placed⟩ := b.exists_paces positive (first_pos positive first)
    exact ⟨_, (b.marks?_of_first distance first).symm.trans placed⟩
  · exact ⟨_, b.marks?_of_not_pos first positive⟩

/-- The marks of a curve, without rounding. -/
noncomputable def marks (b : Bezier ℝ) (distance first : ℝ) : Marks ℝ :=
  (b.exists_marks distance first).choose

/-- Without rounding, the marks that are placed are the marks of the curve. -/
theorem marks?_eq (b : Bezier ℝ) (distance first : ℝ) :
    b.marks? distance first = some (b.marks distance first) :=
  (b.exists_marks distance first).choose_spec

theorem marks_eq_of {b : Bezier ℝ} {marks : Marks ℝ}
    (placed : b.marks? distance first = some marks) :
    b.marks distance first = marks :=
  Option.some.inj ((b.marks?_eq distance first).symm.trans placed)

/-- A first distance that is not positive stands for the distance itself. -/
theorem marks_of_first (b : Bezier ℝ) (distance first : ℝ) :
    b.marks distance (if 0 < first then first else distance) = b.marks distance first :=
  marks_eq_of ((b.marks?_of_first distance first).trans (b.marks?_eq distance first))

private theorem covers_of_paces {b : Bezier ℝ} {walked : Marks.Walk ℝ} (positive : 0 < distance)
    (ahead : 0 < first) (paces : Marks.Paces distance b.chordPoints ⟨[], 0, first⟩ walked) :
    Marks.Covers distance b.drawnLength b.parameterAt ⟨[], 0, first⟩ walked := by
  have begins : (0 : ℝ) = (0 : ℚ) := Rat.cast_zero.symm
  exact paces.covers b.tiles_unit positive ahead begins

/-- The marks of a curve are the ticks of its drawn length. -/
theorem times_marks (b : Bezier ℝ) (positive : 0 < distance) (ahead : 0 < first) :
    (b.marks distance first).times = (ticks distance first b.drawnLength).map b.parameterAt := by
  obtain ⟨walked, paces, -, placed⟩ := b.exists_paces positive ahead
  rw [marks_eq_of placed, (covers_of_paces positive ahead paces).times, List.append_nil,
    List.reverse_reverse]

/-- What is left to the next mark is the leftover of the drawn length. -/
theorem next_marks (b : Bezier ℝ) (positive : 0 < distance) (ahead : 0 < first) :
    (b.marks distance first).next = leftover distance first b.drawnLength := by
  obtain ⟨walked, paces, -, placed⟩ := b.exists_paces positive ahead
  rw [marks_eq_of placed, (covers_of_paces positive ahead paces).next]

/-- On a line the marks are the shares of the ticks in its length. -/
theorem marks_line (p q : Point ℝ) (positive : 0 < distance) (ahead : 0 < first) :
    (line p q).marks distance first = ⟨(ticks distance first (p.distance q)).map (· / p.distance q),
      leftover distance first (p.distance q)⟩ := by
  have times := (line p q).times_marks positive ahead
  have next := (line p q).next_marks positive ahead
  rw [drawnLength_line] at times next
  rw [← next, Marks.mk.injEq, times]
  refine ⟨List.map_congr_left fun way member => ?_, rfl⟩
  exact parameterAt_line (mem_ticks positive member).2

/-- Marks lie behind the start, and the last of them at the end at most. -/
theorem mem_times {b : Bezier ℝ} {t : ℝ} (positive : 0 < distance) (ahead : 0 < first)
    (member : t ∈ (b.marks distance first).times) : 0 < t ∧ t ≤ 1 := by
  rw [b.times_marks positive ahead] at member
  obtain ⟨way, tick, rfl⟩ := List.mem_map.mp member
  obtain ⟨after, inside⟩ := mem_ticks positive tick
  have forward := ahead.trans_le after
  exact ⟨parameterAt_pos forward inside, parameterAt_le_one forward inside⟩

/-- Marks follow each other. -/
theorem pairwise_times (b : Bezier ℝ) (positive : 0 < distance) (ahead : 0 < first) :
    (b.marks distance first).times.Pairwise (· < ·) := by
  rw [b.times_marks positive ahead, List.pairwise_map]
  refine (pairwise_ticks positive).imp_of_mem fun here there less => ?_
  exact parameterAt_lt (ahead.trans_le (mem_ticks positive here).1) less
    (mem_ticks positive there).2

/-- Whatever the distances are, the marks lie in order between the ends of the curve. -/
theorem sorted_times (b : Bezier ℝ) (distance first : ℝ) :
    ((0 : ℝ) :: ((b.marks distance first).times ++ [1])).Pairwise (· ≤ ·) := by
  by_cases positive : 0 < distance
  · have ahead := first_pos positive first
    rw [← b.marks_of_first]
    refine List.pairwise_cons.mpr ⟨fun t member => ?_, ?_⟩
    · rcases List.mem_append.mp member with marked | last
      · exact (mem_times positive ahead marked).1.le
      · rw [List.mem_singleton.mp last]
        exact zero_le_one
    · refine List.pairwise_append.mpr ⟨(b.pairwise_times positive ahead).imp le_of_lt,
        List.pairwise_singleton _ _, fun t marked last member => ?_⟩
      rw [List.mem_singleton.mp member]
      exact (mem_times positive ahead marked).2
  · simp [marks_eq_of (b.marks?_of_not_pos first positive)]

end Bezier
end XdotViewer
