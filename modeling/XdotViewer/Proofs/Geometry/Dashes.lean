import XdotViewer.Proofs.Geometry.Marking
import XdotViewer.Proofs.Geometry.Placed
import XdotViewer.Proofs.Geometry.Subdividing

/-! # Dashes of a path

Dashes and gaps take turns along the whole path, all of one length, and a dash comes first. On each
segment the dashes are those of the whole path, cut at the ends of the segment: where a segment
begins, the way to the next change and whether a dash is open are those of its position.
-/

namespace XdotViewer

/-- A part of a segment, by the positions of its ends. -/
structure Dash where
  place : Placed
  begins : ℝ
  ends : ℝ

namespace Dash

def HasLength (dash : Dash) : Prop :=
  dash.begins < dash.ends

noncomputable instance : DecidablePred HasLength :=
  fun _ => Classical.propDecidable _

/-- The curve runs over this part of the segment, from the first end to the last. -/
def DrawnBy (dash : Dash) (curve : Bezier ℝ) : Prop :=
  ∃ first last, 0 ≤ first ∧ first ≤ last ∧ last ≤ 1 ∧
    dash.place.position first = dash.begins ∧ dash.place.position last = dash.ends ∧
    ∀ u, curve.pointAt u = dash.place.segment.pointAt (first + (last - first) * u)

end Dash

/-- What an interval of positions has in common with a segment; it has no length where the two do
not overlap. -/
noncomputable def Placed.clip (place : Placed) (low high : ℝ) : Dash :=
  ⟨place, max low place.offset, min high place.finish⟩

/-- The dashes on a segment: every other interval of the length, counted from the beginning of the
path. No more of them begin before the end of the segment. -/
noncomputable def Placed.dashPlaces (place : Placed) (length : ℝ) : List Dash :=
  ((List.range (⌊place.finish / length⌋₊ / 2 + 1)).map fun i : ℕ =>
    place.clip ((2 * i : ℕ) * length) ((2 * i + 1 : ℕ) * length)).filter (·.HasLength)

/-- Every other interval between two ends that is cut at some places in between. -/
def alternate {α : Type} (drawing : Bool) (low : α) : List α → α → List (α × α)
  | [], high => if drawing then [(low, high)] else []
  | place :: rest, high =>
    (if drawing then [(low, place)] else []) ++ alternate (!drawing) place rest high

section Alternate

variable {α β : Type}

private theorem map_alternate (f : α → β) (drawing : Bool) (low : α) (cuts : List α) (high : α) :
    (alternate drawing low cuts high).map (Prod.map f f) =
      alternate drawing (f low) (cuts.map f) (f high) := by
  induction cuts generalizing drawing low with
  | nil => cases drawing <;> rfl
  | cons place rest ih => cases drawing <;> simp [alternate, ih]

/-- Every second interval between sorted cuts lies between the ends, and no cut lies inside it. -/
theorem mem_alternate {drawing : Bool} {low high first last : ℝ} {cuts : List ℝ}
    (sorted : (low :: (cuts ++ [high])).Pairwise (· ≤ ·))
    (member : (first, last) ∈ alternate drawing low cuts high) :
    low ≤ first ∧ first ≤ last ∧ last ≤ high ∧ last ∈ cuts ++ [high] := by
  induction cuts generalizing drawing low with
  | nil =>
    cases drawing
    · cases member
    · obtain ⟨rfl, rfl⟩ := Prod.mk.inj (List.mem_singleton.mp member)
      exact ⟨le_rfl, by simpa using sorted, le_rfl, List.mem_singleton.mpr rfl⟩
  | cons place rest ih =>
    obtain ⟨below, later⟩ := List.pairwise_cons.mp sorted
    have step : low ≤ place := below place (by simp)
    rcases List.mem_append.mp member with here | there
    · cases drawing
      · cases here
      · obtain ⟨rfl, rfl⟩ := Prod.mk.inj (List.mem_singleton.mp here)
        exact ⟨le_rfl, step, (List.pairwise_cons.mp later).1 high (by simp), by simp⟩
    · obtain ⟨after, ordered, before, among⟩ := ih later there
      exact ⟨step.trans after, ordered, before, List.mem_cons_of_mem _ among⟩

/-- The parameters are paired so that the parts between them are every other one. -/
theorem Bezier.cut_alternate [Scalar α] (b : Bezier α) (drawing : Bool) (low high : α)
    (cuts : List α) :
    let times := if drawing then low :: cuts else cuts
    b.cut (if times.length % 2 == 1 then times ++ [high] else times) =
      (alternate drawing low cuts high).map fun ends => b.between ends.1 ends.2 := by
  induction cuts generalizing drawing low with
  | nil => cases drawing <;> rfl
  | cons place rest ih =>
    cases drawing with
    | false =>
      simpa [alternate] using ih true place
    | true =>
      have later := ih false place
      simp only [Bool.false_eq_true, if_false] at later
      simp only [if_true, alternate, List.length_cons, List.map_cons, Bool.not_true, ← later,
        List.cons_append, List.nil_append]
      have parity : (rest.length + 1 + 1) % 2 = rest.length % 2 := by omega
      rw [parity]
      split <;> rfl

private theorem filter_even_range (m : ℕ) : (List.range (m + 1)).filter (fun k => Even k) =
    (List.range (m / 2 + 1)).map fun i => 2 * i := by
  induction m with
  | zero => rfl
  | succ m ih =>
    rw [List.range_succ, List.filter_append, ih]
    rcases Nat.even_or_odd (m + 1) with even | odd
    · have half : (m + 1) / 2 = m / 2 + 1 := by grind
      have last : [m + 1].filter (fun k => Even k) = [2 * (m / 2 + 1)] := by
        rw [List.filter_singleton, decide_eq_true even, cond_true]
        grind
      rw [half, last, List.range_succ (n := m / 2 + 1), List.map_append]
      rfl
    · have half : (m + 1) / 2 = m / 2 := by grind
      rw [half]
      simp [odd]

/-- An interval between neighbouring multiples of a length, cut at two ends. -/
noncomputable def cutInterval (length low high : ℝ) (k : ℕ) : ℝ × ℝ :=
  (max (k * length) low, min ((k + 1) * length) high)

/-- Between the ends the cuts are multiples of the length, and every other interval is left. -/
theorem alternate_multiples {length low high : ℝ} {n count : ℕ} (positive : 0 < length)
    (before : n * length ≤ low) (after : low < (n + 1) * length)
    (reached : (n + count) * length ≤ high) (beyond : high < (n + count + 1) * length) :
    alternate (decide (Even n)) low ((List.range' (n + 1) count).map fun k : ℕ => k * length) high =
      ((List.range' n (count + 1)).filter fun k => Even k).map (cutInterval length low high) := by
  induction count generalizing n low with
  | zero =>
    rw [Nat.cast_zero, add_zero] at beyond
    by_cases even : Even n <;> simp [alternate, cutInterval, even, before, beyond.le]
  | succ count ih =>
    have start : ((n + 1 : ℕ) : ℝ) = n + 1 := Nat.cast_succ n
    have among : (0 : ℝ) ≤ count * length := mul_nonneg count.cast_nonneg positive.le
    push_cast at reached beyond
    have later : alternate (decide (Even (n + 1))) ((n + 1) * length)
        ((List.range' (n + 1 + 1) count).map fun k : ℕ => k * length) high =
          ((List.range' (n + 1) (count + 1)).filter fun k => Even k).map
            (cutInterval length ((n + 1) * length) high) :=
      ih (by rw [start]) (by rw [start]; linarith) (by rw [start]; linarith)
        (by rw [start]; linarith)
    -- The later intervals lie behind both ends, so it does not matter which one cuts them.
    have same : ∀ k ∈ (List.range' (n + 1) (count + 1)).filter fun k => Even k,
        cutInterval length ((n + 1) * length) high k = cutInterval length low high k := by
      intro k member
      have behind : (n + 1) * length ≤ k * length := by
        have counted := (List.mem_range'_1.mp (List.mem_of_mem_filter member)).1
        gcongr
        exact_mod_cast counted
      rw [cutInterval, cutInterval, max_eq_left behind, max_eq_left (after.le.trans behind)]
    have turn : (!decide (Even n)) = decide (Even (n + 1)) := by
      by_cases even : Even n <;> simp [Nat.even_add_one, even]
    have whole : (n + 1) * length ≤ high := by linarith
    rw [List.range'_succ, List.map_cons, alternate, start, turn, later, List.map_congr_left same,
      List.range'_succ (s := n)]
    by_cases even : Even n <;> simp [cutInterval, even, before, whole]

end Alternate

/-- The phase at a position: the way to the next multiple of the length, and whether the number of
those before it is even. -/
noncomputable def phaseAt (length position : ℝ) : DashPhase ℝ :=
  ⟨leftover length length position, decide (Even ⌊position / length⌋₊)⟩

section Segments

variable {length : ℝ}

/-- The dashes of a curve, without rounding. -/
noncomputable def Bezier.dashes (b : Bezier ℝ) (length : ℝ) (phase : DashPhase ℝ) :
    List (Bezier ℝ) × DashPhase ℝ :=
  b.dashesBetween phase.drawing (b.marks length phase.next)

private theorem Bezier.dashes?_eq (b : Bezier ℝ) (length : ℝ) (phase : DashPhase ℝ) :
    b.dashes? length phase = some (b.dashes length phase) := by
  simp [dashes?, dashes, marks?_eq, marks_of_first]

/-- The dashes of a curve are every other part between the marks. -/
theorem Bezier.fst_dashes (b : Bezier ℝ) (phase : DashPhase ℝ) :
    (b.dashes length phase).1 =
      (alternate phase.drawing 0 (b.marks length phase.next).times 1).map
        fun ends => b.between ends.1 ends.2 := by
  have pairs := b.cut_alternate phase.drawing 0 1 (b.marks length phase.next).times
  simpa [dashes, dashesBetween] using pairs

private theorem Bezier.snd_dashes (b : Bezier ℝ) (phase : DashPhase ℝ) :
    (b.dashes length phase).2 = ⟨(b.marks length phase.next).next,
      ((if phase.drawing then 1 else 0) + (b.marks length phase.next).times.length) % 2 == 1⟩ := by
  cases drawing : phase.drawing <;> simp [dashes, dashesBetween, drawing, Nat.add_comm]

namespace Placed

variable (place : Placed)

private theorem floor_offset_le (positive : 0 < length) :
    ⌊place.offset / length⌋₊ ≤ ⌊place.finish / length⌋₊ := by
  gcongr
  exact place.offset_le_finish

/-- The parameters of the marks on the segment, with the phase of its position. -/
noncomputable def marks (length : ℝ) : List ℝ :=
  (place.segment.marks length (phaseAt length place.offset).next).times

/-- The dashes that are drawn on the segment, those without length included. -/
noncomputable def drawn (length : ℝ) : List Dash :=
  (alternate (phaseAt length place.offset).drawing 0 (place.marks length) 1).map fun ends =>
    ⟨place, place.position ends.1, place.position ends.2⟩

/-- Behind the position of the segment, the marks are at the multiples of the length. -/
theorem map_position_marks (positive : 0 < length) :
    (place.marks length).map place.position =
      (List.Ico (⌊place.offset / length⌋₊ + 1) (⌊place.finish / length⌋₊ + 1)).map
        fun k : ℕ => k * length := by
  have ahead : 0 < leftover length length place.offset := leftover_pos positive
  rw [marks, phaseAt, place.segment.times_marks positive ahead, List.map_map, finish,
    ← map_ticks_leftover positive place.segment.drawnLength_nonneg]
  refine List.map_congr_left fun way member => ?_
  obtain ⟨after, inside⟩ := mem_ticks positive member
  exact place.position_parameterAt (ahead.trans_le after) inside

/-- A segment passes the phase of its position on to that of its end. -/
theorem phase_dashes (positive : 0 < length) :
    (place.segment.dashes length (phaseAt length place.offset)).2 =
      phaseAt length place.finish := by
  have ahead : 0 < (phaseAt length place.offset).next := leftover_pos positive
  have fewer := place.floor_offset_le positive
  have count := congrArg List.length (place.map_position_marks positive)
  rw [marks, List.length_map, List.length_map, List.Ico.length, Nat.add_sub_add_right] at count
  rw [Bezier.snd_dashes, place.segment.next_marks positive ahead, count, phaseAt,
    phaseAt, DashPhase.mk.injEq]
  refine ⟨(leftover_add positive place.segment.drawnLength_nonneg).symm, ?_⟩
  rw [Bool.eq_iff_iff]
  simp only [beq_iff_eq, decide_eq_true_iff, Nat.even_iff]
  split <;> omega

/-- Each dash that is drawn on the segment is the part of the curve between its ends. -/
theorem drawnBy_dashes (positive : 0 < length) :
    List.Forall₂ Dash.DrawnBy (place.drawn length)
      (place.segment.dashes length (phaseAt length place.offset)).1 := by
  have ahead : 0 < (phaseAt length place.offset).next := leftover_pos positive
  have behind : ∀ t ∈ place.marks length ++ [1], 0 < t := by
    intro t member
    rcases List.mem_append.mp member with marked | last
    · exact (Bezier.mem_times positive ahead marked).1
    · rw [List.mem_singleton.mp last]
      exact zero_lt_one
  have sorted : ((0 : ℝ) :: (place.marks length ++ [1])).Pairwise (· ≤ ·) :=
    place.segment.sorted_times length _
  rw [Bezier.fst_dashes, drawn, List.forall₂_map_left_iff, List.forall₂_map_right_iff,
    ← marks, List.forall₂_same]
  intro ends member
  obtain ⟨nonneg, ordered, before, among⟩ := mem_alternate sorted member
  exact ⟨ends.1, ends.2, nonneg, ordered, before, rfl, rfl, fun u =>
    place.segment.pointAt_between u ends.1 (behind _ among)⟩

/-- The dash that an interval between multiples of the length leaves on the segment. -/
noncomputable def dashAt (length : ℝ) (k : ℕ) : Dash :=
  ⟨place, max (k * length) place.offset, min ((k + 1) * length) place.finish⟩

/-- What is drawn on the segment are the even intervals between its ends. -/
theorem drawn_eq (positive : 0 < length) (nonneg : 0 ≤ place.offset) : place.drawn length =
    ((List.Ico ⌊place.offset / length⌋₊ (⌊place.finish / length⌋₊ + 1)).filter
      fun k => Even k).map (place.dashAt length) := by
  have positions : place.drawn length = ((alternate (phaseAt length place.offset).drawing 0
      (place.marks length) 1).map (Prod.map place.position place.position)).map
        fun ends => ⟨place, ends.1, ends.2⟩ := by
    rw [List.map_map]
    rfl
  obtain ⟨count, total⟩ := Nat.exists_eq_add_of_le (place.floor_offset_le positive)
  have reached := floor_mul_le positive (nonneg.trans place.offset_le_finish)
  have beyond : place.finish < _ := lt_floor_add_one_mul positive
  rw [total, Nat.cast_add] at reached beyond
  rw [positions, map_alternate, place.map_position_marks positive, position_zero, position_one,
    total, List.Ico, List.Ico, Nat.add_sub_add_right, Nat.add_sub_cancel_left, Nat.add_assoc,
    Nat.add_sub_cancel_left, phaseAt, alternate_multiples positive (floor_mul_le positive nonneg)
      (lt_floor_add_one_mul positive) reached beyond, List.map_map]
  rfl

/-- The dashes are the even ones of the intervals that begin before the end of the segment. -/
theorem dashPlaces_eq : place.dashPlaces length =
    (((List.range (⌊place.finish / length⌋₊ + 1)).filter fun k => Even k).map
      (place.dashAt length)).filter (·.HasLength) := by
  rw [filter_even_range, List.map_map, dashPlaces]
  congr 2
  funext i
  simp only [clip, dashAt, Function.comp_apply, Nat.cast_succ]

/-- The intervals before the segment leave nothing on it. -/
theorem filter_drawn (positive : 0 < length) (nonneg : 0 ≤ place.offset) :
    (place.drawn length).filter (·.HasLength) = place.dashPlaces length := by
  have earlier : (((List.Ico 0 ⌊place.offset / length⌋₊).filter fun k => Even k).map
      (place.dashAt length)).filter (·.HasLength) = [] := by
    refine List.filter_eq_nil_iff.mpr fun dash member => ?_
    obtain ⟨k, counted, rfl⟩ := List.mem_map.mp member
    have before : (k + 1) * length ≤ place.offset := by
      refine le_trans ?_ (floor_mul_le positive nonneg)
      gcongr
      exact_mod_cast (List.Ico.mem.mp (List.mem_of_mem_filter counted)).2
    rw [decide_eq_true_iff, Dash.HasLength, not_lt, dashAt]
    exact (min_le_left _ _).trans (before.trans (le_max_right _ _))
  rw [place.dashPlaces_eq, place.drawn_eq positive nonneg, ← List.Ico.zero_bot,
    ← List.Ico.append_consecutive (Nat.zero_le _)
      ((place.floor_offset_le positive).trans (Nat.le_succ _)), List.filter_append,
    List.map_append, List.filter_append, earlier, List.nil_append]

end Placed

/-- The dashes of some segments, without rounding. -/
noncomputable def Path.dashesFrom (length : ℝ) : DashPhase ℝ → List (Bezier ℝ) → List (Bezier ℝ)
  | _, [] => []
  | phase, b :: rest =>
    (b.dashes length phase).1 ++ dashesFrom length (b.dashes length phase).2 rest

/-- Without rounding, the dashes of all segments come to an end. -/
theorem Path.dashesFrom?_eq (phase : DashPhase ℝ) (segments : List (Bezier ℝ)) :
    dashesFrom? length phase segments = some (dashesFrom length phase segments) := by
  induction segments generalizing phase with
  | nil => rfl
  | cons b rest ih => simp [dashesFrom?, dashesFrom, Bezier.dashes?_eq, ih]

/-- Each segment passes the phase on, so what is drawn behind a position is drawn segment by
segment. -/
theorem dashesFrom_drawnBy {offset : ℝ} (segments : List (Bezier ℝ)) (positive : 0 < length) :
    List.Forall₂ Dash.DrawnBy ((placedFrom offset segments).flatMap fun place => place.drawn length)
      (Path.dashesFrom length (phaseAt length offset) segments) := by
  induction segments generalizing offset with
  | nil => exact .nil
  | cons b rest ih =>
    have first := Placed.drawnBy_dashes ⟨offset, b⟩ positive
    have phase := Placed.phase_dashes ⟨offset, b⟩ positive
    rw [placedFrom, List.flatMap_cons, Path.dashesFrom, phase]
    exact List.rel_append first ih

end Segments

namespace Path

/-- The dashes of a path are those of the whole length, cut at the ends of its segments and drawn
in order. Some that have no length may be drawn between them. -/
theorem dashes_drawn {length : ℝ} (path : Path ℝ) (positive : 0 < length) :
    ∃ dashes, path.dashes? length = some dashes ∧
      ∃ drawn : List Dash, List.Forall₂ Dash.DrawnBy drawn dashes ∧
        drawn.filter (·.HasLength) = path.placed.flatMap fun place => place.dashPlaces length := by
  have start : (⟨length, true⟩ : DashPhase ℝ) = phaseAt length 0 := by
    rw [phaseAt, (leftover_self_eq_iff positive).mpr IsMultiple.zero]
    simp
  refine ⟨_, dashesFrom?_eq _ _, path.placed.flatMap fun place => place.drawn length, ?_, ?_⟩
  · rw [start]
    exact dashesFrom_drawnBy path.segments positive
  · rw [List.filter_flatMap]
    refine List.flatMap_congr fun place member => ?_
    exact place.filter_drawn positive (offset_nonneg member)

/-- Two lines of length fifteen: the gap between the dashes lies where they meet. -/
theorem dashes_drawn_fifteens : (0 : ℝ) < 10 ∧
    ∃ dashes, (twoLines 15 30).dashes? 10 = some dashes ∧
      ∃ drawn : List Dash, List.Forall₂ Dash.DrawnBy drawn dashes ∧
        drawn.filter (·.HasLength) = [⟨⟨0, .line ⟨0, 0⟩ ⟨15, 0⟩⟩, 0, 10⟩,
          ⟨⟨15, .line ⟨15, 0⟩ ⟨30, 0⟩⟩, 20, 30⟩] := by
  have positive : (0 : ℝ) < 10 := by norm_num
  obtain ⟨dashes, ended, drawn, draws, whole⟩ := (twoLines 15 30).dashes_drawn positive
  refine ⟨positive, dashes, ended, drawn, draws, whole.trans ?_⟩
  have middle : Placed.finish ⟨0, .line ⟨0, 0⟩ ⟨15, 0⟩⟩ = 15 := by
    norm_num [Placed.finish, Bezier.drawnLength_line, Point.distance_level]
  have finish : Placed.finish ⟨15, .line ⟨15, 0⟩ ⟨30, 0⟩⟩ = 30 := by
    norm_num [Placed.finish, Bezier.drawnLength_line, Point.distance_level]
  have one : ⌊(15 : ℝ) / 10⌋₊ = 1 :=
    (Nat.floor_eq_iff (by norm_num)).mpr (by norm_num)
  have three : ⌊(30 : ℝ) / 10⌋₊ = 3 := by norm_num
  rw [placed_twoLines (by norm_num)]
  simp only [List.flatMap_cons, List.flatMap_nil, Placed.dashPlaces, middle, finish, one, three]
  norm_num [List.range_succ, Placed.clip, Dash.HasLength, List.filter_cons, middle, finish]

end Path
end XdotViewer
