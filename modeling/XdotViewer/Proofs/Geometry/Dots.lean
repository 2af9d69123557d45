import XdotViewer.Proofs.Geometry.Marking
import XdotViewer.Proofs.Geometry.Placed

/-! # Dots of a path

Each segment is dotted at every multiple of the spacing from its beginning to its end, both
included. So the dots of a path are evenly spaced but for one thing: where two segments meet at a
multiple of the spacing, both of them put a dot.
-/

namespace XdotViewer

/-- A point of the segment at a position. -/
def Placed.LiesAt (place : Placed) (position : ℝ) (p : Point ℝ) : Prop :=
  ∃ t, 0 ≤ t ∧ t ≤ 1 ∧ place.position t = position ∧ place.segment.pointAt t = p

namespace Path

variable (path : Path ℝ) (spacing : ℝ)

/-- A point of the path at a position. -/
def LiesAt (position : ℝ) (p : Point ℝ) : Prop :=
  ∃ place ∈ path.placed, place.LiesAt position p

/-- The dots of the path lie at these positions, one at each. -/
def DottedAt (positions : List ℝ) : Prop :=
  ∃ dots, path.dots? spacing = some dots ∧ List.Forall₂ path.LiesAt positions dots

/-- The dots of the path lie at the multiples of the spacing, one at each. -/
def EvenlyDotted : Prop :=
  path.DottedAt spacing
    ((List.range (⌊path.drawnLength / spacing⌋₊ + 1)).map fun i : ℕ => i * spacing)

end Path

section Segments

variable {spacing offset : ℝ}

/-- The dots of a curve, without rounding. -/
noncomputable def Bezier.dots (b : Bezier ℝ) (spacing first : ℝ) : List (Point ℝ) × ℝ :=
  let marks := b.marks spacing first
  let begin := if 0 < first then first else spacing
  ((if spacing = begin then [b.pointAt 0] else []) ++ marks.times.map b.pointAt, marks.next)

private theorem Bezier.dots?_eq (b : Bezier ℝ) (spacing first : ℝ) :
    b.dots? spacing first = some (b.dots spacing first) := by
  simp only [dots?, dots, Scalar.zero_real, marks?_eq, marks_of_first, Option.map_some,
    Scalar.beq_real, decide_eq_true_eq]

/-- A dot at the start when the next one is a whole spacing away, then one at each mark. -/
theorem Bezier.dots_eq {first : ℝ} (b : Bezier ℝ) (positive : 0 < spacing) (ahead : 0 < first) :
    b.dots spacing first = ((if spacing = first then [b.pointAt 0] else []) ++
      (ticks spacing first b.drawnLength).map (b.pointAt ∘ b.parameterAt),
      leftover spacing first b.drawnLength) := by
  simp [dots, ahead, b.times_marks positive ahead, b.next_marks positive ahead]

namespace Placed

variable (place : Placed)

/-- The dots on the segment, with the way to the next dot that is left before it. -/
noncomputable def dots (spacing : ℝ) : List (Point ℝ) × ℝ :=
  place.segment.dots spacing (leftover spacing spacing place.offset)

private theorem liesAt_offset : place.LiesAt place.offset (place.segment.pointAt 0) :=
  ⟨0, le_rfl, zero_le_one, place.position_zero, rfl⟩

private theorem liesAt_further {way : ℝ} (positive : 0 < way)
    (inside : way ≤ place.segment.drawnLength) :
    place.LiesAt (place.offset + way)
      (place.segment.pointAt (place.segment.parameterAt way)) :=
  ⟨_, (Bezier.parameterAt_pos positive inside).le, Bezier.parameterAt_le_one positive inside,
    place.position_parameterAt positive inside, rfl⟩

/-- A segment is dotted at the multiples between its ends. -/
theorem dots_lie (positive : 0 < spacing) (nonneg : 0 ≤ place.offset) :
    List.Forall₂ place.LiesAt (multiples spacing place.offset place.finish)
      (place.dots spacing).1 := by
  have ahead : 0 < leftover spacing spacing place.offset := leftover_pos positive
  have further : List.Forall₂ place.LiesAt
      ((List.Ico (⌊place.offset / spacing⌋₊ + 1) (⌊place.finish / spacing⌋₊ + 1)).map
        fun i : ℕ => i * spacing)
      ((ticks spacing (leftover spacing spacing place.offset) place.segment.drawnLength).map
        (place.segment.pointAt ∘ place.segment.parameterAt)) := by
    rw [finish, ← map_ticks_leftover positive place.segment.drawnLength_nonneg,
      List.forall₂_map_left_iff, List.forall₂_map_right_iff, List.forall₂_same]
    intro way member
    obtain ⟨after, inside⟩ := mem_ticks positive member
    exact place.liesAt_further (ahead.trans_le after) inside
  rw [dots, Bezier.dots_eq _ positive ahead]
  by_cases whole : IsMultiple spacing place.offset
  · have first := (leftover_self_eq_iff positive).mpr whole
    rw [multiples_of_isMultiple positive place.offset_le_finish whole, if_pos first.symm]
    exact .cons place.liesAt_offset further
  · have first := mt (leftover_self_eq_iff positive).mp whole
    rw [multiples_of_not_isMultiple positive nonneg whole, if_neg (Ne.symm first)]
    exact further

private theorem dots_leave (positive : 0 < spacing) :
    (place.dots spacing).2 = leftover spacing spacing place.finish := by
  rw [dots, Bezier.dots_eq _ positive (leftover_pos positive), finish,
    leftover_add positive place.segment.drawnLength_nonneg]

end Placed

/-- The positions of the dots on some segments: the multiples between the ends of each. -/
noncomputable def dotPlaces (spacing : ℝ) (places : List Placed) : List ℝ :=
  places.flatMap fun place => multiples spacing place.offset place.finish

private theorem dotPlaces_cons (place : Placed) (rest : List Placed) :
    dotPlaces spacing (place :: rest) =
      multiples spacing place.offset place.finish ++ dotPlaces spacing rest :=
  List.flatMap_cons

/-- The dots of some segments, without rounding. -/
noncomputable def Path.dotsFrom (spacing : ℝ) : ℝ → List (Bezier ℝ) → List (Point ℝ)
  | _, [] => []
  | next, b :: rest => (b.dots spacing next).1 ++ dotsFrom spacing (b.dots spacing next).2 rest

/-- Without rounding, the dots of all segments come to an end. -/
theorem Path.dotsFrom?_eq (next : ℝ) (segments : List (Bezier ℝ)) :
    dotsFrom? spacing next segments = some (dotsFrom spacing next segments) := by
  induction segments generalizing next with
  | nil => rfl
  | cons b rest ih => simp [dotsFrom?, dotsFrom, Bezier.dots?_eq, ih]

/-- The dots of the segments behind a position are the dots on each of them. -/
theorem Path.dotsFrom_eq (segments : List (Bezier ℝ)) (positive : 0 < spacing) :
    Path.dotsFrom spacing (leftover spacing spacing offset) segments =
      (placedFrom offset segments).flatMap fun place => (place.dots spacing).1 := by
  induction segments generalizing offset with
  | nil => rfl
  | cons b rest ih =>
    rw [placedFrom, List.flatMap_cons, ← ih, ← Placed.dots_leave ⟨offset, b⟩ positive]
    rfl

/-- Where no segment begins at a multiple, the multiples on all segments are those on the whole. -/
theorem dotPlaces_of_none {segments : List (Bezier ℝ)} (positive : 0 < spacing)
    (nonneg : 0 ≤ offset)
    (none : ∀ place ∈ placedFrom offset segments, ¬ IsMultiple spacing place.offset) :
    dotPlaces spacing (placedFrom offset segments) = (List.Ico (⌊offset / spacing⌋₊ + 1)
      (⌊(offset + totalLength segments) / spacing⌋₊ + 1)).map fun i : ℕ => i * spacing := by
  induction segments generalizing offset with
  | nil => simp [placedFrom, dotPlaces, totalLength]
  | cons b rest ih =>
    obtain ⟨broken, others⟩ := List.forall_mem_cons.mp none
    have ordered : offset ≤ Placed.finish ⟨offset, b⟩ :=
      (⟨offset, b⟩ : Placed).offset_le_finish
    have remains := totalLength_nonneg rest
    rw [placedFrom, dotPlaces_cons, ih (nonneg.trans ordered) others, add_totalLength_cons,
      multiples_of_not_isMultiple positive nonneg broken, ← List.map_append,
      List.Ico.append_consecutive]
    · gcongr
    · gcongr
      exact le_add_of_nonneg_right remains

open scoped Classical in
/-- Each segment that begins at a multiple has one dot more than its share of the whole. -/
theorem length_dotPlaces (segments : List (Bezier ℝ)) (positive : 0 < spacing)
    (nonneg : 0 ≤ offset) :
    (dotPlaces spacing (placedFrom offset segments)).length + ⌊offset / spacing⌋₊ =
      ⌊(offset + totalLength segments) / spacing⌋₊ +
        (placedFrom offset segments).countP fun place => IsMultiple spacing place.offset := by
  induction segments generalizing offset with
  | nil => simp [placedFrom, dotPlaces, totalLength]
  | cons b rest ih =>
    have ordered : offset ≤ Placed.finish ⟨offset, b⟩ :=
      (⟨offset, b⟩ : Placed).offset_le_finish
    have fewer : ⌊offset / spacing⌋₊ ≤ ⌊Placed.finish ⟨offset, b⟩ / spacing⌋₊ := by gcongr
    have others := ih (nonneg.trans ordered)
    rw [placedFrom, dotPlaces_cons, List.length_append, List.countP_cons, add_totalLength_cons]
    by_cases whole : IsMultiple spacing offset
    · rw [multiples_of_isMultiple positive ordered whole, if_pos (decide_eq_true whole)]
      simp only [List.length_cons, List.length_map, List.Ico.length]
      omega
    · rw [multiples_of_not_isMultiple positive nonneg whole, if_neg (by simpa using whole)]
      simp only [List.length_map, List.Ico.length]
      omega

section Whole

variable {b : Bezier ℝ} {rest : List (Bezier ℝ)}

/-- When only the first segment begins at a multiple, there is one dot at each multiple. -/
theorem dotPlaces_of_none_later (positive : 0 < spacing)
    (none : ∀ place ∈ placedFrom (Placed.finish ⟨0, b⟩) rest, ¬ IsMultiple spacing place.offset) :
    dotPlaces spacing (placedFrom 0 (b :: rest)) =
      (List.range (⌊totalLength (b :: rest) / spacing⌋₊ + 1)).map fun i : ℕ => i * spacing := by
  have length : 0 ≤ Placed.finish ⟨0, b⟩ := (⟨0, b⟩ : Placed).offset_le_finish
  have remains := totalLength_nonneg rest
  rw [placedFrom, dotPlaces_cons, dotPlaces_of_none positive length none, multiples, zero_div,
    Nat.ceil_zero, ← List.map_append, List.Ico.append_consecutive (Nat.zero_le _),
    List.Ico.zero_bot, ← add_totalLength_cons, zero_add]
  gcongr
  exact le_add_of_nonneg_right remains

private theorem none_later_of_length (positive : 0 < spacing)
    (length : (dotPlaces spacing (placedFrom 0 (b :: rest))).length =
      ⌊totalLength (b :: rest) / spacing⌋₊ + 1) :
    ∀ place ∈ placedFrom (Placed.finish ⟨0, b⟩) rest, ¬ IsMultiple spacing place.offset := by
  classical
  have count := length_dotPlaces (b :: rest) positive le_rfl
  rw [length, zero_div, Nat.floor_zero, add_zero, zero_add, placedFrom, List.countP_cons,
    if_pos (decide_eq_true IsMultiple.zero), Nat.add_left_cancel_iff] at count
  simpa using List.countP_eq_zero.mp (Nat.succ.inj count).symm

end Whole
end Segments

namespace Path

variable {spacing : ℝ}

/-- The dots of a path, without rounding. -/
noncomputable def dots (path : Path ℝ) (spacing : ℝ) : List (Point ℝ) :=
  dotsFrom spacing spacing path.segments

private theorem dottedAt_iff {path : Path ℝ} {positions : List ℝ} :
    path.DottedAt spacing positions ↔ List.Forall₂ path.LiesAt positions (path.dots spacing) := by
  have ended : path.dots? spacing = some (path.dots spacing) := dotsFrom?_eq _ _
  simp [DottedAt, ended]

/-- The dots of the path lie at the multiples on each segment. -/
theorem dots_lie (path : Path ℝ) (positive : 0 < spacing) :
    List.Forall₂ path.LiesAt (dotPlaces spacing path.placed) (path.dots spacing) := by
  have whole : leftover spacing spacing 0 = spacing :=
    (leftover_self_eq_iff positive).mpr IsMultiple.zero
  have dots : path.dots spacing = path.placed.flatMap fun place => (place.dots spacing).1 := by
    rw [placed, ← dotsFrom_eq _ positive, whole]
    rfl
  rw [dots, dotPlaces, List.flatMap, List.flatMap]
  refine List.rel_flatten ?_
  rw [List.forall₂_map_left_iff, List.forall₂_map_right_iff, List.forall₂_same]
  intro place member
  exact (place.dots_lie positive (offset_nonneg member)).imp fun _ _ lies => ⟨place, member, lies⟩

/-- The dots are evenly spaced exactly when only the first segment begins at a multiple. -/
theorem evenlyDotted_iff_none_later (path : Path ℝ) (positive : 0 < spacing) :
    path.EvenlyDotted spacing ↔ ∃ first rest, path.placed = first :: rest ∧
      ∀ place ∈ rest, ¬ IsMultiple spacing place.offset := by
  have lie := path.dots_lie positive
  rw [EvenlyDotted, dottedAt_iff, drawnLength]
  rw [placed] at lie ⊢
  cases segments : path.segments with
  | nil =>
    rw [segments] at lie
    refine ⟨fun even => ?_, fun ⟨_, _, absent, _⟩ => by cases absent⟩
    have lengths := lie.length_eq.trans even.length_eq.symm
    simp [placedFrom, dotPlaces] at lengths
  | cons b rest =>
    rw [segments] at lie
    constructor
    · intro even
      have length := lie.length_eq.trans even.length_eq.symm
      rw [List.length_map, List.length_range] at length
      exact ⟨_, _, rfl, none_later_of_length positive length⟩
    · rintro ⟨first, places, placed, none⟩
      cases placed
      rwa [dotPlaces_of_none_later positive none] at lie

/-- The dots of a path lie at the multiples of the spacing on each segment, its ends included. So
they are evenly spaced exactly when no segment but the first begins at a multiple. -/
theorem evenlyDotted_iff (path : Path ℝ) (positive : 0 < spacing) :
    path.DottedAt spacing (dotPlaces spacing path.placed) ∧
      (path.EvenlyDotted spacing ↔ ∃ first rest, path.placed = first :: rest ∧
        ∀ place ∈ rest, ¬ IsMultiple spacing place.offset) :=
  ⟨dottedAt_iff.mpr (path.dots_lie positive), path.evenlyDotted_iff_none_later positive⟩

/-- Four dots on two lines of length six, none of them where the lines meet. -/
theorem evenlyDotted_iff_sixes : (0 : ℝ) < 4 ∧
    (twoLines 6 12).DottedAt 4 (dotPlaces 4 (twoLines 6 12).placed) ∧
      (twoLines 6 12).EvenlyDotted 4 := by
  have positive : (0 : ℝ) < 4 := by norm_num
  obtain ⟨lie, even⟩ := (twoLines 6 12).evenlyDotted_iff positive
  refine ⟨positive, lie, even.mpr ⟨_, _, placed_twoLines (by norm_num), ?_⟩⟩
  rintro place member ⟨k, multiple⟩
  obtain rfl := List.mem_singleton.mp member
  have whole : (6 : ℝ) = k * 4 := multiple
  norm_cast at whole
  omega

/-- Where two lines of the length of the spacing meet, there are two dots. -/
theorem not_evenlyDotted_fours : (twoLines 4 8).IsChained ∧ ¬ (twoLines 4 8).EvenlyDotted 4 := by
  refine ⟨by simp [IsChained, twoLines, ofShape, segments, Bezier.start, Bezier.finish], ?_⟩
  rw [evenlyDotted_iff_none_later _ (by norm_num)]
  rintro ⟨first, rest, placed, none⟩
  rw [placed_twoLines (by norm_num)] at placed
  cases placed
  exact none _ (List.mem_singleton.mpr rfl) ⟨1, by norm_num⟩

end Path
end XdotViewer
