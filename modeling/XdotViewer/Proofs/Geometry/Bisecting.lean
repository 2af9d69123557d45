import XdotViewer.Proofs.Geometry.Subdividing

/-! # Bisected curves

Bisecting a curve again and again divides its parameter range into dyadic intervals of one length.
The pieces of a flattened curve are parts of that kind, from bisections of different depths: they
follow one another over the whole range, and each of them is flat unless it comes from as many
bisections as are allowed. This holds of any scalars, numbers or not. In exact arithmetic each piece
also ends at the point of the curve.
-/

namespace XdotViewer.Bezier

section Parts

variable {α : Type} [Scalar α]

/-- The parts of a curve that is bisected so many times, in order. -/
def parts : ℕ → Bezier α → List (Bezier α)
  | 0, b => [b]
  | times + 1, b => parts times (b.split 0.5).1 ++ parts times (b.split 0.5).2

/-- With each bisection there are twice as many parts. -/
@[simp] theorem length_parts (times : ℕ) (b : Bezier α) : (b.parts times).length = 2 ^ times := by
  induction times generalizing b with
  | zero => rfl
  | succ times ih => rw [parts, List.length_append, ih, ih, pow_succ, mul_two]

private theorem getElem?_parts_first {times m : ℕ} {b part : Bezier α}
    (found : ((b.split 0.5).1.parts times)[m]? = some part) :
    (b.parts (times + 1))[m]? = some part := by
  obtain ⟨inside, _⟩ := List.getElem?_eq_some_iff.mp found
  rw [parts, List.getElem?_append_left inside, found]

private theorem getElem?_parts_second {times m : ℕ} {b part : Bezier α}
    (found : ((b.split 0.5).2.parts times)[m]? = some part) :
    (b.parts (times + 1))[2 ^ times + m]? = some part := by
  rw [parts, List.getElem?_append_right (by simp), length_parts, Nat.add_sub_cancel_left, found]

/-- A piece covers the interval of a part, and ends where the part does. The part is flat unless it
comes from the last bisection there may be. -/
def EndsPart (depth : ℕ) (b : Bezier α) (t₁ t₂ : ℚ) (piece : ChordPoint α) : Prop :=
  ∃ times ≤ depth, ∃ m : ℕ, ∃ part, (b.parts times)[m]? = some part ∧
    piece.tStart = t₁ + m / 2 ^ times * (t₂ - t₁) ∧
    piece.tEnd = t₁ + (m + 1) / 2 ^ times * (t₂ - t₁) ∧
    piece.point = part.finish ∧ (times < depth → part.isFlat = true)

variable {depth : ℕ} {b : Bezier α} {t₁ t₂ : ℚ} {piece : ChordPoint α}

private theorem endsPart_whole (flat : 0 < depth → b.isFlat = true) :
    b.EndsPart depth t₁ t₂ ⟨t₁, t₂, b.finish⟩ :=
  ⟨0, Nat.zero_le _, 0, b, rfl, by simp, by simp, rfl, flat⟩

private theorem EndsPart.first
    (half : (b.split 0.5).1.EndsPart depth t₁ (t₁ + (t₂ - t₁) / 2) piece) :
    b.EndsPart (depth + 1) t₁ t₂ piece := by
  obtain ⟨times, fewer, m, part, found, start, finish, point, flat⟩ := half
  refine ⟨times + 1, by omega, m, part, getElem?_parts_first found, ?_, ?_, point,
    fun less => flat (by omega)⟩
  · rw [start, pow_succ]
    field_simp
    ring
  · rw [finish, pow_succ]
    field_simp
    ring

private theorem EndsPart.second
    (half : (b.split 0.5).2.EndsPart depth (t₁ + (t₂ - t₁) / 2) t₂ piece) :
    b.EndsPart (depth + 1) t₁ t₂ piece := by
  obtain ⟨times, fewer, m, part, found, start, finish, point, flat⟩ := half
  refine ⟨times + 1, by omega, 2 ^ times + m, part, getElem?_parts_second found, ?_, ?_, point,
    fun less => flat (by omega)⟩
  · rw [start, pow_succ]
    push_cast
    field_simp
    ring
  · rw [finish, pow_succ]
    push_cast
    field_simp
    ring

private theorem endsPart_of_mem_pieces (member : piece ∈ b.pieces depth t₁ t₂) :
    b.EndsPart depth t₁ t₂ piece := by
  induction depth generalizing b t₁ t₂ with
  | zero =>
    obtain rfl := List.mem_singleton.mp member
    exact endsPart_whole fun more => absurd more (lt_irrefl 0)
  | succ depth ih =>
    simp only [pieces] at member
    split at member
    case isTrue flat =>
      obtain rfl := List.mem_singleton.mp member
      exact endsPart_whole fun _ => flat
    case isFalse =>
      rcases List.mem_append.mp member with left | right
      · exact (ih left).first
      · exact (ih right).second

private theorem length_pieces_le (depth : ℕ) (b : Bezier α) (t₁ t₂ : ℚ) :
    (b.pieces depth t₁ t₂).length ≤ 2 ^ depth := by
  induction depth generalizing b t₁ t₂ with
  | zero => exact le_rfl
  | succ depth ih =>
    simp only [pieces]
    split
    · exact Nat.one_le_two_pow
    · rw [List.length_append, pow_succ, mul_two]
      exact Nat.add_le_add (ih _ _ _) (ih _ _ _)

/-- After a piece that ends where the range begins, each piece begins where the one before ends. -/
theorem isChain_pieces {previous : ChordPoint α} (meets : t₁ = previous.tEnd) :
    (previous :: b.pieces depth t₁ t₂).IsChain fun before piece => piece.tStart = before.tEnd := by
  induction depth generalizing b t₁ t₂ previous with
  | zero => exact .cons_cons meets (.singleton _)
  | succ depth ih =>
    simp only [pieces]
    split
    · exact .cons_cons meets (.singleton _)
    · obtain ⟨last, found, ends, _⟩ :=
        getLast?_pieces depth (b.split 0.5).1 t₁ (t₁ + (t₂ - t₁) / 2)
      have second : (last :: (b.split 0.5).2.pieces depth (t₁ + (t₂ - t₁) / 2) t₂).IsChain
          fun before piece => piece.tStart = before.tEnd := ih ends.symm
      obtain ⟨joint, later⟩ := List.isChain_cons.mp second
      rw [← List.cons_append, List.isChain_append]
      refine ⟨ih meets, later, fun x isLast => ?_⟩
      rw [List.getLast?_cons, found, Option.getD_some, Option.mem_some_iff] at isLast
      rwa [← isLast]

/-- The polygon that stands for a curve: from its start to its end, along the ends of parts that
follow one another over the whole parameter range. The part that ends at a vertex is flat unless it
comes from as many bisections as are allowed. -/
structure Flattens (b : Bezier α) (vertices : List (ChordPoint α)) : Prop where
  bounded : vertices.length ≤ 2 ^ maxDepth + 1
  begins : vertices.head? = some ⟨0, 0, b.start⟩
  meets : vertices.IsChain fun before piece => piece.tStart = before.tEnd
  parts : ∀ piece ∈ vertices.tail, ∃ times ≤ maxDepth, piece.width = 1 / 2 ^ times ∧
    ∃ m : ℕ, ∃ part, (b.parts times)[m]? = some part ∧ piece.tStart = m / 2 ^ times ∧
      piece.tEnd = (m + 1) / 2 ^ times ∧ piece.point = part.finish ∧
      (times < maxDepth → part.isFlat = true)
  ends : ∃ last, vertices.getLast? = some last ∧ last.tEnd = 1 ∧ last.point = b.finish

/-- Every curve is flattened, over doubles as over the reals. -/
theorem flattens_chordPoints (b : Bezier α) : b.Flattens b.chordPoints where
  bounded := Nat.add_le_add_right (length_pieces_le maxDepth b 0 1) 1
  begins := rfl
  meets := isChain_pieces rfl
  parts piece member := by
    obtain ⟨times, fewer, m, part, found, start, finish, point, flat⟩ :=
      endsPart_of_mem_pieces member
    rw [sub_zero, mul_one, zero_add] at start finish
    refine ⟨times, fewer, ?_, m, part, found, start, finish, point, flat⟩
    rw [ChordPoint.width, start, finish]
    ring
  ends := by
    obtain ⟨last, found, ends, point⟩ := getLast?_pieces maxDepth b 0 1
    exact ⟨last, by rw [chordPoints, List.getLast?_cons, found, Option.getD_some], ends, point⟩

end Parts

/-- In exact arithmetic a part runs through the points of the curve over its interval. -/
theorem pointAt_of_parts {times m : ℕ} {b part : Bezier ℝ} (u : ℝ)
    (found : (b.parts times)[m]? = some part) :
    part.pointAt u = b.pointAt ((m + u) / 2 ^ times) := by
  induction times generalizing b m with
  | zero =>
    obtain ⟨inside, rfl⟩ := List.getElem?_eq_some_iff.mp found
    obtain rfl : m = 0 := by simpa [parts] using inside
    simp [parts]
  | succ times ih =>
    rw [parts] at found
    rcases lt_or_ge m (2 ^ times) with first | second
    · rw [List.getElem?_append_left (by simpa using first)] at found
      rw [ih found, pointAt_split_left, pow_succ]
      congr 1
      norm_num
      ring
    · rw [List.getElem?_append_right (by simpa using second), length_parts] at found
      rw [ih found, pointAt_split_right, pow_succ, Nat.cast_sub second]
      congr 1
      push_cast
      field_simp
      norm_num
      ring

private theorem point_eq_pointAt {b : Bezier ℝ} {piece : ChordPoint ℝ}
    (member : piece ∈ b.chordPoints) :
    piece.point = b.pointAt piece.tEnd := by
  rcases List.mem_cons.mp member with rfl | later
  · simp
  · obtain ⟨times, _, _, m, part, found, _, finish, point, _⟩ :=
      b.flattens_chordPoints.parts piece later
    rw [point, finish, ← pointAt_one, pointAt_of_parts 1 found]
    push_cast
    rfl

/-- Flattening tiles the parameter range of a curve, whatever its coordinates are, and in exact
arithmetic the vertices are points of the curve. -/
theorem chordPoints_tile :
    (∀ {α : Type} [Scalar α] (b : Bezier α), b.Flattens b.chordPoints) ∧
      ∀ b : Bezier ℝ, ∀ piece ∈ b.chordPoints, piece.point = b.pointAt piece.tEnd :=
  ⟨fun b => b.flattens_chordPoints, fun _ _ => point_eq_pointAt⟩

/-- A curve that goes out and back is bisected into two flat parts, which meet where it turns. -/
theorem chordPoints_tile_outAndBack :
    let outAndBack : Bezier ℝ := quadratic ⟨0, 0⟩ ⟨1, 0⟩ ⟨0, 0⟩
    let turn : ChordPoint ℝ := ⟨0, 1 / 2, ⟨1 / 2, 0⟩⟩
    outAndBack.Flattens outAndBack.chordPoints ∧ turn ∈ outAndBack.chordPoints ∧
      turn.point = outAndBack.pointAt turn.tEnd := by
  intro outAndBack turn
  have first : (outAndBack.split 0.5).1 = quadratic ⟨0, 0⟩ ⟨1 / 2, 0⟩ ⟨1 / 2, 0⟩ := by
    norm_num [outAndBack, split, Point.between_eq]
  have bent : outAndBack.isFlat = false := by
    norm_num [outAndBack, isFlat, chordLength, polygonLength, Scalar.sum, points, start, finish,
      Point.distance_level]
  have flat : (outAndBack.split 0.5).1.isFlat = true := by
    rw [first]
    norm_num [isFlat, flatness, chordLength, polygonLength, Scalar.sum, points, start, finish,
      Point.distance_level, abs_of_pos]
  have piece : turn ∈ (outAndBack.split 0.5).1.pieces 23 0 (0 + (1 - 0) / 2) := by
    rw [pieces, if_pos flat, first]
    norm_num [finish, turn]
  have found : turn ∈ outAndBack.chordPoints := by
    rw [chordPoints, maxDepth, pieces, if_neg (by simp [bent])]
    exact List.mem_cons_of_mem _ (List.mem_append_left _ piece)
  exact ⟨chordPoints_tile.1 outAndBack, found, chordPoints_tile.2 outAndBack turn found⟩

end XdotViewer.Bezier
