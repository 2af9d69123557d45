import XdotViewer.Proofs.Geometry.Polyline
import XdotViewer.Proofs.Geometry.Ticks

/-! # Pacing off a polyline

A walk along a polyline goes on for as long as it takes: on a chord until less remains than the way
to the next mark, then on the next chord. The walks that come to their end are those that have a
result, and a path has dashes or dots exactly if the walks along its segments do. Over the reals
each of them does; doubles may be so far apart that a walk never moves. Where another polyline
begins at the last point of a polyline, the walk goes on there as it would have begun there with the
way that was left.
-/

namespace XdotViewer

namespace Marks

section Walking

variable {α : Type} [Scalar α]

/-- The walk along what remains of a chord. The first mark may be another way ahead than the
others, and then the step changes behind it. -/
inductive PacesChord (distance length width : α) : α → α → Walk α → Walk α → Prop
  | stop {step remaining : α} {walk : Walk α} : ¬ walk.next ≤ remaining →
      PacesChord distance length width step remaining walk
        { walk with next := walk.next - remaining }
  | even {step remaining : α} {walk walked : Walk α} : walk.next ≤ remaining →
      (distance == walk.next) = true →
      PacesChord distance length width step (remaining - walk.next)
        ⟨(walk.t + step) :: walk.times, walk.t + step, walk.next⟩ walked →
      PacesChord distance length width step remaining walk walked
  | odd {step remaining : α} {walk walked : Walk α} : walk.next ≤ remaining →
      (distance == walk.next) = false →
      PacesChord distance length width (distance / length * width) (remaining - walk.next)
        ⟨(walk.t + step) :: walk.times, walk.t + step, distance⟩ walked →
      PacesChord distance length width step remaining walk walked

/-- The walk along a polyline, which passes over the pieces without length. -/
inductive Paces (distance : α) : List (ChordPoint α) → Walk α → Walk α → Prop
  | stop (last : ChordPoint α) {walk : Walk α} : Paces distance [last] walk walk
  | pass {origin piece : ChordPoint α} {rest : List (ChordPoint α)} {walk walked : Walk α} :
      (piece.point.distance origin.point == 0.0) = true →
      Paces distance (piece :: rest) { walk with t := walk.t + Scalar.ofRat piece.width } walked →
      Paces distance (origin :: piece :: rest) walk walked
  | chord {origin piece : ChordPoint α} {rest : List (ChordPoint α)} {length : α}
      {walk paced walked : Walk α} :
      piece.point.distance origin.point = length → (length == 0.0) = false →
      PacesChord distance length (Scalar.ofRat piece.width)
        (walk.next / length * Scalar.ofRat piece.width) length walk paced →
      Paces distance (piece :: rest) { paced with t := Scalar.ofRat piece.tEnd } walked →
      Paces distance (origin :: piece :: rest) walk walked

variable {distance length width step remaining : α} {walk paced walked other : Walk α}

/-- Marks are placed on a chord exactly if the walk along it comes to its end. -/
theorem onChord?_eq_some_iff :
    walk.onChord? distance length width step remaining = some walked ↔
      PacesChord distance length width step remaining walk walked := by
  constructor
  · refine Walk.onChord?.partial_correctness distance length width _ ?_ step remaining walk walked
    intro loop ih step remaining walk walked result
    split at result
    · rename_i reached
      split at result
      · rename_i whole
        exact .even reached whole (ih _ _ _ _ result)
      · rename_i other
        exact .odd reached (Bool.eq_false_iff.mpr other) (ih _ _ _ _ result)
    · rename_i short
      cases result
      exact .stop short
  · intro paces
    induction paces with
    | stop short => rw [Walk.onChord?, if_neg short]
    | even reached whole _ ih =>
      rw [Walk.onChord?, if_pos reached]
      simp only [whole, if_true, ih]
    | odd reached other _ ih =>
      rw [Walk.onChord?, if_pos reached]
      simp only [other, Bool.false_eq_true, if_false, ih]

/-- Marks are placed along a polyline exactly if the walk along it comes to its end. -/
theorem alongPieces?_eq_some_iff {origin : ChordPoint α} {pieces : List (ChordPoint α)} :
    alongPieces? distance (origin :: pieces) walk = some walked ↔
      Paces distance (origin :: pieces) walk walked := by
  constructor
  · intro result
    induction pieces generalizing origin walk with
    | nil =>
      cases result
      exact .stop origin
    | cons piece rest ih =>
      obtain ⟨middle, first, further⟩ := Option.bind_eq_some_iff.mp result
      rw [alongPiece?] at first
      split at first
      · rename_i empty
        cases first
        exact .pass empty (ih further)
      · rename_i long
        obtain ⟨paced, paces, rfl⟩ := Option.map_eq_some_iff.mp first
        exact .chord rfl (Bool.eq_false_iff.mpr long) (onChord?_eq_some_iff.mp paces) (ih further)
  · intro paces
    generalize polyline : origin :: pieces = line at paces
    induction paces generalizing origin pieces with
    | stop last =>
      cases polyline
      rfl
    | pass empty _ ih =>
      cases polyline
      refine Option.bind_eq_some_iff.mpr ⟨_, ?_, ih rfl⟩
      simp only [alongPiece?, empty, if_true]
    | chord same long paces _ ih =>
      cases polyline
      subst same
      refine Option.bind_eq_some_iff.mpr ⟨_, ?_, ih rfl⟩
      simp only [alongPiece?, long, Bool.false_eq_true, if_false, onChord?_eq_some_iff.mpr paces,
        Option.map_some]

private theorem Paces.unique {polyline : List (ChordPoint α)}
    (one : Paces distance polyline walk walked)
    (two : Paces distance polyline walk other) : walked = other := by
  cases polyline with
  | nil => cases one
  | cons origin pieces =>
    exact Option.some.inj
      ((alongPieces?_eq_some_iff.mpr one).symm.trans (alongPieces?_eq_some_iff.mpr two))

/-- Where the distance can be taken away without a change, the walk goes on for ever. -/
theorem not_pacesChord_of_stuck (whole : (distance == walk.next) = true)
    (reached : walk.next ≤ remaining) (stuck : remaining - walk.next = remaining) :
    ¬ PacesChord distance length width step remaining walk walked := by
  intro paces
  induction paces with
  | stop short => exact short reached
  | even _ _ _ ih => exact ih whole (stuck.symm ▸ reached) (by rw [stuck, stuck])
  | odd _ other _ _ =>
    rw [whole] at other
    cases other

end Walking

end Marks

section Leaving

variable {α : Type} [Scalar α] {b : Bezier α} {rest segments : List (Bezier α)}
  {distance first left : α}

namespace Bezier

/-- The marks of a curve come to its end, and from there `left` is the way to the next one. Only a
distance that is positive and finite makes marks at all. -/
inductive Leaves (b : Bezier α) (distance first : α) : α → Prop
  | unmarked : (0.0 < distance && Scalar.isFinite distance) = false →
      b.Leaves distance first (if 0.0 < first then first else distance)
  | marked {walked : Marks.Walk α} : (0.0 < distance && Scalar.isFinite distance) = true →
      Marks.Paces distance b.chordPoints ⟨[], 0.0, if 0.0 < first then first else distance⟩
        walked →
      b.Leaves distance first walked.next

/-- A curve has marks exactly if they come to its end. -/
theorem leaves_iff :
    b.Leaves distance first left ↔ ∃ times, b.marks? distance first = some ⟨times, left⟩ := by
  constructor
  · intro leaves
    cases leaves with
    | unmarked invalid =>
      refine ⟨[], ?_⟩
      rw [marks?, invalid]
      rfl
    | @marked walked valid paces =>
      refine ⟨walked.times.reverse, ?_⟩
      have walk : Marks.alongPieces? distance b.chordPoints _ = some walked :=
        Marks.alongPieces?_eq_some_iff.mpr paces
      rw [marks?, if_pos valid, walk, Option.map_some]
  · rintro ⟨times, placed⟩
    rw [marks?] at placed
    split at placed
    · rename_i valid
      obtain ⟨walked, walk, same⟩ := Option.map_eq_some_iff.mp placed
      obtain ⟨-, rfl⟩ := Marks.mk.inj same
      exact .marked valid (Marks.alongPieces?_eq_some_iff.mp walk)
    · rename_i invalid
      obtain ⟨-, rfl⟩ := Marks.mk.inj (Option.some.inj placed)
      exact .unmarked (Bool.eq_false_iff.mpr invalid)

/-- A first distance that is not positive stands for the distance itself. -/
theorem marks?_of_least (b : Bezier α) (distance first : α) :
    b.marks? distance (if 0.0 < first then first else distance) = b.marks? distance first := by
  split
  · rfl
  · rename_i short
    simp only [marks?, ite_self, if_neg short]

/-- A flat curve from whose length the distance can be taken away without a change is marked for
ever. -/
theorem not_leaves_of_stuck
    (valid : (0.0 < distance && Scalar.isFinite distance) = true) (flat : b.isFlat = true)
    (long : (b.finish.distance b.start == 0.0) = false) (whole : (distance == distance) = true)
    (reached : distance ≤ b.finish.distance b.start)
    (stuck : b.finish.distance b.start - distance = b.finish.distance b.start) :
    ¬ b.Leaves distance distance left := by
  have chord : b.chordPoints = [⟨0, 0, b.start⟩, ⟨0, 1, b.finish⟩] :=
    congrArg (List.cons _) (if_pos flat)
  intro leaves
  cases leaves with
  | unmarked invalid =>
    rw [valid] at invalid
    cases invalid
  | marked _ paces =>
    rw [chord, ite_self] at paces
    cases paces with
    | pass empty _ =>
      rw [long] at empty
      cases empty
    | chord same _ paces _ =>
      subst same
      exact Marks.not_pacesChord_of_stuck whole reached stuck paces

end Bezier

namespace Path

/-- The marks come to the end of all segments. Each goes on with the way that is left by the one
before. -/
inductive MarkedFrom (distance : α) : α → List (Bezier α) → Prop
  | nil (first : α) : MarkedFrom distance first []
  | cons {first left : α} {b : Bezier α} {rest : List (Bezier α)} :
      b.Leaves distance first left → MarkedFrom distance left rest →
      MarkedFrom distance first (b :: rest)

private theorem markedFrom_cons_iff : MarkedFrom distance first (b :: rest) ↔
    ∃ marks, b.marks? distance first = some marks ∧ MarkedFrom distance marks.next rest := by
  constructor
  · rintro (_ | ⟨leaves, further⟩)
    obtain ⟨times, placed⟩ := Bezier.leaves_iff.mp leaves
    exact ⟨_, placed, further⟩
  · rintro ⟨marks, placed, further⟩
    exact .cons (Bezier.leaves_iff.mpr ⟨marks.times, placed⟩) further

/-- What is laid along a curve is put before what is laid along the others. -/
private theorem exists_laid_iff {β σ : Type} (laid : Option (List β × σ))
    (further : σ → Option (List β)) :
    (∃ all, (do
      let (here, after) ← laid
      let others ← further after
      return here ++ others) = some all) ↔
      ∃ here, laid = some here ∧ ∃ others, further here.2 = some others := by
  constructor
  · rintro ⟨all, whole⟩
    obtain ⟨here, first, whole⟩ := Option.bind_eq_some_iff.mp whole
    obtain ⟨others, second, -⟩ := Option.bind_eq_some_iff.mp whole
    exact ⟨here, first, others, second⟩
  · rintro ⟨here, rfl, others, second⟩
    exact ⟨here.1 ++ others, Option.bind_eq_some_iff.mpr
      ⟨here, rfl, Option.bind_eq_some_iff.mpr ⟨others, second, rfl⟩⟩⟩

private theorem exists_dashesFrom?_iff (phase : DashPhase α) :
    (∃ dashes, dashesFrom? distance phase segments = some dashes) ↔
      MarkedFrom distance phase.next segments := by
  induction segments generalizing phase with
  | nil => exact iff_of_true ⟨[], rfl⟩ (.nil _)
  | cons b rest ih =>
    refine (exists_laid_iff (b.dashes? distance phase) fun after =>
      dashesFrom? distance after rest).trans ?_
    rw [markedFrom_cons_iff, Bezier.dashes?, Bezier.marks?_of_least]
    simp only [Option.map_eq_some_iff, ih, exists_exists_and_eq_and]
    rfl

private theorem exists_dotsFrom?_iff :
    (∃ dots, dotsFrom? distance first segments = some dots) ↔
      MarkedFrom distance first segments := by
  induction segments generalizing first with
  | nil => exact iff_of_true ⟨[], rfl⟩ (.nil _)
  | cons b rest ih =>
    refine (exists_laid_iff (b.dots? distance first) fun after =>
      dotsFrom? distance after rest).trans ?_
    rw [markedFrom_cons_iff, Bezier.dots?, Bezier.marks?_of_least]
    simp only [Option.map_eq_some_iff, ih, exists_exists_and_eq_and]

/-- A path has no dashes exactly if its marks do not come to its end. -/
theorem dashes?_eq_none_iff {path : Path α} :
    path.dashes? distance = none ↔ ¬ MarkedFrom distance distance path.segments := by
  rw [← exists_dashesFrom?_iff ⟨distance, true⟩, ← Option.isSome_iff_exists,
    Option.not_isSome_iff_eq_none]
  rfl

/-- A path has no dots exactly if its marks do not come to its end. -/
theorem dots?_eq_none_iff {path : Path α} :
    path.dots? distance = none ↔ ¬ MarkedFrom distance distance path.segments := by
  rw [← exists_dotsFrom?_iff, ← Option.isSome_iff_exists, Option.not_isSome_iff_eq_none]
  rfl

end Path

end Leaving

namespace Marks

section Reals

variable {distance length width step remaining : ℝ} {walk paced walked : Walk ℝ}

/-- With each mark there is one tick less to come, so the walk along a chord comes to its end. -/
theorem exists_pacesChord (length width step remaining : ℝ) (walk : Walk ℝ)
    (positive : 0 < distance) :
    ∃ walked, PacesChord distance length width step remaining walk walked := by
  induction count : tickCount distance walk.next remaining
    generalizing step remaining walk with
  | zero =>
    refine ⟨_, .stop fun reached => ?_⟩
    rw [tickCount_of_le positive reached] at count
    cases count
  | succ n ih =>
    by_cases reached : walk.next ≤ remaining
    · rw [tickCount_of_le positive reached, Nat.add_right_cancel_iff] at count
      cases whole : distance == walk.next with
      | true =>
        have same : distance = walk.next := by simpa using whole
        obtain ⟨walked, paces⟩ := ih step (remaining - walk.next)
          ⟨(walk.t + step) :: walk.times, walk.t + step, walk.next⟩ (same ▸ count)
        exact ⟨walked, .even reached whole paces⟩
      | false =>
        obtain ⟨walked, paces⟩ := ih (distance / length * width) (remaining - walk.next)
          ⟨(walk.t + step) :: walk.times, walk.t + step, distance⟩ count
        exact ⟨walked, .odd reached whole paces⟩
    · exact ⟨_, .stop reached⟩

/-- The walk along a polyline comes to its end. -/
theorem exists_paces (origin : ChordPoint ℝ) (pieces : List (ChordPoint ℝ)) (walk : Walk ℝ)
    (positive : 0 < distance) : ∃ walked, Paces distance (origin :: pieces) walk walked := by
  induction pieces generalizing origin walk with
  | nil => exact ⟨walk, .stop origin⟩
  | cons piece rest ih =>
    cases empty : piece.point.distance origin.point == 0.0 with
    | true =>
      obtain ⟨walked, paces⟩ := ih piece { walk with t := walk.t + Scalar.ofRat piece.width }
      exact ⟨walked, .pass empty paces⟩
    | false =>
      obtain ⟨paced, first⟩ := exists_pacesChord (piece.point.distance origin.point)
        (Scalar.ofRat piece.width)
        (walk.next / piece.point.distance origin.point * Scalar.ofRat piece.width)
        (piece.point.distance origin.point) walk positive
      obtain ⟨walked, paces⟩ := ih piece { paced with t := Scalar.ofRat piece.tEnd }
      exact ⟨walked, .chord rfl empty first paces⟩

/-- The walk ends at the last parameter. -/
theorem Paces.t_eq {origin : ChordPoint ℝ} {pieces : List (ChordPoint ℝ)} {t₁ t₂ : ℚ}
    (paces : Paces distance (origin :: pieces) walk walked) (tiles : Tiles t₁ pieces t₂)
    (begins : walk.t = t₁) : walked.t = t₂ := by
  induction tiles generalizing origin walk with
  | nil =>
    cases paces
    exact begins
  | cons piece starts _ _ ih =>
    cases paces with
    | pass _ rest =>
      refine ih rest ?_
      rw [begins, ← starts, Scalar.ofRat_real, Polyline.tStart_add_width]
    | chord _ _ _ rest => exact ih rest rfl

/-- A polyline that begins where another one ends is paced off behind it. -/
theorem Paces.append {first second : List (ChordPoint ℝ)} {origin : ChordPoint ℝ}
    (left : Paces distance first walk paced)
    (meets : first.getLast?.map ChordPoint.point = some origin.point)
    (right : Paces distance (origin :: second) paced walked) :
    Paces distance (first ++ second) walk walked := by
  induction left with
  | stop last =>
    have same : last.point = origin.point := Option.some.inj meets
    cases right with
    | stop => exact .stop last
    | pass empty further => exact .pass (same ▸ empty) further
    | chord long nonzero paces further => exact .chord (same ▸ long) nonzero paces further
  | pass empty _ ih => exact .pass empty (ih meets right)
  | chord long nonzero paces _ ih => exact .chord long nonzero paces (ih meets right)

end Reals

end Marks

/-- The piece with its parameters behind those of a curve that comes before. -/
def ChordPoint.later {α : Type} (piece : ChordPoint α) : ChordPoint α :=
  ⟨piece.tStart + 1, piece.tEnd + 1, piece.point⟩

private theorem ChordPoint.width_later {α : Type} (piece : ChordPoint α) :
    piece.later.width = piece.width :=
  add_sub_add_right_eq_sub _ _ _

namespace Marks

variable {distance length width step remaining : ℝ} {walk walked : Walk ℝ} (earlier : List ℝ)

/-- The walk with its parameters behind those of a curve that comes before, and with its marks. -/
def Walk.later (earlier : List ℝ) (walk : Walk ℝ) : Walk ℝ :=
  ⟨walk.times.map (· + 1) ++ earlier, walk.t + 1, walk.next⟩

private theorem PacesChord.later
    (paces : PacesChord distance length width step remaining walk walked) :
    PacesChord distance length width step remaining (walk.later earlier)
      (walked.later earlier) := by
  induction paces with
  | stop short => exact .stop short
  | @even step _ walk _ reached whole _ ih =>
    have shift : walk.t + 1 + step = walk.t + step + 1 := add_right_comm _ _ _
    refine .even reached whole ?_
    simpa only [Walk.later, shift, List.map_cons, List.cons_append] using ih
  | @odd step _ walk _ reached other _ ih =>
    have shift : walk.t + 1 + step = walk.t + step + 1 := add_right_comm _ _ _
    refine .odd reached other ?_
    simpa only [Walk.later, shift, List.map_cons, List.cons_append] using ih

/-- Behind a curve that comes before, a polyline is paced off in the same way. -/
theorem Paces.later {polyline : List (ChordPoint ℝ)} (paces : Paces distance polyline walk walked) :
    Paces distance (polyline.map ChordPoint.later) (walk.later earlier)
      (walked.later earlier) := by
  induction paces with
  | stop last => exact .stop last.later
  | @pass _ piece _ walk _ empty _ ih =>
    have shift : walk.t + 1 + Scalar.ofRat piece.width = walk.t + Scalar.ofRat piece.width + 1 :=
      add_right_comm _ _ _
    rw [List.map_cons, List.map_cons]
    refine .pass empty ?_
    simpa only [Walk.later, piece.width_later, shift, List.map_cons] using ih
  | @chord _ piece _ _ _ paced _ long nonzero paces _ ih =>
    have ends : (Scalar.ofRat piece.later.tEnd : ℝ) = Scalar.ofRat piece.tEnd + 1 := by
      rw [ChordPoint.later, Scalar.ofRat_real, Scalar.ofRat_real, Rat.cast_add, Rat.cast_one]
    rw [List.map_cons, List.map_cons]
    refine .chord long nonzero (piece.width_later.symm ▸ paces.later earlier) ?_
    rw [ends]
    exact ih

/-- The marks that a walk leaves when it paces off a polyline from its beginning. -/
def PacedOff (distance : ℝ) (polyline : List (ChordPoint ℝ)) (first : ℝ) (marks : Marks ℝ) : Prop :=
  ∃ walked, Paces distance polyline ⟨[], 0, first⟩ walked ∧
    marks = ⟨walked.times.reverse, walked.next⟩

/-- What is paced off is the result of the walk, and nothing else. -/
theorem Paces.pacedOff_iff {polyline : List (ChordPoint ℝ)} {first : ℝ} {marks : Marks ℝ}
    (paces : Paces distance polyline ⟨[], 0, first⟩ walked) :
    PacedOff distance polyline first marks ↔ marks = ⟨walked.times.reverse, walked.next⟩ := by
  constructor
  · rintro ⟨other, again, rfl⟩
    rw [paces.unique again]
  · rintro rfl
    exact ⟨walked, paces, rfl⟩

end Marks
end XdotViewer
