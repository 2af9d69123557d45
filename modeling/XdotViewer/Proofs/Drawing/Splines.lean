import XdotViewer.Proofs.Drawing.Figures

/-! # Splines

A spline takes its points in groups of four, each group beginning with the last point of the one
before it. Points that make no whole group are reported and left out, and the script goes on.
-/

namespace XdotViewer

section Groups

variable {α : Type}

/-- The segments are cubics, each through the points of its group. -/
theorem exists_group_of_lt {points : List (Point α)} {i : Nat}
    (inside : i < (points.length - 1) / 3) :
    ∃ p c d q, points[3 * i]? = some p ∧ points[3 * i + 1]? = some c ∧
      points[3 * i + 2]? = some d ∧ points[3 * i + 3]? = some q ∧
      (splineSegments points)[i]? = some (.cubic p c d q) := by
  fun_induction splineSegments points generalizing i with
  | case1 p c d q rest ih =>
    cases i with
    | zero => exact ⟨p, c, d, q, rfl, rfl, rfl, rfl, rfl⟩
    | succ i =>
      simp only [List.length_cons] at inside
      exact ih (i := i) (by simp only [List.length_cons]; omega)
  | case2 points short =>
    have none := length_splineSegments points
    rw [splineSegments.eq_2 points short, List.length_nil] at none
    omega

private theorem hasPartialSegment_iff (points : List (Point α)) : hasPartialSegment points = true ↔
    2 ≤ points.length ∧ ¬ 3 ∣ points.length - 1 := by
  fun_induction hasPartialSegment points with
  | case1 p c d q rest ih =>
    rw [ih]
    simp only [List.length_cons]
    omega
  | case2 p c rest short =>
    match rest with
    | [] | [_] => simp
    | d :: q :: rest => exact (short d q rest rfl).elim
  | case3 points short shorter =>
    match points with
    | [] | [_] => simp
    | p :: c :: rest => exact (shorter p c rest rfl).elim

end Groups

namespace Setting

variable {ι : Type} (setting : Setting ι) (entity : EntityRef)

/-- The cubics of a spline: as many as there are whole groups, each through the points of its own,
upside down as the canvas has them. -/
structure Grouped (points : List (Point Float)) (cubics : List (Bezier Float)) : Prop where
  length : cubics.length = (points.length - 1) / 3
  cubic : ∀ i < cubics.length, ∃ p c d q, points[3 * i]? = some p ∧ points[3 * i + 1]? = some c ∧
    points[3 * i + 2]? = some d ∧ points[3 * i + 3]? = some q ∧
    cubics[i]? = some (.cubic (setting.flipPoint p) (setting.flipPoint c) (setting.flipPoint d)
      (setting.flipPoint q))

private theorem grouped_splineSegments (points : List (Point Float)) :
    setting.Grouped points (splineSegments (points.map setting.flipPoint)) := by
  have length := length_splineSegments (points.map setting.flipPoint)
  refine ⟨by rw [length, List.length_map], fun i inside => ?_⟩
  obtain ⟨p, c, d, q, first, second, third, fourth, cubic⟩ := exists_group_of_lt (length ▸ inside)
  simp only [List.getElem?_map, Option.map_eq_some_iff] at first second third fourth
  obtain ⟨p, first, rfl⟩ := first
  obtain ⟨c, second, rfl⟩ := second
  obtain ⟨d, third, rfl⟩ := third
  obtain ⟨q, fourth, rfl⟩ := fourth
  exact ⟨p, c, d, q, first, second, third, fourth, cubic⟩

/-- The report on a spline, unless its groups are all whole. -/
theorem diagnostics_spline (state : ScriptState) (filled : Bool) (points : List (Point Float)) :
    (setting.execute entity state (.spline filled points)).2.diagnostics =
      if 2 ≤ points.length ∧ ¬ 3 ∣ points.length - 1 then
        [.droppedSpline (setting.scene.nameOf entity) points.length]
      else [] := by
  have partly := hasPartialSegment_iff (points.map setting.flipPoint)
  rw [List.length_map] at partly
  change (if hasPartialSegment (points.map setting.flipPoint) = true then _ else _) ++ _ = _
  simp only [partly]
  exact List.append_nil _

/-- A spline is painted in as many cubics as its points make whole groups. There is one report if
points are left over and none otherwise, and in either case the script goes on behind the points,
with the same pen. -/
theorem spline_grouped (state : ScriptState) (filled : Bool) (points : List (Point Float)) :
    let trace := (setting.execute entity state (.spline filled points)).2
    (∃ cubics, setting.Grouped points cubics ∧
      trace.ops = paintPath (.ofShape (.segments cubics)) (setting.pathStyle state filled)
        state.pen) ∧
    trace.diagnostics = (if 2 ≤ points.length ∧ ¬ 3 ∣ points.length - 1 then
        [.droppedSpline (setting.scene.nameOf entity) points.length]
      else []) ∧
    ∀ cursor after rest : Cursor,
      cursor.takeWord = (some [(OpCode.spline filled).letter], after) →
      after.takePoints = (some points, rest) →
      (Script.readFrom cursor).fault = (Script.readFrom rest).fault ∧
      setting.executeAll entity state (Script.readFrom cursor).instructions =
        trace ++ setting.executeAll entity state (Script.readFrom rest).instructions := by
  intro trace
  refine ⟨⟨_, setting.grouped_splineSegments points, rfl⟩,
    setting.diagnostics_spline entity state filled points, ?_⟩
  intro cursor after rest named counted
  have done : Instruction.read (.spline filled) after = (.ok (.spline filled points), rest) :=
    Instruction.complete_eq_ok.mpr ⟨points, counted, rfl⟩
  rw [readFrom_of_read named (OpCode.ofWord?_letter _) done]
  exact ⟨rfl, rfl⟩

/-- Six points make one cubic, and two of them are left over. -/
theorem spline_grouped_sixPoints :
    let setting := (Drawing.new {} : Drawing Unit).setting Drawing.ringDocument .minimal
    let ring : EntityRef := .graph Scene.root
    let cursor : Cursor := .ofText "B 6 0 0 1 1 2 2 3 3 4 4 5 5 c 3 -red".toList
    let rest : Cursor := .ofText "c 3 -red".toList
    ∃ points, points.length = 6 ∧
      (setting.execute ring {} (.spline false points)).2.diagnostics =
        [.droppedSpline (setting.scene.nameOf ring) 6] ∧
      (Script.readFrom rest).instructions.length = 1 ∧
      setting.executeAll ring {} (Script.readFrom cursor).instructions =
        (setting.execute ring {} (.spline false points)).2 ++
          setting.executeAll ring {} (Script.readFrom rest).instructions := by
  intro setting ring cursor rest
  let after : Cursor := .ofText "6 0 0 1 1 2 2 3 3 4 4 5 5 c 3 -red".toList
  have named : cursor.takeWord = (some [(OpCode.spline false).letter], after) := by
    decide +kernel
  have counted : after.takePoints.1.map List.length = some 6 := by decide +kernel
  have left : after.takePoints.2 = rest := by decide +kernel
  have one : (Script.readFrom rest).instructions.length = 1 := by decide +kernel
  obtain ⟨points, taken, length⟩ := Option.map_eq_some_iff.mp counted
  obtain ⟨-, reports, goesOn⟩ := setting.spline_grouped ring {} false points
  have leftOver : 2 ≤ points.length ∧ ¬ 3 ∣ points.length - 1 := by
    rw [length]
    decide
  rw [if_pos leftOver, length] at reports
  exact ⟨points, length, reports, one, (goesOn cursor after rest named (Prod.ext taken left)).2⟩

end Setting
end XdotViewer
