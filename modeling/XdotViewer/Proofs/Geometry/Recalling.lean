import XdotViewer.Geometry.Path.Memo
import XdotViewer.Proofs.Geometry.Reals

/-! # Memories that do not show

A memory holds a curve when every filled cell has the value that follows from the curve. Each
reading of such a memory answers as the curve does, and leaves a memory that holds the curve,
whichever cells were filled before. The same is said of a path, whose segments hold their curves.
Nothing here needs exact arithmetic: a cell is filled by the computation that it saves.
-/

namespace XdotViewer

/-- In a state that holds a value, the reading answers with what follows from the value, and it
leaves a state that holds the value. -/
def Answers {σ γ β : Type} (holds : σ → γ → Prop) (read : StateM σ β) (value : γ → β) : Prop :=
  ∀ state content, holds state content →
    (read.run state).1 = value content ∧ holds (read.run state).2 content

namespace Answers

variable {σ γ β δ : Type} {holds : σ → γ → Prop} {read : StateM σ β} {value : γ → β}

private theorem pure (answer : β) : Answers holds (Pure.pure answer) fun _ => answer :=
  fun _ _ held => ⟨rfl, held⟩

/-- Readings one after the other answer with what follows from the same value. -/
theorem bind {next : β → StateM σ δ} {further : β → γ → δ} (first : Answers holds read value)
    (second : ∀ answer, Answers holds (next answer) (further answer)) :
    Answers holds (read >>= next) fun content => further (value content) content := by
  intro state content held
  obtain ⟨answer, kept⟩ := first state content held
  have run : (read >>= next).run state = (next (read.run state).1).run (read.run state).2 := rfl
  rw [run, answer]
  exact second _ _ content kept

/-- What is made of an answer follows from the value, too. -/
theorem map (f : β → δ) (answers : Answers holds read value) :
    Answers holds (do return f (← read)) fun content => f (value content) :=
  answers.bind fun answer => .pure (f answer)

private theorem ite {other : StateM σ β} {value' : γ → β} (choice : Bool)
    (yes : Answers holds read value) (no : Answers holds other value') :
    Answers holds (if choice then read else other)
      fun content => if choice then value content else value' content := by
  cases choice with
  | true => exact yes
  | false => exact no

/-- A filled cell answers for the work; an empty one is filled with what the work comes to. -/
theorem remember {cell : σ → Option β} {fill : β → σ → σ}
    (agrees : ∀ {state content}, holds state content →
      ∀ answer ∈ cell state, answer = value content)
    (filled : ∀ {state content}, holds state content → holds (fill (value content) state) content)
    (worked : Answers holds read value) : Answers holds (remember cell fill read) value := by
  intro state content held
  cases known : cell state with
  | some answer =>
    have same : (XdotViewer.remember cell fill read).run state = (answer, state) := by
      simp only [XdotViewer.remember, StateT.run_bind, StateT.run_get, known, pure_bind]
      rfl
    rw [same]
    exact ⟨agrees held answer known, held⟩
  | none =>
    obtain ⟨answer, kept⟩ := worked state content held
    have new : (XdotViewer.remember cell fill read).run state =
        ((read.run state).1, fill (read.run state).1 (read.run state).2) := by
      simp only [XdotViewer.remember, StateT.run_bind, StateT.run_get, known, pure_bind]
      rfl
    rw [new, answer]
    exact ⟨rfl, filled kept⟩

private theorem of_eq {value' : γ → β} (answers : Answers holds read value)
    (same : ∀ content, value content = value' content) : Answers holds read value' :=
  fun state content held =>
    let ⟨answer, kept⟩ := answers state content held
    ⟨answer.trans (same content), kept⟩

end Answers

namespace Bezier

variable {α : Type} [Scalar α]

/-- Every filled cell has the value that follows from the curve. -/
structure Cells.Agree (cells : Cells α) (b : Bezier α) : Prop where
  box : ∀ value ∈ cells.box, value = b.box
  polygonLength : ∀ value ∈ cells.polygonLength, value = b.polygonLength
  chordLength : ∀ value ∈ cells.chordLength, value = b.chordLength
  halves : ∀ value ∈ cells.halves, value = b.split 0.5
  chordPoints : ∀ value ∈ cells.chordPoints, value = b.chordPoints
  coefficients : ∀ value ∈ cells.coefficients, value = (b.xCoefficients, b.yCoefficients)

namespace Memo

/-- The memory is one of the curve. -/
structure Holds (memo : Memo α) (b : Bezier α) : Prop where
  curve : memo.curve = b
  cells : memo.cells.Agree b

/-- A memory in which nothing is filled holds its curve. -/
theorem holds_new (b : Bezier α) : Holds { curve := b } b where
  curve := rfl
  cells := by constructor <;> simp

private theorem answers_ofCurve {β : Type} (value : Bezier α → β) :
    Answers Holds (ofCurve value) value :=
  fun _ _ holds => ⟨congrArg value holds.curve, holds⟩

theorem answers_box : Answers (Holds (α := α)) box Bezier.box :=
  .remember (fun held => held.cells.box)
    (fun held => { held with cells := { held.cells with box := by simp } })
    (answers_ofCurve _)

/-- A filled cell answers with what is in it, right or wrong. -/
example (memo : Memo α) (r : Rect α) : (box.run { memo with cells.box := some r }).1 = r :=
  rfl

theorem answers_polygonLength : Answers (Holds (α := α)) polygonLength Bezier.polygonLength :=
  .remember (fun held => held.cells.polygonLength)
    (fun held => { held with cells := { held.cells with polygonLength := by simp } })
    (answers_ofCurve _)

theorem answers_chordLength : Answers (Holds (α := α)) chordLength Bezier.chordLength :=
  .remember (fun held => held.cells.chordLength)
    (fun held => { held with cells := { held.cells with chordLength := by simp } })
    (answers_ofCurve _)

private theorem answers_halves : Answers (Holds (α := α)) halves (Bezier.split 0.5) :=
  .remember (fun held => held.cells.halves)
    (fun held => { held with cells := { held.cells with halves := by simp } })
    (answers_ofCurve _)

theorem answers_coefficients : Answers (Holds (α := α)) coefficients
    fun b => (b.xCoefficients, b.yCoefficients) :=
  .remember (fun held => held.cells.coefficients)
    (fun held => { held with cells := { held.cells with coefficients := by simp } })
    (answers_ofCurve _)

private theorem answers_isFlat : Answers (Holds (α := α)) isFlat Bezier.isFlat := by
  have rest := fun chord : α => Answers.ite (Scalar.isFinite chord)
    (answers_polygonLength.map fun length => decide (length ≤ (1.0 + flatness) * chord))
    (.pure true)
  refine (answers_chordLength.bind rest).of_eq fun b => ?_
  cases finite : Scalar.isFinite b.chordLength <;> simp [Bezier.isFlat, finite]

private theorem answers_pieces (depth : ℕ) (t₁ t₂ : ℚ) :
    Answers (Holds (α := α)) (pieces depth t₁ t₂) fun b => b.pieces depth t₁ t₂ := by
  induction depth generalizing t₁ t₂ with
  | zero => exact answers_ofCurve _
  | succ depth ih =>
    have both := answers_halves.map fun halves : Bezier α × Bezier α =>
      ((pieces depth t₁ (t₁ + (t₂ - t₁) / 2)).run { curve := halves.1 }).1 ++
        ((pieces depth (t₁ + (t₂ - t₁) / 2) t₂).run { curve := halves.2 }).1
    have rest := fun flat : Bool =>
      Answers.ite flat (answers_ofCurve fun b : Bezier α => [⟨t₁, t₂, b.finish⟩]) both
    refine (answers_isFlat.bind rest).of_eq fun b => ?_
    -- Each half has a memory of its own, which is still empty.
    simp only [(ih _ _ _ _ (holds_new _)).1]
    rfl

theorem answers_chordPoints : Answers (Holds (α := α)) chordPoints Bezier.chordPoints :=
  .remember (fun held => held.cells.chordPoints)
    (fun held => { held with cells := { held.cells with chordPoints := by simp } })
    ((answers_ofCurve Bezier.start).bind fun start =>
      (answers_pieces maxDepth 0 1).map fun pieces => ⟨0, 0, start⟩ :: pieces)

theorem answers_isNearBox (x y tolerance : α) :
    Answers Holds (isNearBox x y tolerance) fun b => b.isNearBox x y tolerance :=
  answers_box.map fun box => box.contains x y tolerance

theorem answers_isNear (x y tolerance : α) :
    Answers Holds (isNear x y tolerance) fun b => b.isNear x y tolerance := by
  have rest := fun inside : Bool => Answers.ite inside
    (answers_chordPoints.map fun points =>
      isNearPolyline x y tolerance (points.map ChordPoint.point))
    (.pure false)
  refine ((answers_isNearBox x y tolerance).bind rest).of_eq fun b => ?_
  cases near : b.isNearBox x y tolerance <;> simp [Bezier.isNear, near]

/-- A memory that is moved holds the curve that is moved. -/
theorem Holds.offset {memo : Memo α} {b : Bezier α} (holds : memo.Holds b) (dx dy : α) :
    (memo.offset dx dy).Holds (b.offset dx dy) := by
  rw [Memo.offset, holds.curve]
  exact holds_new _

end Memo
end Bezier

namespace Path

variable {α : Type} [Scalar α]

/-- Segments that follow from the shape are the built ones, if there are any. -/
theorem segments_of_implied {shape : Shape α} (implied : shape.isSegments = false)
    (built : Option (List (Bezier α))) : segments ⟨shape, built⟩ = built.getD shape.toSegments := by
  cases shape with
  | segments list => cases implied
  | polygon points => cases built <;> rfl
  | rect r => cases built <;> rfl
  | ellipse e => cases built <;> rfl

@[simp] theorem Source.toSegments_keep (source : Source α) (list : List (Bezier.Memo α)) :
    (source.keep list).toSegments = list := by
  cases source <;> rfl

namespace Memo

/-- The memory is one of a path with the same segments. -/
structure Holds (memo : Memo α) (path : Path α) : Prop where
  segments : List.Forall₂ Bezier.Memo.Holds memo.source.toSegments path.segments
  box : ∀ box ∈ memo.box, box = path.box?

private theorem Holds.keep {memo : Memo α} {path : Path α} (held : memo.Holds path)
    {list : List (Bezier.Memo α)} (segments : List.Forall₂ Bezier.Memo.Holds list path.segments) :
    Holds { memo with source := memo.source.keep list } path where
  segments := by rwa [Source.toSegments_keep]
  box := held.box

/-- Memories in which nothing is filled hold their curves. -/
theorem holds_map_new (curves : List (Bezier α)) :
    List.Forall₂ Bezier.Memo.Holds (curves.map fun b => { curve := b }) curves :=
  List.forall₂_map_left_iff.mpr (List.forall₂_same.mpr fun b _ => Bezier.Memo.holds_new b)

private theorem curves_of_holds {list : List (Bezier.Memo α)} {curves : List (Bezier α)}
    (held : List.Forall₂ Bezier.Memo.Holds list curves) : list.map Bezier.Memo.curve = curves := by
  induction held with
  | nil => rfl
  | cons first _ ih => rw [List.map_cons, first.curve, ih]

/-- The path that stands for a memory has its segments. -/
theorem segments_path (memo : Memo α) :
    memo.path.segments = memo.source.toSegments.map Bezier.Memo.curve := by
  obtain ⟨source, box⟩ := memo
  cases source with
  | own list => rfl
  | derived shape implied built =>
    rw [path, segments_of_implied implied]
    cases built with
    | none => exact (curves_of_holds (holds_map_new shape.toSegments)).symm
    | some list => rfl

private theorem Holds.segments_eq {memo : Memo α} {path : Path α} (held : memo.Holds path) :
    memo.path.segments = path.segments :=
  (segments_path memo).trans (curves_of_holds held.segments)

/-- A reading that goes on with the segments may rely on them, and on what the path keeps. -/
theorem answers_withSegments {β : Type} {next : List (Bezier.Memo α) → StateM (Memo α) β}
    {value : Path α → β}
    (after : ∀ memo path, Holds memo path → ∀ list,
      List.Forall₂ Bezier.Memo.Holds list path.segments →
        ((next list).run memo).1 = value path ∧ ((next list).run memo).2.Holds path) :
    Answers Holds (segments >>= next) value :=
  fun _ path held => after _ path (held.keep held.segments) _ held.segments

/-- A reading of the segments answers as it does for every path with these segments. -/
theorem answers_ofSegments {β : Type} {value : Path α → β}
    (same : ∀ {p q : Path α}, p.segments = q.segments → value p = value q) :
    Answers Holds (ofSegments value) value :=
  answers_withSegments fun _ _ held _ _ => ⟨same held.segments_eq, held⟩

theorem answers_box? : Answers (Holds (α := α)) box? Path.box? :=
  .remember (fun held => held.box) (fun held => { held with box := by simp })
    (answers_ofSegments fun {p q} same => by rw [Path.box?, Path.box?, same])

theorem answers_isNearBox (x y tolerance : α) :
    Answers Holds (isNearBox x y tolerance) fun path => path.isNearBox x y tolerance :=
  answers_box?.map fun box : Option (Rect α) =>
    box.any fun box : Rect α => box.contains x y tolerance

/-- The segments after the first near one are not asked, and stay as they are. -/
theorem anyNear_eq (x y tolerance : α) {list : List (Bezier.Memo α)} {curves : List (Bezier α)}
    (held : List.Forall₂ Bezier.Memo.Holds list curves) :
    (anyNear x y tolerance list).1 = curves.any (fun b => b.isNear x y tolerance) ∧
      List.Forall₂ Bezier.Memo.Holds (anyNear x y tolerance list).2 curves := by
  induction held with
  | nil => exact ⟨rfl, .nil⟩
  | @cons memo b list curves first rest ih =>
    obtain ⟨answer, kept⟩ := Bezier.Memo.answers_isNear x y tolerance memo b first
    rw [anyNear, List.any_cons]
    generalize (Bezier.Memo.isNear x y tolerance).run memo = asked at answer kept
    obtain ⟨near, after⟩ := asked
    obtain rfl : near = b.isNear x y tolerance := answer
    cases b.isNear x y tolerance with
    | true => exact ⟨rfl, .cons kept rest⟩
    | false => exact ⟨ih.1, .cons kept ih.2⟩

private theorem answers_isNearSegment (x y tolerance : α) :
    Answers Holds (isNearSegment x y tolerance) fun path =>
      path.segments.any fun b => b.isNear x y tolerance :=
  answers_withSegments fun _ _ held _ holds =>
    let near := anyNear_eq x y tolerance holds
    ⟨near.1, held.keep near.2⟩

theorem answers_isNear (x y tolerance : α) :
    Answers Holds (isNear x y tolerance) fun path => path.isNear x y tolerance := by
  have rest := fun inside : Bool =>
    Answers.ite inside (answers_isNearSegment x y tolerance) (.pure false)
  refine ((answers_isNearBox x y tolerance).bind rest).of_eq fun path => ?_
  cases near : path.isNearBox x y tolerance <;> simp [Path.isNear, near]

private theorem holds_getElem? {list : List (Bezier.Memo α)} {curves : List (Bezier α)}
    (held : List.Forall₂ Bezier.Memo.Holds list curves) (i : ℕ) :
    Option.Rel Bezier.Memo.Holds list[i]? curves[i]? := by
  induction held generalizing i with
  | nil => exact .none
  | cons first rest ih =>
    cases i with
    | zero => exact .some first
    | succ i => exact ih i

/-- A segment may be put in the place of one that held the same curve. -/
theorem holds_set {list : List (Bezier.Memo α)} {curves : List (Bezier α)}
    (held : List.Forall₂ Bezier.Memo.Holds list curves) {i : ℕ} {b : Bezier α}
    (there : curves[i]? = some b) {memo : Bezier.Memo α} (kept : memo.Holds b) :
    List.Forall₂ Bezier.Memo.Holds (list.set i memo) curves := by
  induction held generalizing i with
  | nil => cases there
  | cons first rest ih =>
    cases i with
    | zero =>
      obtain rfl : _ = b := Option.some.inj there
      exact .cons kept rest
    | succ i => exact .cons first (ih there)

/-- A reading of one segment answers as the segment does. -/
theorem answers_ofSegment {β : Type} {read : StateM (Bezier.Memo α) β} {value : Bezier α → β}
    (i : ℕ) (answers : Answers Bezier.Memo.Holds read value) :
    Answers Holds (ofSegment i read) fun path => path.segments[i]?.map value := by
  refine answers_withSegments fun memo path held list holds => ?_
  have place := holds_getElem? holds i
  generalize found : list[i]? = segment at place
  generalize there : path.segments[i]? = curve at place
  cases place with
  | none => exact ⟨rfl, held⟩
  | some same =>
    obtain ⟨answer, kept⟩ := answers _ _ same
    exact ⟨congrArg some answer, held.keep (holds_set holds there kept)⟩

end Memo
end Path
end XdotViewer
