import XdotViewer.Proofs.Drawing.Leftovers
import XdotViewer.Proofs.Geometry.WholeNumbers

/-! # The far edges of regions

The place and the extent of a region are held in the range of words one by one, but its far edges
are the sums, which wrap around when they leave the range. A region answers for the pixels between
its edges exactly if neither sum does.
-/

namespace XdotViewer

namespace Region

/-- The number is one of those that words hold. -/
def InWord (value : ℤ) : Prop :=
  -2 ^ 63 ≤ value ∧ value < 2 ^ 63

instance (value : ℤ) : Decidable (InWord value) :=
  inferInstanceAs (Decidable (_ ∧ _))

/-- Both far edges of a region are words. -/
structure Fits (region : Region) : Prop where
  right : InWord (region.left.toInt + region.width.toInt)
  bottom : InWord (region.top.toInt + region.height.toInt)

instance (region : Region) : Decidable region.Fits :=
  decidable_of_iff (InWord (region.left.toInt + region.width.toInt) ∧
    InWord (region.top.toInt + region.height.toInt))
    ⟨fun both => ⟨both.1, both.2⟩, fun fits => ⟨fits.right, fits.bottom⟩⟩

/-- Whether a coordinate lies between two edges, with the sum of words that may wrap around. -/
def isWithin (start extent : Int64) (x : Float) : Bool :=
  floatOfInt64 start ≤ x && x ≤ floatOfInt64 (start + extent)

/-- Whether a coordinate lies between two edges, with the sum of whole numbers. -/
def isBetween (start extent : ℤ) (x : Float) : Bool :=
  floatOfInt start ≤ x && x ≤ floatOfInt (start + extent)

/-- Whether a region goes from before a point to behind it. -/
def covers (region : Region) (x y : Float) : Bool :=
  isBetween region.left.toInt region.width.toInt x &&
    isBetween region.top.toInt region.height.toInt y

/-- A region contains what lies within both of its extents. -/
theorem contains_eq (region : Region) (x y : Float) : region.contains x y =
    (isWithin region.left region.width x && isWithin region.top region.height y) := by
  simp only [contains, isWithin, Bool.and_assoc]

variable {start extent : Int64}

private theorem toInt_add_of_fits (fits : InWord (start.toInt + extent.toInt)) :
    (start + extent).toInt = start.toInt + extent.toInt := by
  obtain ⟨low, high⟩ := fits
  rw [Int64.toInt_add, Int.bmod]
  omega

private theorem isWithin_of_fits (fits : InWord (start.toInt + extent.toInt)) (x : Float) :
    isWithin start extent x = isBetween start.toInt extent.toInt x := by
  have edge : floatOfInt64 (start + extent) = floatOfInt (start.toInt + extent.toInt) := by
    rw [← toInt_add_of_fits fits]
    rfl
  rw [isWithin, isBetween, edge]
  rfl

private theorem natAbs_lt_of_bounds {v : ℤ} (low : -2 ^ 64 ≤ v) (high : v ≤ 2 ^ 64) :
    v.natAbs < 2 ^ 200 := by
  have : v.natAbs ≤ 2 ^ 64 := by omega
  exact this.trans_lt (by norm_num)

/-- A sum that is too great wraps around to a negative number, so that the pixel at the near edge is
not found. -/
theorem exists_missed (above : 2 ^ 63 ≤ start.toInt + extent.toInt) :
    ∃ x, isBetween start.toInt extent.toInt x = true ∧ isWithin start extent x = false := by
  have := start.toInt_lt
  have := extent.toInt_lt
  have wrapped : (start + extent).toInt = start.toInt + extent.toInt - 2 ^ 64 := by
    rw [Int64.toInt_add, Int.bmod]
    omega
  have near : start.toInt.natAbs < 2 ^ 200 := natAbs_lt_of_bounds (by omega) (by omega)
  refine ⟨floatOfInt start.toInt, ?_, ?_⟩
  · have front : start.toInt.natAbs.log2 < 63 := (Nat.log2_lt (by omega)).mpr (by omega)
    have back : 63 ≤ (start.toInt + extent.toInt).natAbs.log2 :=
      (Nat.le_log2 (by omega)).mpr (by omega)
    have far := natAbs_lt_of_bounds (v := start.toInt + extent.toInt) (by omega) (by omega)
    rw [isBetween, Bool.and_eq_true, decide_eq_true_eq, decide_eq_true_eq]
    exact ⟨Double.floatOfInt_le_self near,
      Double.floatOfInt_le_of_log2 (by omega) (by omega) (by omega) near far⟩
  · have signs : (start + extent).toInt.sign < start.toInt.sign := by
      rw [Int.sign_eq_neg_one_of_neg (by omega), Int.sign_eq_one_of_pos (by omega)]
      decide
    have less : floatOfInt (start + extent).toInt < floatOfInt start.toInt :=
      Double.floatOfInt_lt_of_sign signs (natAbs_lt_of_bounds (by omega) (by omega)) near
    rw [isWithin, Bool.and_eq_false_iff]
    exact .inr (decide_eq_false (Double.not_le_of_lt less))

/-- A sum that is too small wraps around to a number that is not negative, and the pixel there is
found. -/
theorem exists_mistaken (below : start.toInt + extent.toInt < -2 ^ 63) :
    ∃ x, isBetween start.toInt extent.toInt x = false ∧ isWithin start extent x = true := by
  have := start.le_toInt
  have := extent.le_toInt
  have wrapped : (start + extent).toInt = start.toInt + extent.toInt + 2 ^ 64 := by
    rw [Int64.toInt_add, Int.bmod]
    omega
  have far : (start + extent).toInt.natAbs < 2 ^ 200 := natAbs_lt_of_bounds (by omega) (by omega)
  have negative {v : ℤ} (less : v < 0) : v.sign < (start + extent).toInt.sign := by
    rw [Int.sign_eq_neg_one_of_neg less]
    have := Int.sign_nonneg_iff.mpr (show 0 ≤ (start + extent).toInt by omega)
    omega
  have bounded {v : ℤ} (low : -2 ^ 64 ≤ v) (less : v < 0) :
      floatOfInt v < floatOfInt (start + extent).toInt :=
    Double.floatOfInt_lt_of_sign (negative less) (natAbs_lt_of_bounds low (by omega)) far
  refine ⟨floatOfInt (start + extent).toInt, ?_, ?_⟩
  · rw [isBetween, Bool.and_eq_false_iff]
    exact .inr (decide_eq_false (Double.not_le_of_lt (bounded (by omega) (by omega))))
  · rw [isWithin, Bool.and_eq_true, decide_eq_true_eq, decide_eq_true_eq]
    exact ⟨Scalar.Ordered.le_of_lt (bounded (by omega) (by omega)), Double.floatOfInt_le_self far⟩

/-- Between two edges all pixels are told right exactly if their sum does not wrap around. -/
theorem inWord_iff : InWord (start.toInt + extent.toInt) ↔
    ∀ x, isWithin start extent x = isBetween start.toInt extent.toInt x := by
  constructor
  · exact isWithin_of_fits
  · intro alike
    by_contra unfit
    have beyond : 2 ^ 63 ≤ start.toInt + extent.toInt ∨ start.toInt + extent.toInt < -2 ^ 63 := by
      unfold InWord at unfit
      omega
    rcases beyond with above | below
    · obtain ⟨x, inside, missed⟩ := exists_missed above
      rw [← alike, missed] at inside
      cases inside
    · obtain ⟨x, outside, found⟩ := exists_mistaken below
      rw [← alike, found] at outside
      cases outside

private theorem Fits.contains_eq {region : Region} (fits : region.Fits) (x y : Float) :
    region.contains x y = region.covers x y := by
  rw [Region.contains_eq, isWithin_of_fits fits.right, isWithin_of_fits fits.bottom, covers]

private theorem fits_iff (region : Region) : region.Fits ↔
    (∀ x, isWithin region.left region.width x =
      isBetween region.left.toInt region.width.toInt x) ∧
    ∀ y, isWithin region.top region.height y =
      isBetween region.top.toInt region.height.toInt y := by
  rw [← inWord_iff, ← inWord_iff]
  exact ⟨fun fits => ⟨fits.right, fits.bottom⟩, fun ⟨right, bottom⟩ => ⟨right, bottom⟩⟩

end Region

private theorem toInt_int64OfFloat (value : Float) :
    (int64OfFloat value).toInt = toInt64Range value := by
  obtain ⟨low, high⟩ : Int64.minValue.toInt ≤ toInt64Range value ∧
      toInt64Range value ≤ Int64.maxValue.toInt :=
    Binary64.toIntWithin_mem (by decide) (by decide) (Binary64.ofFloat value)
  exact Int64.toInt_ofInt_of_le low (high.trans_lt (by decide))

namespace Setting

variable {ι : Type} {setting : Setting ι}

/-- A number of pixels as a region holds it. -/
def held (pixels : Float) : ℤ :=
  toInt64Range (roundHalfAway pixels)

/-- The place and the extent of a box, each held in the range of words, have their sums in it. -/
structure BoxFits (setting : Setting ι) (box : Rect Float) : Prop where
  right : Region.InWord (held (setting.zoom * box.left + setting.options.padding) +
    held (setting.zoom * box.width))
  bottom : Region.InWord (held (setting.zoom * box.top + setting.options.padding) +
    held (setting.zoom * box.height))

private theorem fits_regionOf_iff {entity : EntityRef} {box : Rect Float} :
    (setting.regionOf entity box).Fits ↔ setting.BoxFits box := by
  constructor
  · rintro ⟨right, bottom⟩
    simp only [regionOf, region, toInt_int64OfFloat] at right bottom
    exact ⟨right, bottom⟩
  · rintro ⟨right, bottom⟩
    constructor <;> simp only [regionOf, region, toInt_int64OfFloat]
    · exact right
    · exact bottom

end Setting

namespace Drawing

variable {ι : Type} {drawing : Drawing ι} {fits : Nat → Nat → Bool} {document : Document}

/-- On a canvas that takes its size, a full pass over a document that has been read keeps a region
for each box that it keeps, with far edges that are words exactly if the held numbers of each box
have their sums in the range. A region whose edges are words tells the pixels between them right on
either axis, and no other one does. If all edges are words, then a pixel belongs to the last of the
entities whose region covers it. -/
theorem pass_regions_fit_iff {reading : Palettes} {text : String}
    (read : Document.read reading text = .ok document) (palettes : Palettes)
    (takes : fits (drawing.canvasSize document).1 (drawing.canvasSize document).2 = true) :
    let setting := drawing.setting document palettes
    let left := (drawing.pass fits document palettes true).drawing
    ((∀ region ∈ left.overlay.regions, region.Fits) ↔
      ∀ one ∈ left.boxes.entries, setting.BoxFits one.2) ∧
    (∀ region ∈ left.overlay.regions, region.Fits ↔
      (∀ x, Region.isWithin region.left region.width x =
        Region.isBetween region.left.toInt region.width.toInt x) ∧
      ∀ y, Region.isWithin region.top region.height y =
        Region.isBetween region.top.toInt region.height.toInt y) ∧
    ((∀ region ∈ left.overlay.regions, region.Fits) → ∀ x y,
      (∀ region ∈ left.overlay.regions, region.contains x y = region.covers x y) ∧
      left.overlay.entityAt? x y = (left.boxes.entries.filter fun one =>
        (setting.regionOf one.1 one.2).covers x y).getLast?.map Prod.fst) := by
  intro setting left
  obtain ⟨found, rest, whole, covers, -⟩ := exists_covers palettes takes
  obtain ⟨strict, kind, valid⟩ := Document.exists_wellFormed_of_read read
  have distinct : (found.map Prod.fst ++ rest).Nodup :=
    whole ▸ valid.toFiled.nodup_drawOrder.filter _
  have entries : left.boxes.entries = found := by
    have boxes : left.boxes = .ofList found := covers.boxes
    rw [boxes, OrderedMap.entries_ofList distinct.of_append_left]
  have elements : left.overlay.elements =
      left.boxes.entries.flatMap fun one => setting.elementsOf one.1 one.2 := by
    rw [entries]
    exact congrArg Overlay.elements covers.overlay
  have regions := setting.regions_of_elements elements
  refine ⟨?_, fun region _ => region.fits_iff, fun all x y => ?_⟩
  · rw [regions, List.forall_mem_map]
    exact forall₂_congr fun one _ => Setting.fits_regionOf_iff
  · have alike : ∀ region ∈ left.overlay.regions, region.contains x y = region.covers x y :=
      fun region member => (all region member).contains_eq x y
    refine ⟨alike, ?_⟩
    rw [setting.entityAt?_of_elements elements]
    congr 2
    refine List.filter_congr fun one member => alike _ ?_
    rw [regions]
    exact List.mem_map_of_mem member

/-- A graph and a node in it, on a canvas of 112 pixels each way. -/
theorem pass_regions_fit_iff_smallGraph :
    let text := "digraph G \x7b graph [bb=\"0,0,72,72\", _draw_=\"c 3 -red\"]; " ++
      "a [pos=\"36,36\", _draw_=\"E 36 36 9 9\"]; \x7d"
    let drawing : Drawing Unit := .new {}
    ∃ document, Document.read .minimal text = .ok document ∧
      let left := (drawing.pass (fun _ _ => true) document .minimal true).drawing
      (∀ region ∈ left.overlay.regions, region.Fits) ∧
        ∀ x y, ∀ region ∈ left.overlay.regions, region.contains x y = region.covers x y := by
  intro text drawing
  let root : RootStatement := ⟨false, .directed, "G"⟩
  let statements : List String := ["graph [bb=\"0,0,72,72\", _draw_=\"c 3 -red\"]",
    "a [pos=\"36,36\", _draw_=\"E 36 36 9 9\"]", "\x7d"]
  have found : Document.findRoot? (statementTexts text.toList) =
      some ([], root, statements.map String.toList) := by decide +kernel
  let document : Document :=
    .finish ((Assembly.start root []).run .minimal (statements.map String.toList))
  have read : Document.read .minimal text = .ok document := by rw [Document.read, found]
  have fit : ∀ region ∈ (drawing.pass (fun _ _ => true) document .minimal
      true).drawing.overlay.regions, region.Fits := by decide +kernel
  obtain ⟨-, -, alike⟩ :=
    @pass_regions_fit_iff Unit drawing (fun _ _ => true) document .minimal text read .minimal rfl
  exact ⟨document, read, fit, fun x y => (alike fit x y).1⟩

/-- The graph is wider than any word: its region covers a pixel, which belongs to nobody. -/
theorem not_pass_regions_fit_wideGraph :
    let text := "digraph G \x7b graph [bb=\"0,0,1e300,72\", _draw_=\"c 3 -red\"]; \x7d"
    ∃ document, Document.read .minimal text = .ok document ∧
      let left := ((Drawing.new {} : Drawing Unit).pass (fun _ _ => true) document .minimal
        true).drawing
      (∃ region ∈ left.overlay.regions, ¬ region.Fits ∧ region.covers 100.0 40.0 = true) ∧
        left.overlay.entityAt? 100.0 40.0 = none := by
  intro text
  let root : RootStatement := ⟨false, .directed, "G"⟩
  let statements : List String := ["graph [bb=\"0,0,1e300,72\", _draw_=\"c 3 -red\"]", "\x7d"]
  have found : Document.findRoot? (statementTexts text.toList) =
      some ([], root, statements.map String.toList) := by decide +kernel
  let document : Document :=
    .finish ((Assembly.start root []).run .minimal (statements.map String.toList))
  have read : Document.read .minimal text = .ok document := by rw [Document.read, found]
  exact ⟨document, read, by decide +kernel⟩

end Drawing

end XdotViewer
