import Mathlib.Algebra.Order.Round
import Mathlib.Topology.Instances.Real.Lemmas
import XdotViewer.Color.Hsv
import XdotViewer.Proofs.Geometry.Reals

/-! # The hue circle in exact arithmetic

A channel of a color is its value, dimmed by a share of its saturation. In each sector of the hue
circle one channel is not dimmed at all and one by the whole saturation, and the share of the third
goes evenly from the one end to the other. Where two sectors meet their shares agree, and after six
sectors they come round again.
-/

namespace XdotViewer

@[simp] theorem Scalar.toInt_intCast (n : ℤ) : Scalar.toInt (n : ℝ) = n := by
  change (if 0 ≤ (n : ℝ) then ⌊(n : ℝ)⌋ else ⌈(n : ℝ)⌉) = n
  rw [Int.floor_intCast, Int.ceil_intCast, ite_self]

/-- The channels of a color in order, without its opacity. -/
def Color.levels (color : Color) : List ℤ :=
  [color.red.toNat, color.green.toNat, color.blue.toNat]

namespace Hsv

open Filter Topology

/-- The value without a share of the saturation. -/
noncomputable def dimmed (saturation value share : ℝ) : ℝ :=
  value * (1 - share * saturation)

/-- The channels of which these shares are taken off. -/
noncomputable def dim (saturation value : ℝ) (shares : ℝ × ℝ × ℝ) : ℝ × ℝ × ℝ :=
  (dimmed saturation value shares.1, dimmed saturation value shares.2.1,
    dimmed saturation value shares.2.2)

/-- The shares of red, green and blue in a sector, at a fraction of it. -/
def shares (sector : ℤ) (fraction : ℝ) : ℝ × ℝ × ℝ :=
  match sector % 6 with
  | 0 => (0, 1 - fraction, 1)
  | 1 => (fraction, 0, 1)
  | 2 => (1, 0, 1 - fraction)
  | 3 => (1, fraction, 0)
  | 4 => (1 - fraction, 1, 0)
  | _ => (0, 1, fraction)

section Sectors

variable (sector : ℤ) (fraction : ℝ)

private theorem sector_cases : sector % 6 = 0 ∨ sector % 6 = 1 ∨ sector % 6 = 2 ∨ sector % 6 = 3 ∨
    sector % 6 = 4 ∨ sector % 6 = 5 := by
  omega

/-- After six sectors the shares come round again. -/
theorem shares_add_six : shares (sector + 6) fraction = shares sector fraction := by
  rw [shares, shares, Int.add_emod_right]

/-- The shares at the end of a sector are those at the beginning of the next one. -/
theorem shares_one : shares sector 1 = shares (sector + 1) 0 := by
  have next : (sector + 1) % 6 = (sector % 6 + 1) % 6 := (Int.emod_add_emod sector 6 1).symm
  rcases sector_cases sector with h | h | h | h | h | h <;> simp [shares, next, h]

private theorem continuous_shares : Continuous (shares sector) := by
  unfold shares
  split <;> fun_prop

end Sectors

variable (hue : ℝ) {saturation value : ℝ}

private theorem channels_eq (saturation value : ℝ) : channels hue saturation value =
    dim saturation value (shares ⌊6 * hue⌋ (Int.fract (6 * hue))) := by
  have place : hue * 360.0 / 60.0 = 6 * hue := by
    norm_num
    ring
  have sector : Scalar.floor (6 * hue) = (⌊6 * hue⌋ : ℝ) := rfl
  have residue : ⌊6 * hue⌋.emod 6 = ⌊6 * hue⌋ % 6 := rfl
  simp only [channels, place, sector, Scalar.toInt_intCast, residue, Scalar.one_real,
    Int.self_sub_floor, dim, shares]
  rcases sector_cases ⌊6 * hue⌋ with h | h | h | h | h | h <;> simp [h, dimmed]

/-- The channels of a triple in order. -/
def listed (channels : ℝ × ℝ × ℝ) : List ℝ :=
  [channels.1, channels.2.1, channels.2.2]

/-- One channel keeps the whole value, one loses the whole saturation, and one lies between. -/
theorem mem_listed_shares (sector : ℤ) {fraction : ℝ} (nonneg : 0 ≤ fraction)
    (before : fraction ≤ 1) : 0 ∈ listed (shares sector fraction) ∧
      1 ∈ listed (shares sector fraction) ∧
      ∀ share ∈ listed (shares sector fraction), 0 ≤ share ∧ share ≤ 1 := by
  rcases sector_cases sector with h | h | h | h | h | h <;>
    simp [listed, shares, h, nonneg, before]

private theorem channels_add_one (saturation value : ℝ) :
    channels (hue + 1) saturation value = channels hue saturation value := by
  have place : 6 * (hue + 1) = 6 * hue + (6 : ℤ) := by
    push_cast
    ring
  rw [channels_eq, channels_eq, place, Int.floor_add_intCast, Int.fract_add_intCast,
    shares_add_six]

/-- At the beginning of a sector the channels are those of the end of the sector before it, which
they come near to before they arrive. -/
theorem tendsto_channels (saturation value : ℝ) (sector : ℤ) :
    Tendsto (fun hue => channels hue saturation value) (𝓝[<] (sector / 6 : ℝ))
      (𝓝 (channels (sector / 6 : ℝ) saturation value)) := by
  let within (hue : ℝ) := dim saturation value (shares (sector - 1) (6 * hue - (sector - 1)))
  have continuous : Continuous within := by
    have := continuous_shares (sector - 1)
    unfold within dim dimmed
    fun_prop
  have arrives : within (sector / 6) = channels (sector / 6 : ℝ) saturation value := by
    have place : 6 * ((sector : ℝ) / 6) = sector := by ring
    have fraction : (sector : ℝ) - (sector - 1) = 1 := by ring
    simp only [within, channels_eq, place, Int.floor_intCast, Int.fract_intCast, fraction]
    rw [shares_one, sub_add_cancel]
  have same : ∀ᶠ hue in 𝓝[<] ((sector : ℝ) / 6), within hue = channels hue saturation value := by
    have earlier : ((sector : ℝ) - 1) / 6 < sector / 6 := by linarith
    refine Filter.mem_of_superset (Ioo_mem_nhdsLT earlier) fun hue ⟨after, before⟩ => ?_
    have floor : ⌊6 * hue⌋ = sector - 1 := by
      rw [Int.floor_eq_iff]
      push_cast
      constructor <;> linarith
    change within hue = channels hue saturation value
    rw [channels_eq, Int.fract, floor]
    simp [within]
  rw [← arrives]
  exact (continuous.continuousWithinAt.tendsto).congr' same

private theorem round_le_round {a b : ℝ} (ordered : a ≤ b) : round a ≤ round b := by
  rw [round_eq, round_eq]
  exact Int.floor_mono (by linarith)

/-- A channel is rounded in parts of 255, halves up, for it is not negative. It fits a byte. -/
theorem channel_eq {c : ℝ} (nonneg : 0 ≤ c) (before : c ≤ 1) :
    (channel c : ℤ) = round (255 * c) ∧ round (255 * c) ≤ 255 := by
  have low : 0 ≤ round (255 * c) := by
    rw [← round_zero (α := ℝ)]
    exact round_le_round (by linarith)
  have high : round (255 * c) ≤ 255 := by
    have whole : round (255 : ℝ) = 255 := by simp
    rw [← whole]
    exact round_le_round (by linarith)
  have rounded : Scalar.round (255.0 * c) = (round (255 * c) : ℝ) := by
    have parts : (255.0 * c : ℝ) = 255 * c := by norm_num
    rw [parts, round_eq]
    exact if_pos (by linarith)
  have held : Scalar.clamp 0.0 255.0 (round (255 * c) : ℝ) = round (255 * c) := by
    have top : (255.0 : ℝ) = (255 : ℤ) := by norm_num
    rw [Scalar.clamp, Scalar.zero_real, top, if_neg (by exact_mod_cast low.not_gt),
      if_neg (by exact_mod_cast high.not_gt)]
  refine ⟨?_, high⟩
  rw [channel, rounded, held, Scalar.toInt_intCast, Int.toNat_of_nonneg low]

private theorem levels_ofHsv (hue : ℝ)
    (unit : ∀ c ∈ listed (channels hue saturation value), 0 ≤ c ∧ c ≤ 1) :
    (Color.ofHsv hue saturation value).levels =
      (listed (channels hue saturation value)).map fun c => round (255 * c) := by
  have level (c : ℝ) (member : c ∈ listed (channels hue saturation value)) :
      ((UInt8.ofNat (channel c)).toNat : ℤ) = round (255 * c) := by
    obtain ⟨nonneg, before⟩ := unit c member
    obtain ⟨same, high⟩ := channel_eq nonneg before
    have fits : channel c < 256 := by omega
    rw [UInt8.toNat_ofNat_of_lt' fits, same]
  rw [Color.levels, listed, List.map_cons, List.map_cons, List.map_singleton]
  rw [← level _ (by simp [listed]), ← level _ (by simp [listed]), ← level _ (by simp [listed])]
  rfl

section Dimming

variable {share more : ℝ}

private theorem dimmed_le_dimmed (unsaturated : 0 ≤ saturation) (dark : 0 ≤ value)
    (less : share ≤ more) :
    dimmed saturation value more ≤ dimmed saturation value share := by
  unfold dimmed
  gcongr

private theorem dimmed_mem_unit (saturated : saturation ∈ Set.Icc 0 1)
    (bright : value ∈ Set.Icc 0 1)
    (taken : 0 ≤ share ∧ share ≤ 1) :
    0 ≤ dimmed saturation value share ∧ dimmed saturation value share ≤ 1 := by
  have part : share * saturation ≤ 1 := mul_le_one₀ taken.2 saturated.1 saturated.2
  have none : 0 ≤ share * saturation := mul_nonneg taken.1 saturated.1
  constructor
  · exact mul_nonneg bright.1 (by linarith)
  · exact mul_le_one₀ bright.2 (by linarith) (by linarith)

end Dimming
end Hsv

open Filter Topology in
/-- In exact arithmetic, the greatest channel of a color is its value, and the least one is the
value without the saturation. The hue goes round a circle, without a leap where sectors meet. -/
theorem Color.ofHsv_on_circle (hue : ℝ) {saturation value : ℝ}
    (saturated : saturation ∈ Set.Icc 0 1) (bright : value ∈ Set.Icc 0 1) :
    let color := Color.ofHsv hue saturation value
    (IsGreatest {level | level ∈ color.levels} (round (255 * value)) ∧
      IsLeast {level | level ∈ color.levels} (round (255 * value * (1 - saturation)))) ∧
      Color.ofHsv (hue + 1) saturation value = color ∧
      ∀ sector : ℤ, Tendsto (fun hue => Hsv.channels hue saturation value) (𝓝[<] (sector / 6 : ℝ))
        (𝓝 (Hsv.channels (sector / 6 : ℝ) saturation value)) := by
  intro color
  let taken := Hsv.listed (Hsv.shares ⌊6 * hue⌋ (Int.fract (6 * hue)))
  have channels : Hsv.listed (Hsv.channels hue saturation value) =
      taken.map (Hsv.dimmed saturation value) := by
    rw [Hsv.channels_eq]
    rfl
  obtain ⟨undimmed, full, between⟩ :=
    Hsv.mem_listed_shares ⌊6 * hue⌋ (Int.fract_nonneg (6 * hue)) (Int.fract_lt_one _).le
  have levels : color.levels =
      taken.map fun share => round (255 * Hsv.dimmed saturation value share) := by
    rw [Hsv.levels_ofHsv, channels, List.map_map]
    · rfl
    · rw [channels, List.forall_mem_map]
      exact fun share member => Hsv.dimmed_mem_unit saturated bright (between share member)
  have ordered {share more : ℝ} (less : share ≤ more) :
      round (255 * Hsv.dimmed saturation value more) ≤
        round (255 * Hsv.dimmed saturation value share) :=
    Hsv.round_le_round (by linarith [Hsv.dimmed_le_dimmed saturated.1 bright.1 less])
  have whole : 255 * Hsv.dimmed saturation value 0 = 255 * value := by
    rw [Hsv.dimmed, zero_mul, sub_zero, mul_one]
  have least : 255 * Hsv.dimmed saturation value 1 = 255 * value * (1 - saturation) := by
    rw [Hsv.dimmed, one_mul, mul_assoc]
  refine ⟨⟨⟨?_, ?_⟩, ?_, ?_⟩, ?_, fun sector => Hsv.tendsto_channels saturation value sector⟩
  · change round _ ∈ color.levels
    rw [← whole, levels]
    exact List.mem_map_of_mem undimmed
  · rw [← whole, levels]
    exact List.forall_mem_map.mpr fun share member => ordered (between share member).1
  · change round _ ∈ color.levels
    rw [← least, levels]
    exact List.mem_map_of_mem full
  · rw [← least, levels]
    exact List.forall_mem_map.mpr fun share member => ordered (between share member).2
  · simp only [color, Color.ofHsv, Hsv.channels_add_one]

/-- A dull color in the middle of the first sector. -/
theorem Color.ofHsv_on_circle_dull :
    ((1 / 2 : ℝ) ∈ Set.Icc (0 : ℝ) 1 ∧ (4 / 5 : ℝ) ∈ Set.Icc (0 : ℝ) 1) ∧
      IsGreatest {level | level ∈ (Color.ofHsv (1 / 12 : ℝ) (1 / 2) (4 / 5)).levels} 204 ∧
      IsLeast {level | level ∈ (Color.ofHsv (1 / 12 : ℝ) (1 / 2) (4 / 5)).levels} 102 := by
  have saturated : (1 / 2 : ℝ) ∈ Set.Icc (0 : ℝ) 1 := by norm_num
  have bright : (4 / 5 : ℝ) ∈ Set.Icc (0 : ℝ) 1 := by norm_num
  have high : round (255 * (4 / 5) : ℝ) = 204 := by norm_num [round_eq]
  have low : round (255 * (4 / 5) * (1 - 1 / 2) : ℝ) = 102 := by norm_num [round_eq]
  obtain ⟨⟨greatest, least⟩, -, -⟩ := Color.ofHsv_on_circle (1 / 12) saturated bright
  rw [high] at greatest
  rw [low] at least
  exact ⟨⟨saturated, bright⟩, greatest, least⟩

end XdotViewer
