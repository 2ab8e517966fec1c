import Mathlib.Algebra.Order.BigOperators.Group.List
import Mathlib.Data.List.GetD
import Mathlib.Tactic.FieldSimp
import Mathlib.Tactic.Linarith
import Mathlib.Tactic.Ring
import AutomatedTradingBot.Source.MovingBlockBootstrap

/-!
# Laws of the moving-block interval

* `length_resample`, `mem_of_mem_resample`: a resample has the size of the sample and its
  observations;
* `quantileIndex_mono`: the quantile indexes are in the order of their probabilities;
* `means_affine`: an affine map of the observations maps the resampled means;
* `moving_block_interval`: the interval lies within the sample, and moves with it.
-/

namespace ATB.Proof.MovingBlockBootstrap

open ATB.StatisticalAssurance

variable {s : StatisticalSample} {config : ResamplingConfig} {random : ℕ → ℕ}

/-! ## Resamples -/

theorem length_pos (s : StatisticalSample) : 0 < s.observations.length := List.length_pos_iff.mpr s.nonempty

theorem mem_of_mem_block {length start : ℕ} {x : ℚ} (h : x ∈ s.block length start) : x ∈ s.observations := by
  obtain ⟨offset, -, rfl⟩ := List.mem_map.mp h
  have hlt : (start + offset) % s.observations.length < s.observations.length := Nat.mod_lt _ (length_pos s)
  rw [List.getD_eq_getElem _ _ hlt]
  exact List.getElem_mem hlt

theorem length_block (length start : ℕ) : (s.block length start).length = length := by
  rw [StatisticalSample.block, List.length_map, List.length_range]

/-- The blocks cover the sample. -/
theorem le_blockCount_mul (s : StatisticalSample) (config : ResamplingConfig) :
    s.observations.length ≤ s.blockCount config * config.blockLength := by
  have hpos := config.blockLength_pos
  have hdiv := Nat.div_add_mod (s.observations.length + config.blockLength - 1) config.blockLength
  have hmod := Nat.mod_lt (s.observations.length + config.blockLength - 1) hpos
  rw [StatisticalSample.blockCount, Nat.mul_comm]
  omega

/-- A resample has as many observations as the sample. -/
theorem length_resample (s : StatisticalSample) (config : ResamplingConfig) (random : ℕ → ℕ) (i : ℕ) :
    (s.resample config random i).length = s.observations.length := by
  have hlength : ((List.range (s.blockCount config)).flatMap fun b =>
      s.block config.blockLength (random (i * s.blockCount config + b) % s.observations.length)).length =
        s.blockCount config * config.blockLength := by
    simp [List.length_flatMap, length_block]
  rw [StatisticalSample.resample, List.length_take, hlength]
  exact Nat.min_eq_left (le_blockCount_mul s config)

/-- A resample holds observations of the sample. -/
theorem mem_of_mem_resample {i : ℕ} {x : ℚ} (h : x ∈ s.resample config random i) : x ∈ s.observations := by
  obtain ⟨b, -, hb⟩ := List.mem_flatMap.mp (List.mem_of_mem_take h)
  exact mem_of_mem_block hb

/-! ## Means -/

/-- A mean lies between bounds of its values. -/
theorem meanOf_mem_Icc {values : List ℚ} {lo hi : ℚ} (hne : values ≠ []) (h : ∀ x ∈ values, lo ≤ x ∧ x ≤ hi) :
    lo ≤ meanOf values ∧ meanOf values ≤ hi := by
  have hpos : (0 : ℚ) < values.length := by exact_mod_cast List.length_pos_iff.mpr hne
  have hlo := List.card_nsmul_le_sum values lo fun x hx => (h x hx).1
  have hhi := List.sum_le_card_nsmul values hi fun x hx => (h x hx).2
  rw [nsmul_eq_mul] at hlo hhi
  rw [meanOf, le_div_iff₀ hpos, div_le_iff₀ hpos]
  constructor
  · linarith
  · linarith

theorem meanOf_affine (a b : ℚ) {values : List ℚ} (hne : values ≠ []) :
    meanOf (values.map fun x => a * x + b) = a * meanOf values + b := by
  have hpos : (values.length : ℚ) ≠ 0 := by exact_mod_cast (List.length_pos_iff.mpr hne).ne'
  have hsum : (values.map fun x => a * x + b).sum = a * values.sum + values.length * b := by
    clear hne hpos
    induction values with
    | nil => simp
    | cons x values ih =>
      rw [List.map_cons, List.sum_cons, ih, List.sum_cons, List.length_cons]
      push_cast
      ring
  rw [meanOf, meanOf, hsum, List.length_map]
  field_simp

/-! ## Quantiles -/

theorem toIntegralValue_mono {x y : ℚ} (h : x ≤ y) : toIntegralValue x ≤ toIntegralValue y := by
  rcases h.eq_or_lt with rfl | h
  · exact le_rfl
  rcases (Int.floor_le_floor h.le).lt_or_eq with hlt | heq
  · unfold toIntegralValue
    dsimp only
    split_ifs <;> omega
  · unfold toIntegralValue
    dsimp only
    rw [heq]
    split_ifs with hx hy
    · exact le_rfl
    · -- `y` is rounded down, so `x` is too
      exfalso
      apply hy
      rcases hx with hx | ⟨hx, -⟩
      · exact Or.inl (by linarith)
      · exact Or.inl (by linarith)
    · omega
    · exact le_rfl

/-- Quantile indexes are in the order of their probabilities. -/
theorem quantileIndex_mono {p q : ℚ} {count : ℕ} (hcount : 0 < count) (h : p ≤ q) :
    quantileIndex p count ≤ quantileIndex q count := by
  have hnonneg : (0 : ℚ) ≤ (((count : ℤ) - 1 : ℤ) : ℚ) := by
    have : (0 : ℤ) ≤ (count : ℤ) - 1 := by omega
    exact_mod_cast this
  have := toIntegralValue_mono (mul_le_mul_of_nonneg_right h hnonneg)
  unfold quantileIndex
  omega

theorem quantileIndex_lt {p : ℚ} {count : ℕ} (hcount : 0 < count) : quantileIndex p count < count := by
  unfold quantileIndex
  omega

theorem length_means (s : StatisticalSample) (config : ResamplingConfig) (random : ℕ → ℕ) :
    (s.means config random).length = config.resamples := by
  rw [StatisticalSample.means, List.length_insertionSort, List.length_map, List.length_range]

/-- The means are in order. -/
theorem means_le {i j : ℕ} (hij : i ≤ j) (hj : j < (s.means config random).length) :
    (s.means config random).getD i 0 ≤ (s.means config random).getD j 0 := by
  have hsorted : (s.means config random).Pairwise (· ≤ ·) := List.pairwise_insertionSort _ _
  rw [List.getD_eq_getElem _ _ (hij.trans_lt hj), List.getD_eq_getElem _ _ hj]
  rcases hij.lt_or_eq with hlt | rfl
  · exact List.pairwise_iff_getElem.mp hsorted i j _ _ hlt
  · exact le_rfl

theorem means_mem_Icc {lo hi : ℚ} (h : ∀ x ∈ s.observations, lo ≤ x ∧ x ≤ hi) {i : ℕ}
    (hi' : i < (s.means config random).length) :
    lo ≤ (s.means config random).getD i 0 ∧ (s.means config random).getD i 0 ≤ hi := by
  have hmem : (s.means config random).getD i 0 ∈ s.means config random := by
    rw [List.getD_eq_getElem _ _ hi']
    exact List.getElem_mem hi'
  obtain ⟨j, -, hj⟩ := List.mem_map.mp ((List.mem_insertionSort _).mp hmem)
  have hne : s.resample config random j ≠ [] :=
    List.length_pos_iff.mp (by rw [length_resample]; exact length_pos s)
  rw [← hj]
  exact meanOf_mem_Icc hne fun x hx => h x (mem_of_mem_resample hx)

/-! ## Affine maps -/

/-- The sample with its observations mapped. -/
def affine (s : StatisticalSample) (a b : ℚ) : StatisticalSample :=
  { s with
    observations := s.observations.map fun x => a * x + b
    nonempty := by simpa using s.nonempty
    complete := by simpa using s.complete }

theorem block_affine (a b : ℚ) (length start : ℕ) :
    (affine s a b).block length start = (s.block length start).map fun x => a * x + b := by
  have hlength : (affine s a b).observations.length = s.observations.length := List.length_map _
  rw [StatisticalSample.block, StatisticalSample.block, List.map_map, hlength]
  refine List.map_congr_left fun offset _ => ?_
  have hlt : (start + offset) % s.observations.length < s.observations.length := Nat.mod_lt _ (length_pos s)
  have hlt' : (start + offset) % s.observations.length < (affine s a b).observations.length := by rw [hlength]; exact hlt
  rw [List.getD_eq_getElem _ _ hlt', Function.comp, List.getD_eq_getElem _ _ hlt]
  exact List.getElem_map _

theorem resample_affine (a b : ℚ) (i : ℕ) :
    (affine s a b).resample config random i = (s.resample config random i).map fun x => a * x + b := by
  have hlength : (affine s a b).observations.length = s.observations.length := List.length_map _
  simp only [StatisticalSample.resample, StatisticalSample.blockCount, hlength, block_affine, List.map_take,
    List.map_flatMap]

theorem means_affine {a : ℚ} (ha : 0 < a) (b : ℚ) :
    (affine s a b).means config random = (s.means config random).map fun x => a * x + b := by
  have hmap : ((List.range config.resamples).map fun i => meanOf ((affine s a b).resample config random i)) =
      ((List.range config.resamples).map fun i => meanOf (s.resample config random i)).map fun x => a * x + b := by
    rw [List.map_map]
    refine List.map_congr_left fun i _ => ?_
    have hne : s.resample config random i ≠ [] :=
      List.length_pos_iff.mp (by rw [length_resample]; exact length_pos s)
    rw [resample_affine, Function.comp, meanOf_affine a b hne]
  rw [StatisticalSample.means, StatisticalSample.means, hmap]
  refine (List.map_insertionSort _ _ _ _ fun x _ y _ => ?_).symm
  exact ⟨fun h => by nlinarith, fun h => by nlinarith⟩

theorem shortcomings_affine {a : ℚ} (ha : 0 < a) (b : ℚ) : (affine s a b).shortcomings config = s.shortcomings config := by
  have hinj : Function.Injective fun x : ℚ => a * x + b := fun x y h => by
    have : a * x = a * y := by simpa using h
    exact mul_left_cancel₀ ha.ne' this
  have hdedup : (affine s a b).observations.dedup.length = s.observations.dedup.length := by
    rw [show (affine s a b).observations = s.observations.map fun x => a * x + b from rfl, List.dedup_map_of_injective hinj,
      List.length_map]
  have hlength : (affine s a b).observations.length = s.observations.length := List.length_map _
  simp only [StatisticalSample.shortcomings, hlength, hdedup]
  rfl

/-! ## The interval -/

/-- What is returned where nothing speaks against the interval. -/
theorem passed_iff {env : Environment} {r : ℕ → ℕ → ℕ} :
    (movingBlockBootstrapMean env r s config).outcome = .testPass ↔ s.shortcomings config = [] := by
  unfold movingBlockBootstrapMean
  by_cases h : s.shortcomings config = []
  · simp only [h, ne_eq, not_true_eq_false, if_false]
  · simp only [h, ne_eq, not_false_eq_true, if_true, reduceCtorEq]

/-- The values of an interval that passes. -/
def Interval (r : BootstrapResult) (mean lower upper : ℚ) : Prop :=
  r.outcome = .testPass ∧ r.mean = some mean ∧ r.lower = some lower ∧ r.upper = some upper

/-- The mean at the index of a quantile. -/
def quantile (s : StatisticalSample) (config : ResamplingConfig) (random : ℕ → ℕ) (p : ℚ) : ℚ :=
  (s.means config random).getD (quantileIndex p config.resamples) 0

theorem interval_of_passed (env : Environment) (r : ℕ → ℕ → ℕ) (h : s.shortcomings config = []) :
    Interval (movingBlockBootstrapMean env r s config) (meanOf s.observations)
      (quantile s config (r config.seed) ((1 - config.confidenceLevel) / 2))
      (quantile s config (r config.seed) (1 - (1 - config.confidenceLevel) / 2)) := by
  unfold movingBlockBootstrapMean Interval quantile
  simp only [h, ne_eq, not_true_eq_false, if_false, length_means, and_self]

theorem quantile_affine {a : ℚ} (ha : 0 < a) (b p : ℚ) :
    quantile (affine s a b) config random p = a * quantile s config random p + b := by
  have hlt : quantileIndex p config.resamples < (s.means config random).length := by
    rw [length_means]
    exact quantileIndex_lt config.resamples_pos
  have hlt' : quantileIndex p config.resamples < ((s.means config random).map fun x => a * x + b).length := by
    rw [List.length_map]
    exact hlt
  rw [quantile, quantile, means_affine ha, List.getD_eq_getElem _ _ hlt', List.getD_eq_getElem _ _ hlt, List.getElem_map]

theorem tail_le (config : ResamplingConfig) : (1 - config.confidenceLevel) / 2 ≤ 1 - (1 - config.confidenceLevel) / 2 := by
  have := config.confidence.1
  linarith

/-- An interval that passes lies within the sample, its resamples are resamples of it, and an affine map of the
observations maps it. -/
theorem moving_block_interval {env : Environment} {r : ℕ → ℕ → ℕ}
    (h : (movingBlockBootstrapMean env r s config).outcome = .testPass) :
    (∀ i, (s.resample config (r config.seed) i).length = s.observations.length ∧
      ∀ x ∈ s.resample config (r config.seed) i, x ∈ s.observations) ∧
    ∃ mean lower upper, Interval (movingBlockBootstrapMean env r s config) mean lower upper ∧ lower ≤ upper ∧
      (∀ lo hi, (∀ x ∈ s.observations, lo ≤ x ∧ x ≤ hi) → lo ≤ lower ∧ upper ≤ hi) ∧
      ∀ a b, 0 < a → Interval (movingBlockBootstrapMean env r (affine s a b) config) (a * mean + b) (a * lower + b)
        (a * upper + b) := by
  have hnone := passed_iff.mp h
  have hindex : ∀ p, quantileIndex p config.resamples < (s.means config (r config.seed)).length := fun p => by
    rw [length_means]
    exact quantileIndex_lt config.resamples_pos
  refine ⟨fun i => ⟨length_resample s config _ i, fun x => mem_of_mem_resample⟩, _, _, _, interval_of_passed _ _ hnone,
    means_le (quantileIndex_mono config.resamples_pos (tail_le config)) (hindex _), ?_, fun a b ha => ?_⟩
  · exact fun lo hi hbounds => ⟨(means_mem_Icc hbounds (hindex _)).1, (means_mem_Icc hbounds (hindex _)).2⟩
  · have hnone' : (affine s a b).shortcomings config = [] := (shortcomings_affine ha b).trans hnone
    have := interval_of_passed env r hnone'
    rw [quantile_affine ha, quantile_affine ha, show meanOf (affine s a b).observations = a * meanOf s.observations + b from
      meanOf_affine a b s.nonempty] at this
    exact this

namespace Sample

def env : Environment := ⟨fun _ _ => "digest", fun _ => "0"⟩

def adequacy : SampleAdequacy := ⟨true, 3, "RULE-1", [], by decide, by decide, by decide, by decide⟩

/-- Three observations of a partition. -/
def sample : StatisticalSample :=
  ⟨"S-1", "RUN-1", "DATA-1", "1", "TRAIN", [1, 2, 4], ["A", "B", "C"], false, adequacy, by decide, by decide, by decide,
    by decide⟩

def settings : ResamplingConfig := ⟨7, 2, 5, 9 / 10, by decide, by decide, by norm_num⟩

end Sample

theorem moving_block_interval_sample : ∃ mean lower upper,
    Interval (movingBlockBootstrapMean Sample.env (fun _ i => i) Sample.sample Sample.settings) mean lower upper ∧
      lower ≤ upper ∧ 1 ≤ lower ∧ upper ≤ 4 := by
  have hpass : (movingBlockBootstrapMean Sample.env (fun _ i => i) Sample.sample Sample.settings).outcome = .testPass :=
    passed_iff.mpr (by decide +kernel)
  obtain ⟨-, mean, lower, upper, hinterval, hle, hbounds, -⟩ := moving_block_interval hpass
  obtain ⟨hlo, hhi⟩ := hbounds 1 4 (by simp [Sample.sample]; norm_num)
  exact ⟨mean, lower, upper, hinterval, hle, hlo, hhi⟩

end ATB.Proof.MovingBlockBootstrap
