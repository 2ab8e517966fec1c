import Mathlib.Algebra.Order.BigOperators.Group.List
import Mathlib.Algebra.Order.Floor.Ring
import Mathlib.Algebra.BigOperators.Ring.Finset
import Mathlib.Algebra.BigOperators.Ring.List
import Mathlib.Data.Rat.Floor
import Mathlib.Tactic.FieldSimp
import Mathlib.Tactic.Linarith
import Mathlib.Tactic.Positivity

/-!
# Apportionment of whole units

A total of whole units is divided in proportion to weights: each weight has the
integer part of its exact share, and the units that are left go to the last positive
weights, one each.

* `sum_apportion`: nothing is lost;
* `apportion_near`: each weight has its exact share up to one unit, and a weight of
  zero has nothing.
-/

namespace ATB.Apportionment

variable {total : ℕ} {weights : List ℚ}

def share (total : ℕ) (weights : List ℚ) (w : ℚ) : ℚ := total * w / weights.sum

def floors (total : ℕ) (weights : List ℚ) : List ℤ := weights.map fun w => ⌊share total weights w⌋

/-- The positions of the positive weights. -/
def positions (weights : List ℚ) : List ℕ := (weights.zipIdx.filter fun x => 0 < x.1).map Prod.snd

/-- One unit more at each of the positions. -/
def increment (cents : List ℤ) (last : List ℕ) : List ℤ :=
  last.foldl (fun cents index => cents.modify index (· + 1)) cents

def apportion (total : ℕ) (weights : List ℚ) : List ℤ :=
  increment (floors total weights)
    ((positions weights).drop ((positions weights).length - (total - (floors total weights).sum).toNat))

/-! ## Increments -/

theorem increment_getElem? (cents : List ℤ) (last : List ℕ) (i : ℕ) :
    (increment cents last)[i]? = cents[i]?.map (· + (last.count i : ℤ)) := by
  induction last generalizing cents with
  | nil => simp [increment]
  | cons j last ih =>
    have := ih (cents.modify j (· + 1))
    rw [increment, List.foldl_cons, ← increment, this, List.getElem?_modify, List.count_cons]
    rcases eq_or_ne j i with rfl | hne
    · cases cents[j]? <;> simp [add_comm, add_left_comm]
    · cases cents[i]? <;> simp [hne]

theorem sum_modify (cents : List ℤ) {i : ℕ} (h : i < cents.length) : (cents.modify i (· + 1)).sum = cents.sum + 1 := by
  induction cents generalizing i with
  | nil => cases h
  | cons c cents ih =>
    cases i with
    | zero => simp [add_right_comm]
    | succ i =>
      rw [List.modify_succ_cons, List.sum_cons, List.sum_cons, ih (Nat.lt_of_succ_lt_succ h), add_assoc]

theorem sum_increment (cents : List ℤ) (last : List ℕ) (h : ∀ i ∈ last, i < cents.length) :
    (increment cents last).sum = cents.sum + last.length := by
  induction last generalizing cents with
  | nil => simp [increment]
  | cons j last ih =>
    have := ih (cents.modify j (· + 1)) fun i hi => by
      rw [List.length_modify]
      exact h i (List.mem_cons_of_mem _ hi)
    rw [increment, List.foldl_cons, ← increment, this, sum_modify _ (h j (List.mem_cons_self ..)), List.length_cons]
    push_cast
    ring

/-! ## Positions -/

theorem mem_positions {i : ℕ} : i ∈ positions weights ↔ ∃ w, weights[i]? = some w ∧ 0 < w := by
  constructor
  · intro h
    obtain ⟨⟨w, j⟩, hw, rfl⟩ := List.mem_map.mp h
    obtain ⟨hmem, hpos⟩ := List.mem_filter.mp hw
    exact ⟨w, List.mk_mem_zipIdx_iff_getElem?.mp hmem, of_decide_eq_true hpos⟩
  · rintro ⟨w, hw, hpos⟩
    exact List.mem_map.mpr ⟨(w, i), List.mem_filter.mpr ⟨List.mk_mem_zipIdx_iff_getElem?.mpr hw, decide_eq_true hpos⟩, rfl⟩

theorem nodup_positions (weights : List ℚ) : (positions weights).Nodup := by
  have h : (weights.zipIdx.map Prod.snd).Nodup := by
    rw [List.zipIdx_map_snd]
    exact List.nodup_range'
  exact h.sublist (List.filter_sublist.map _)

theorem length_positions (weights : List ℚ) : (positions weights).length = weights.countP (0 < ·) := by
  rw [positions, List.length_map, ← List.countP_eq_length_filter]
  conv_rhs => rw [← List.zipIdx_map_fst 0 weights, List.countP_map]
  rfl

/-! ## What is left -/

theorem sum_shares (h : weights.sum ≠ 0) : (weights.map (share total weights)).sum = total := by
  have : weights.map (share total weights) = weights.map fun w => (total / weights.sum : ℚ) * w := by
    refine List.map_congr_left fun w _ => ?_
    rw [share]
    ring
  rw [this, List.sum_map_mul_left, List.map_id', div_mul_cancel₀ _ h]

/-- The integer parts leave at least nothing, and at most one unit for each positive weight. -/
theorem left_bounds (total : ℕ) (hw : ∀ w ∈ weights, 0 ≤ w) (h : weights.sum ≠ 0) :
    0 ≤ total - (floors total weights).sum ∧
      total - (floors total weights).sum ≤ ((positions weights).length : ℤ) := by
  have hcast : (((floors total weights).sum : ℤ) : ℚ) = (weights.map fun w => (⌊share total weights w⌋ : ℚ)).sum := by
    rw [floors, Int.cast_list_sum, List.map_map]
    rfl
  have hfrac : ∀ l : List ℚ, (∀ w ∈ l, 0 ≤ w) →
      (l.map fun w => (⌊share total weights w⌋ : ℚ)).sum ≤ (l.map (share total weights)).sum ∧
      (l.map (share total weights)).sum ≤ (l.map fun w => (⌊share total weights w⌋ : ℚ)).sum + l.countP (0 < ·) := by
    intro l hl
    induction l with
    | nil => simp
    | cons w l ih =>
      obtain ⟨h1, h2⟩ := ih fun x hx => hl x (List.mem_cons_of_mem _ hx)
      have hfloor := Int.floor_le (share total weights w)
      have hlt := Int.lt_floor_add_one (share total weights w)
      simp only [List.map_cons, List.sum_cons, List.countP_cons]
      refine ⟨by linarith, ?_⟩
      rcases (hl w (List.mem_cons_self ..)).eq_or_lt with rfl | hpos
      · simp only [share, mul_zero, zero_div, Int.floor_zero, Int.cast_zero, zero_add, lt_irrefl, decide_false,
          Bool.false_eq_true, if_false, add_zero]
        exact h2
      · rw [if_pos (decide_eq_true hpos)]
        push_cast
        linarith
  obtain ⟨h1, h2⟩ := hfrac weights hw
  rw [sum_shares h, ← hcast] at h1 h2
  rw [length_positions]
  constructor
  · have : (floors total weights).sum ≤ (total : ℤ) := by exact_mod_cast h1
    omega
  · have : (total : ℤ) ≤ (floors total weights).sum + (weights.countP (0 < ·) : ℕ) := by exact_mod_cast h2
    omega

/-! ## The result -/

/-- Nothing is lost. -/
theorem sum_apportion (total : ℕ) (hw : ∀ w ∈ weights, 0 ≤ w) (h : weights.sum ≠ 0) : (apportion total weights).sum = total := by
  obtain ⟨h0, h1⟩ := left_bounds total hw h
  rw [apportion, sum_increment, List.length_drop]
  · omega
  · intro i hi
    obtain ⟨w, hget, -⟩ := mem_positions.mp (List.mem_of_mem_drop hi)
    rw [floors, List.length_map]
    exact (List.getElem?_eq_some_iff.mp hget).1

theorem length_apportion (total : ℕ) (weights : List ℚ) : (apportion total weights).length = weights.length := by
  have : ∀ (last : List ℕ) (cents : List ℤ), (increment cents last).length = cents.length := by
    intro last
    induction last with
    | nil => exact fun _ => rfl
    | cons i last ih => exact fun cents => (ih _).trans (List.length_modify ..)
  rw [apportion, this, floors, List.length_map]

/-- Each weight has its exact share up to one unit, and a weight of zero has nothing. -/
theorem apportion_near (total : ℕ) (hw : ∀ w ∈ weights, 0 ≤ w) {i : ℕ} {w : ℚ} (hi : weights[i]? = some w) :
    ∃ c, (apportion total weights)[i]? = some c ∧ 0 ≤ c ∧ (w = 0 → c = 0) ∧ |(c : ℚ) - share total weights w| ≤ 1 := by
  have hw0 : 0 ≤ w := hw w (List.mem_of_getElem? hi)
  have hshare : 0 ≤ share total weights w :=
    div_nonneg (mul_nonneg (Nat.cast_nonneg _) hw0) (List.sum_nonneg hw)
  obtain ⟨k, hk⟩ : ∃ k, k = ((positions weights).drop ((positions weights).length -
    (total - (floors total weights).sum).toNat)).count i := ⟨_, rfl⟩
  have hk1 : k ≤ 1 := by
    rw [hk]
    exact List.nodup_iff_count_le_one.mp ((nodup_positions weights).sublist (List.drop_sublist ..)) i
  refine ⟨⌊share total weights w⌋ + k, ?_, add_nonneg (Int.floor_nonneg.mpr hshare) (Int.natCast_nonneg _),
    ?_, ?_⟩
  · rw [apportion, increment_getElem?, floors, List.getElem?_map, hi, hk]
    rfl
  · rintro rfl
    have hk0 : k = 0 := by
      rw [hk]
      refine List.count_eq_zero.mpr fun hmem => ?_
      obtain ⟨w, hget, hpos⟩ := mem_positions.mp (List.mem_of_mem_drop hmem)
      rw [hi] at hget
      cases hget
      exact lt_irrefl _ hpos
    simp [share, hk0]
  · have h1 := Int.floor_le (share total weights w)
    have h2 := Int.lt_floor_add_one (share total weights w)
    have h3 : (k : ℚ) ≤ 1 := by exact_mod_cast hk1
    have h4 : (0 : ℚ) ≤ k := Nat.cast_nonneg k
    push_cast
    rw [abs_le]
    constructor <;> linarith

end ATB.Apportionment
