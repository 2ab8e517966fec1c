import Mathlib.Algebra.BigOperators.Ring.Finset
import Mathlib.Algebra.Order.Field.Basic
import Mathlib.Algebra.Order.BigOperators.Ring.Finset
import Mathlib.Tactic.FieldSimp
import Mathlib.Tactic.Linarith
import Mathlib.Tactic.Ring

/-!
# Elimination in a symmetric matrix

The factors of a symmetric matrix `m` are a unit lower triangular `l` and a diagonal `d`
with `m = l d lᵀ`, which an elimination finds row by row. They decide whether the
quadratic form of `m` takes a negative value.

* `quadratic_eq`: the form is a sum of squares with the weights `d`;
* `exists_dual`: a vector that the columns of `l` send to one unit vector;
* `negative_of_pivot`: a negative weight gives a negative value;
* `negative_of_residual`: so does a zero weight with something left to eliminate.
-/

namespace ATB.Elimination

open Finset

variable {K : Type} [Field K]

/-- The quadratic form of the first `n` rows and columns. -/
def quadratic (n : ℕ) (m : ℕ → ℕ → K) (x : ℕ → K) : K := ∑ i ∈ range n, ∑ j ∈ range n, x i * m i j * x j

/-- Unit lower triangular. -/
structure UnitLower (l : ℕ → ℕ → K) : Prop where
  unit : ∀ i, l i i = 1
  lower : ∀ i k, i < k → l i k = 0

/-- The first `n` rows of `m` are those of `l d lᵀ`. -/
def Factors (n : ℕ) (m l : ℕ → ℕ → K) (d : ℕ → K) : Prop :=
  ∀ i < n, ∀ j ≤ i, m i j = ∑ k ∈ range (j + 1), l i k * l j k * d k

variable {n r j : ℕ} {m l : ℕ → ℕ → K} {d x y : ℕ → K}

theorem sum_range_extend {f : ℕ → K} {a b : ℕ} (h : a ≤ b) (hf : ∀ k, a ≤ k → f k = 0) :
    ∑ k ∈ range a, f k = ∑ k ∈ range b, f k := by
  refine sum_subset (range_subset_range.mpr h) fun k _ hk => hf k ?_
  exact not_lt.mp fun hlt => hk (mem_range.mpr hlt)

/-- Both halves of the matrix, over all columns. -/
theorem Factors.entry (h : Factors n m l d) (hl : UnitLower l) (hs : ∀ i j, m i j = m j i) {i : ℕ} (hi : i < n) (hj : j < n) :
    m i j = ∑ k ∈ range n, l i k * l j k * d k := by
  wlog hle : j ≤ i generalizing i j
  · rw [hs i j, this hj hi (by omega)]
    exact sum_congr rfl fun k _ => by ring
  rw [h i hi j hle]
  exact sum_range_extend (by omega) fun k hk => by rw [hl.lower j k (by omega)]; ring

/-- The form is a sum of weighted squares. -/
theorem quadratic_eq (h : Factors n m l d) (hl : UnitLower l) (hs : ∀ i j, m i j = m j i) (x : ℕ → K) :
    quadratic n m x = ∑ k ∈ range n, d k * (∑ i ∈ range n, l i k * x i) ^ 2 := by
  have hterm : ∀ i ∈ range n, ∀ j ∈ range n,
      x i * m i j * x j = ∑ k ∈ range n, d k * ((l i k * x i) * (l j k * x j)) := by
    intro i hi j hj
    rw [h.entry hl hs (mem_range.mp hi) (mem_range.mp hj), mul_sum, sum_mul]
    exact sum_congr rfl fun k _ => by ring
  calc quadratic n m x
      = ∑ i ∈ range n, ∑ j ∈ range n, ∑ k ∈ range n, d k * ((l i k * x i) * (l j k * x j)) :=
        sum_congr rfl fun i hi => sum_congr rfl fun j hj => hterm i hi j hj
    _ = ∑ i ∈ range n, ∑ k ∈ range n, ∑ j ∈ range n, d k * ((l i k * x i) * (l j k * x j)) :=
        sum_congr rfl fun i _ => sum_comm
    _ = ∑ k ∈ range n, ∑ i ∈ range n, ∑ j ∈ range n, d k * ((l i k * x i) * (l j k * x j)) := sum_comm
    _ = ∑ k ∈ range n, d k * (∑ i ∈ range n, l i k * x i) ^ 2 := by
        refine sum_congr rfl fun k _ => ?_
        rw [pow_two, sum_mul_sum, mul_sum]
        exact sum_congr rfl fun i _ => (mul_sum ..).symm

/-- The values of a vector that is zero from `r` on. -/
theorem quadratic_of_support (h : r ≤ n) (hx : ∀ i, r ≤ i → x i = 0) : quadratic n m x = quadratic r m x := by
  have hrow : ∀ i, ∑ j ∈ range r, x i * m i j * x j = ∑ j ∈ range n, x i * m i j * x j :=
    fun i => sum_range_extend h fun j hj => by rw [hx j hj, mul_zero]
  rw [quadratic, quadratic, sum_congr rfl fun i _ => hrow i]
  exact (sum_range_extend h fun i hi => by simp [hx i hi]).symm

/-! ## Dual vectors -/

/-- Back substitution: the first `t` columns before the `j`-th. -/
theorem exists_dual_upTo (hl : UnitLower l) (j t : ℕ) : ∃ y : ℕ → K, y j = 1 ∧ (∀ i, j < i → y i = 0) ∧
    ∀ k < j, j ≤ k + t → ∑ i ∈ range (j + 1), l i k * y i = 0 := by
  induction t with
  | zero =>
    refine ⟨fun i => if i = j then 1 else 0, if_pos rfl, fun i hi => if_neg (by omega), fun k hk hle => ?_⟩
    omega
  | succ t ih =>
    obtain ⟨y, hone, hzero, hy⟩ := ih
    by_cases ht : t + 1 ≤ j
    swap
    · exact ⟨y, hone, hzero, fun k hk _ => hy k hk (by omega)⟩
    -- The entry at `c` is what the column `c` still asks for; later columns do not see it.
    obtain ⟨c, hc⟩ : ∃ c, c + (t + 1) = j := ⟨j - (t + 1), by omega⟩
    have hcj : c < j := by omega
    refine ⟨Function.update y c (y c - ∑ i ∈ range (j + 1), l i c * y i), ?_, ?_, ?_⟩
    · rw [Function.update_of_ne (by omega), hone]
    · intro i hi
      rw [Function.update_of_ne (by omega), hzero i hi]
    · intro k hk hle
      have hmem : c ∈ range (j + 1) := mem_range.mpr (by omega)
      have hsum : ∀ a, ∑ i ∈ range (j + 1), l i k * Function.update y c (y c - a) i =
          ∑ i ∈ range (j + 1), l i k * y i - l c k * a := by
        intro a
        rw [← add_sum_erase _ _ hmem, ← add_sum_erase (range (j + 1)) (fun i => l i k * y i) hmem, Function.update_self,
          sum_congr (g := fun i => l i k * y i) rfl fun i hi => by
            rw [Function.update_of_ne (ne_of_mem_erase hi)]]
        ring
      rw [hsum]
      by_cases hkc : k = c
      · rw [hkc, hl.unit c]
        ring
      · rw [hl.lower c k (by omega), hy k hk (by omega)]
        ring

/-- A vector that the columns of `l` up to the `j`-th send to a unit vector. -/
theorem exists_dual (hl : UnitLower l) (j : ℕ) : ∃ y : ℕ → K, (∀ i, j < i → y i = 0) ∧ y j = 1 ∧
    ∀ k ≤ j, ∑ i ∈ range (j + 1), l i k * y i = if k = j then 1 else 0 := by
  obtain ⟨y, hone, hzero, hy⟩ := exists_dual_upTo hl j j
  refine ⟨y, hzero, hone, fun k hk => ?_⟩
  by_cases hkj : k = j
  · subst hkj
    rw [if_pos rfl, sum_range_succ, hl.unit, hone, one_mul, sum_eq_zero, zero_add]
    intro i hi
    rw [hl.lower i k (mem_range.mp hi), zero_mul]
  · rw [if_neg hkj]
    exact hy k (by omega) (by omega)

/-- The value at a dual vector is the weight. -/
theorem quadratic_dual (h : Factors (j + 1) m l d) (hl : UnitLower l) (hs : ∀ i j, m i j = m j i)
    (hy : ∀ k ≤ j, ∑ i ∈ range (j + 1), l i k * y i = if k = j then 1 else 0) : quadratic (j + 1) m y = d j := by
  rw [quadratic_eq h hl hs, sum_range_succ, hy j le_rfl, if_pos rfl, sum_eq_zero]
  · ring
  · intro k hk
    have hk := mem_range.mp hk
    rw [hy k hk.le, if_neg (by omega)]
    ring

theorem Factors.mono (h : Factors n m l d) (hr : r ≤ n) : Factors r m l d := fun i hi => h i (by omega)

/-- The form at a multiple of `y` and the `r`-th unit vector. -/
theorem quadratic_add_unit (hs : ∀ i j, m i j = m j i) (s : K) :
    quadratic (r + 1) m (fun i => if i = r then 1 else s * y i) =
      s ^ 2 * quadratic r m y + 2 * s * ∑ i ∈ range r, y i * m r i + m r r := by
  have hbelow : ∀ i ∈ range r, (if i = r then 1 else s * y i) = s * y i :=
    fun i hi => if_neg (ne_of_lt (mem_range.mp hi))
  have hrow : ∀ i, ∑ j ∈ range r, (if i = r then 1 else s * y i) * m i j * (if j = r then 1 else s * y j) =
      (if i = r then 1 else s * y i) * (s * ∑ j ∈ range r, m i j * y j) := by
    intro i
    rw [mul_sum, mul_sum]
    exact sum_congr rfl fun j hj => by rw [hbelow j hj]; ring
  have hcol : ∑ i ∈ range r, (if i = r then 1 else s * y i) * m i r * (if r = r then 1 else s * y r) =
      s * ∑ i ∈ range r, y i * m r i := by
    rw [mul_sum]
    exact sum_congr rfl fun i hi => by rw [hbelow i hi, if_pos rfl, hs i r]; ring
  have hsquare : ∑ i ∈ range r, (if i = r then 1 else s * y i) * (s * ∑ j ∈ range r, m i j * y j) =
      s ^ 2 * quadratic r m y := by
    rw [quadratic, mul_sum]
    refine sum_congr rfl fun i hi => ?_
    rw [hbelow i hi, mul_sum, mul_sum, mul_sum]
    exact sum_congr rfl fun j _ => by ring
  have hlast : (if r = r then 1 else s * y r) * (s * ∑ j ∈ range r, m r j * y j) = s * ∑ i ∈ range r, y i * m r i := by
    rw [if_pos rfl, one_mul]
    exact congrArg _ (sum_congr rfl fun i _ => by ring)
  rw [quadratic, sum_range_succ, sum_range_succ, sum_congr rfl fun i _ => by rw [sum_range_succ, hrow i],
    sum_add_distrib, hsquare, hcol, hrow r, hlast, if_pos rfl]
  ring

/-! ## Negative values -/

variable [LinearOrder K]

/-- A negative weight. -/
theorem negative_of_pivot (h : Factors (r + 1) m l d) (hl : UnitLower l) (hs : ∀ i j, m i j = m j i) (hr : r < n)
    (hd : d r < 0) : ∃ x, quadratic n m x < 0 := by
  obtain ⟨y, hzero, -, hy⟩ := exists_dual hl r
  refine ⟨y, ?_⟩
  rw [quadratic_of_support (r := r + 1) hr fun i hi => hzero i hi, quadratic_dual h hl hs hy]
  exact hd

variable [IsStrictOrderedRing K]

theorem quadratic_nonneg (h : Factors n m l d) (hl : UnitLower l) (hs : ∀ i j, m i j = m j i) (hd : ∀ k < n, 0 ≤ d k)
    (x : ℕ → K) : 0 ≤ quadratic n m x := by
  rw [quadratic_eq h hl hs]
  exact sum_nonneg fun k hk => mul_nonneg (hd k (mem_range.mp hk)) (sq_nonneg _)

/-- A zero weight, and something left of the entry in the row `r` below it. -/
theorem negative_of_residual {e : ℕ → K} (h : Factors r m l d) (hl : UnitLower l) (hs : ∀ i j, m i j = m j i) (hj : j < r)
    (hr : r < n) (hd : d j = 0) (he : ∀ i < j, m r i = ∑ k ∈ range (i + 1), e k * l i k * d k)
    (hleft : m r j - ∑ k ∈ range j, e k * l j k * d k ≠ 0) : ∃ x, quadratic n m x < 0 := by
  obtain ⟨y, hzero, hone, hy⟩ := exists_dual hl j
  have hzero' : ∀ i, r ≤ i → y i = 0 := fun i hi => hzero i (by omega)
  generalize hρ : m r j - ∑ k ∈ range j, e k * l j k * d k = ρ at hleft
  have hentry : ∀ i ∈ range (j + 1), m r i = ∑ k ∈ range j, e k * l i k * d k + if i = j then ρ else 0 := by
    intro i hi
    by_cases hij : i = j
    · rw [if_pos hij, hij, ← hρ]
      ring
    · have hlt : i < j := by have := mem_range.mp hi; omega
      rw [if_neg hij, add_zero, he i hlt]
      exact sum_range_extend hlt fun k hk => by rw [hl.lower i k (by omega)]; ring
  have hcross : ∑ i ∈ range r, y i * m r i = ρ := by
    have hcols : ∑ i ∈ range (j + 1), y i * ∑ k ∈ range j, e k * l i k * d k = 0 := by
      rw [sum_congr rfl fun i _ => mul_sum .., sum_comm]
      refine sum_eq_zero fun k hk => ?_
      have hk := mem_range.mp hk
      rw [sum_congr rfl fun i _ => (by ring : y i * (e k * l i k * d k) = e k * d k * (l i k * y i)), ← mul_sum,
        hy k hk.le, if_neg (by omega), mul_zero]
    rw [← sum_range_extend (show j + 1 ≤ r by omega) fun i hi => by rw [hzero i hi, zero_mul],
      sum_congr rfl fun i hi => by rw [hentry i hi, mul_add], sum_add_distrib, hcols, zero_add, sum_range_succ, if_pos rfl,
      hone, one_mul, sum_eq_zero, zero_add]
    intro i hi
    rw [if_neg (ne_of_lt (mem_range.mp hi)), mul_zero]
  have hflat : quadratic r m y = 0 := by
    rw [quadratic_of_support (r := j + 1) hj fun i hi => hzero i hi, quadratic_dual (h.mono hj) hl hs hy, hd]
  refine ⟨fun i => if i = r then 1 else -(m r r + 1) / (2 * ρ) * y i, ?_⟩
  rw [quadratic_of_support (r := r + 1) hr fun i hi => by rw [if_neg (by omega), hzero i (by omega), mul_zero],
    quadratic_add_unit hs, hflat, hcross]
  have hvalue : 2 * (-(m r r + 1) / (2 * ρ)) * ρ = -(m r r + 1) := by
    field_simp
  rw [hvalue]
  linarith

end ATB.Elimination
