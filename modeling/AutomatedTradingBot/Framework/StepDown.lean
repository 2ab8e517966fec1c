import Mathlib.Algebra.Order.Field.Basic
import Mathlib.Data.List.GetD
import Mathlib.Data.List.Pairwise
import Mathlib.Data.List.Sort
import Mathlib.Order.Bounds.Defs

/-!
# Step-down procedures

A family of hypotheses is tested in the order of its p-values. The `i`-th of `m` is held
against `α / (m - i)`, and the first that is not rejected stops the procedure. Its adjusted
p-value is the running maximum of `min 1 ((m - i) * p)`.

* `isGreatest_adjusted`: the adjusted p-value as a maximum over the hypotheses up to it;
* `adjusted_le_adjusted`: it is monotone in the p-value, in a sorted family;
* `held_iff`: a hypothesis is rejected exactly when its adjusted p-value is at most `α`.
-/

namespace ATB.StepDown

variable {K : Type} [Field K] [LinearOrder K]

/-- What the `i`-th of `m` hypotheses brings to the running maximum. -/
def scaled (m i : Nat) (p : K) : K := min 1 (p * (m - i : Nat))

/-- The running maximum after `n` hypotheses. -/
def running (ps : List K) : Nat → K
  | 0 => 0
  | n + 1 => max (running ps n) (scaled ps.length n (ps.getD n 0))

/-- The adjusted p-value of the hypothesis at `i`. -/
def adjusted (ps : List K) (i : Nat) : K := running ps (i + 1)

/-- The first `n` hypotheses are rejected. -/
def Held (α : K) (ps : List K) (n : Nat) : Prop := ∀ j < n, ps.getD j 0 ≤ α / (ps.length - j : Nat)

variable {ps : List K} {α : K}

theorem getD_nonneg (hps : ∀ p ∈ ps, 0 ≤ p) (i : Nat) : 0 ≤ ps.getD i 0 := by
  rw [List.getD_eq_getElem?_getD]
  cases h : ps[i]? with
  | none => exact le_refl 0
  | some p => exact hps p (List.mem_of_getElem? h)

variable [IsStrictOrderedRing K]

theorem scaled_nonneg {m i : Nat} {p : K} (hp : 0 ≤ p) : 0 ≤ scaled m i p :=
  le_min zero_le_one (mul_nonneg hp (Nat.cast_nonneg _))

/-- The adjusted p-value is the greatest of what the hypotheses up to it bring. -/
theorem isGreatest_adjusted (hps : ∀ p ∈ ps, 0 ≤ p) (i : Nat) :
    IsGreatest {x | ∃ j ≤ i, x = scaled ps.length j (ps.getD j 0)} (adjusted ps i) := by
  induction i with
  | zero =>
    rw [adjusted, running, running, max_eq_right (scaled_nonneg (getD_nonneg hps 0))]
    refine ⟨⟨0, le_refl 0, rfl⟩, ?_⟩
    rintro x ⟨j, hj, rfl⟩
    rw [Nat.le_zero.mp hj]
  | succ i ih =>
    rw [adjusted, running]
    constructor
    · rcases max_choice (running ps (i + 1)) (scaled ps.length (i + 1) (ps.getD (i + 1) 0)) with h | h
      · obtain ⟨j, hj, e⟩ := ih.1
        exact ⟨j, Nat.le_succ_of_le hj, h.trans e⟩
      · exact ⟨i + 1, le_refl _, h⟩
    · rintro x ⟨j, hj, rfl⟩
      rcases Nat.le_succ_iff.mp hj with hj | rfl
      · exact le_max_of_le_left (ih.2 ⟨j, hj, rfl⟩)
      · exact le_max_right _ _

theorem adjusted_mono_index (hps : ∀ p ∈ ps, 0 ≤ p) {i j : Nat} (h : i ≤ j) : adjusted ps i ≤ adjusted ps j :=
  (isGreatest_adjusted hps j).2 (by
    obtain ⟨k, hk, e⟩ := (isGreatest_adjusted hps i).1
    exact ⟨k, hk.trans h, e⟩)

/-- In a sorted family, the adjusted p-value is monotone in the p-value. -/
theorem adjusted_le_adjusted (hps : ∀ p ∈ ps, 0 ≤ p) (hs : ps.Pairwise (· ≤ ·)) {i j : Nat} (hi : i < ps.length)
    (hj : j < ps.length) (h : ps[i] ≤ ps[j]) : adjusted ps i ≤ adjusted ps j := by
  rcases le_or_gt i j with hij | hji
  · exact adjusted_mono_index hps hij
  -- the hypotheses between them have the same p-value, and weigh less
  obtain ⟨k, hk, e⟩ := (isGreatest_adjusted hps i).1
  rcases le_or_gt k j with hkj | hjk
  · exact e ▸ (isGreatest_adjusted hps j).2 ⟨k, hkj, rfl⟩
  · have hkl : k < ps.length := lt_of_le_of_lt hk hi
    have hle : ps[k] ≤ ps[j] := (hs.rel_get_of_le (a := ⟨k, hkl⟩) (b := ⟨i, hi⟩) hk).trans h
    have hscaled : scaled ps.length k (ps.getD k 0) ≤ scaled ps.length j (ps.getD j 0) := by
      rw [List.getD_eq_getElem _ _ hkl, List.getD_eq_getElem _ _ hj]
      refine min_le_min_left 1 ?_
      exact mul_le_mul hle (Nat.cast_le.mpr (Nat.sub_le_sub_left hjk.le _)) (Nat.cast_nonneg _)
        (hps _ (List.getElem_mem hj))
    rw [e]
    exact hscaled.trans ((isGreatest_adjusted hps j).2 ⟨j, le_refl j, rfl⟩)

theorem scaled_le_iff (hα : α < 1) {m i : Nat} (h : i < m) {p : K} : scaled m i p ≤ α ↔ p ≤ α / (m - i : Nat) := by
  have hm : (0 : K) < (m - i : Nat) := Nat.cast_pos.mpr (Nat.sub_pos_of_lt h)
  rw [scaled, min_le_iff, le_div_iff₀ hm, or_iff_right (not_le.mpr hα)]

/-- A hypothesis is rejected exactly when its adjusted p-value is at most `α`. -/
theorem held_iff (hps : ∀ p ∈ ps, 0 ≤ p) (hα : α < 1) {i : Nat} (hi : i < ps.length) :
    Held α ps (i + 1) ↔ adjusted ps i ≤ α := by
  have hgreatest := isGreatest_adjusted hps i
  constructor
  · intro h
    obtain ⟨j, hj, e⟩ := hgreatest.1
    exact e ▸ (scaled_le_iff hα (lt_of_le_of_lt hj hi)).mpr (h j (Nat.lt_succ_of_le hj))
  · intro h j hj
    have hji := Nat.le_of_lt_succ hj
    exact (scaled_le_iff hα (lt_of_le_of_lt hji hi)).mp ((hgreatest.2 ⟨j, hji, rfl⟩).trans h)

end ATB.StepDown
