import Mathlib.Algebra.Order.BigOperators.Group.List
import Mathlib.Algebra.Order.Floor.Ring
import Mathlib.Data.Rat.Floor
import Mathlib.Tactic.FieldSimp
import Mathlib.Tactic.Linarith
import Mathlib.Tactic.Positivity

/-!
# Equal shares in whole units

An amount is divided equally, and each share buys whole units at a price of its own.

* `isGreatest_units`: no more units can be bought, and no fewer are;
* `sum_cost_le`: what is spent is no more than the amount.
-/

namespace ATB.EqualShares

/-- The whole units that an amount buys at a price. -/
def units (cash price : ℚ) : ℤ := ⌊cash / price⌋

theorem mul_le_iff {cash price : ℚ} (hp : 0 < price) (n : ℤ) : price * n ≤ cash ↔ n ≤ units cash price := by
  rw [units, Int.le_floor, le_div_iff₀ hp, mul_comm]

theorem isGreatest_units {cash price : ℚ} (hp : 0 < price) :
    IsGreatest {n : ℤ | price * n ≤ cash} (units cash price) :=
  ⟨(mul_le_iff hp _).mpr (le_refl _), fun n hn => (mul_le_iff hp n).mp hn⟩

theorem units_nonneg {cash price : ℚ} (hc : 0 ≤ cash) (hp : 0 < price) : 0 ≤ units cash price :=
  Int.floor_nonneg.mpr (div_nonneg hc hp.le)

/-- Each of at most `n` costs is within its share, so their sum is within the amount. -/
theorem sum_cost_le {α : Type} {amount : ℚ} {n : Nat} {l : List α} {cost : α → ℚ} (ha : 0 ≤ amount) (hl : l.length ≤ n)
    (hcost : ∀ a ∈ l, cost a ≤ amount / n) : (l.map cost).sum ≤ amount := by
  have hsum : (l.map cost).sum ≤ l.length * (amount / n) := by
    have h := List.sum_le_card_nsmul (l.map cost) (amount / n) fun x hx => by
      obtain ⟨a, hmem, rfl⟩ := List.mem_map.mp hx
      exact hcost a hmem
    rwa [List.length_map, nsmul_eq_mul] at h
  rcases Nat.eq_zero_or_pos n with rfl | hn
  · rw [List.length_eq_zero_iff.mp (Nat.le_zero.mp hl)]
    exact ha
  · have hn' : (0 : ℚ) < n := Nat.cast_pos.mpr hn
    have hle : (l.length : ℚ) ≤ n := Nat.cast_le.mpr hl
    calc (l.map cost).sum ≤ l.length * (amount / n) := hsum
      _ ≤ n * (amount / n) := mul_le_mul_of_nonneg_right hle (div_nonneg ha hn'.le)
      _ = amount := mul_div_cancel₀ amount hn'.ne'

end ATB.EqualShares
