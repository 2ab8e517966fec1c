import AutomatedTradingBot.Framework.Decimal
import Mathlib.Algebra.Order.Floor.Ring
import Mathlib.Algebra.Order.Field.Power
import Mathlib.Data.Rat.Floor
import Mathlib.Tactic.FieldSimp
import Mathlib.Tactic.Linarith
import Mathlib.Tactic.Positivity
import Mathlib.Tactic.Ring

/-!
# The value of a decimal

What a decimal stands for, and how far the rounding of the default context moves it.

* `value_add`, `value_mul`, `value_div`: a result that 28 digits can hold is exact
  (`Representable`);
* `div_near`: a quotient is off by less than one part in `10 ^ 27`;
* `floor_div`: so the integer part of a quotient is exact when the dividend has at
  most 27 digits in the units of the divisor.
-/

namespace ATB

namespace Decimal

/-- The absolute value. -/
def mag (d : Decimal) : ℚ := d.coeff * (10 : ℚ) ^ d.exp

/-- The number that a decimal stands for. -/
def value (d : Decimal) : ℚ := if d.sign then -d.mag else d.mag

/-- What 28 digits can hold. -/
def Representable (q : ℚ) : Prop := ∃ (k : ℕ) (f : ℤ), k < 10 ^ precision ∧ |q| = k * (10 : ℚ) ^ f

variable {a b d : Decimal} {q : ℚ} {e : ℤ} {s : Bool}

theorem ten_zpow_pos (e : ℤ) : (0 : ℚ) < 10 ^ e := zpow_pos (by norm_num) e

theorem mag_nonneg (d : Decimal) : 0 ≤ d.mag := mul_nonneg (Nat.cast_nonneg _) (ten_zpow_pos _).le

theorem abs_value (d : Decimal) : |d.value| = d.mag := by
  unfold value
  split
  · rw [abs_neg, abs_of_nonneg d.mag_nonneg]
  · exact abs_of_nonneg d.mag_nonneg

theorem mag_eq_zero : d.mag = 0 ↔ d.coeff = 0 := by
  simp [mag, (ten_zpow_pos d.exp).ne']

theorem value_of_mag_zero (h : d.mag = 0) : d.value = 0 := by simp [value, h]

@[simp] theorem value_zero : (0 : Decimal).value = 0 := value_of_mag_zero (mag_eq_zero.mpr rfl)

/-- A decimal in units of `10 ^ e`. -/
theorem scaled_mul (h : e ≤ d.exp) : (d.scaled e : ℚ) * 10 ^ e = d.value := by
  have hz : (10 : ℚ) ^ (d.exp - e).toNat * 10 ^ e = 10 ^ d.exp := by
    rw [← zpow_natCast, ← zpow_add₀ (by norm_num)]
    congr 1
    omega
  simp only [scaled, value, mag]
  split <;> push_cast <;> rw [← hz] <;> ring

theorem le_iff : a ≤ b ↔ a.value ≤ b.value := by
  have ha := scaled_mul (d := a) (min_le_left a.exp b.exp)
  have hb := scaled_mul (d := b) (min_le_right a.exp b.exp)
  rw [← ha, ← hb, mul_le_mul_iff_left₀ (ten_zpow_pos _), Int.cast_le]
  rfl

theorem lt_iff : a < b ↔ a.value < b.value := by
  have ha := scaled_mul (d := a) (min_le_left a.exp b.exp)
  have hb := scaled_mul (d := b) (min_le_right a.exp b.exp)
  rw [← ha, ← hb, mul_lt_mul_iff_left₀ (ten_zpow_pos _), Int.cast_lt]
  rfl

theorem beq_iff : (a == b) = true ↔ a.value = b.value := by
  have ha := scaled_mul (d := a) (min_le_left a.exp b.exp)
  have hb := scaled_mul (d := b) (min_le_right a.exp b.exp)
  rw [← ha, ← hb, mul_left_inj' (ten_zpow_pos _).ne', Int.cast_inj]
  exact beq_iff_eq (α := Int)

/-! ## Rounding -/

theorem length_le_iff {n : ℕ} : (Nat.toDigits 10 n).length ≤ precision ↔ n < 10 ^ precision :=
  Nat.length_toDigits_le_iff (by decide) (by decide)

/-- A coefficient of at most 28 digits is kept. -/
theorem fix_of_lt (h : d.coeff < 10 ^ precision) : d.fix = d := by
  have := length_le_iff.mpr h
  rw [fix, if_pos (by omega)]

/-- A longer coefficient has its digits past the 28th rounded off. -/
theorem fix_of_le (h : 10 ^ precision ≤ d.coeff) :
    ∃ (excess kept : ℕ), 0 < excess ∧ d.fix.sign = d.sign ∧ d.fix.mag = kept * (10 : ℚ) ^ (d.exp + excess) ∧
      10 ^ (27 + excess) ≤ d.coeff ∧ 2 * (kept * 10 ^ excess) ≤ 2 * d.coeff + 10 ^ excess ∧
      2 * d.coeff ≤ 2 * (kept * 10 ^ excess) + 10 ^ excess ∧
      (10 ^ excess ∣ d.coeff → kept * 10 ^ excess = d.coeff) := by
  have hlen : precision < (Nat.toDigits 10 d.coeff).length := by
    have := mt length_le_iff.mp (not_lt.mpr h)
    omega
  obtain ⟨excess, hexcess⟩ : ∃ n, n = (Nat.toDigits 10 d.coeff).length - precision := ⟨_, rfl⟩
  obtain ⟨kept, hkept⟩ : ∃ n, n = (if 10 ^ excess < 2 * (d.coeff % 10 ^ excess) ∨
      (10 ^ excess = 2 * (d.coeff % 10 ^ excess) ∧ d.coeff / 10 ^ excess % 2 = 1) then
        d.coeff / 10 ^ excess + 1 else d.coeff / 10 ^ excess) := ⟨_, rfl⟩
  have hmod := Nat.div_add_mod' d.coeff (10 ^ excess)
  have hlt : d.coeff % 10 ^ excess < 10 ^ excess := Nat.mod_lt _ (by positivity)
  have hlow : 10 ^ (27 + excess) ≤ d.coeff := by
    have hle : ¬ (Nat.toDigits 10 d.coeff).length ≤ 27 + excess := by
      simp only [precision] at hexcess hlen
      omega
    exact not_lt.mp (mt (Nat.length_toDigits_le_iff (by decide) (by omega)).mpr hle)
  have hfix : d.fix = if kept = 10 ^ precision then ⟨d.sign, kept / 10, d.exp + excess + 1⟩
      else ⟨d.sign, kept, d.exp + excess⟩ := by
    rw [fix, if_neg (by omega), hkept, hexcess]
  refine ⟨excess, kept, by omega, ?_, ?_, hlow, ?_, ?_, fun hdvd => ?_⟩
  · rw [hfix]
    split <;> rfl
  · rw [hfix]
    split
    · rename_i he
      simp only [mag, he, precision]
      rw [zpow_add_one₀ (by norm_num)]
      norm_num
      ring
    · rfl
  · rw [hkept]
    split
    · rw [Nat.add_mul, Nat.one_mul]
      omega
    · omega
  · rw [hkept]
    split
    · rw [Nat.add_mul, Nat.one_mul]
      omega
    · omega
  · have hzero : d.coeff % 10 ^ excess = 0 := Nat.mod_eq_zero_of_dvd hdvd
    rw [hkept, hzero, if_neg (by simp), Nat.div_mul_cancel hdvd]

theorem sign_fix (d : Decimal) : d.fix.sign = d.sign := by
  rcases lt_or_ge d.coeff (10 ^ precision) with h | h
  · rw [fix_of_lt h]
  · obtain ⟨_, _, _, hs, _⟩ := fix_of_le h
    exact hs

/-- A value that 28 digits can hold is not rounded. -/
theorem mag_fix (h : Representable d.mag) : d.fix.mag = d.mag := by
  rcases lt_or_ge d.coeff (10 ^ precision) with hlt | hge
  · rw [fix_of_lt hlt]
  · obtain ⟨excess, kept, hpos, -, hmag, hlow, -, -, hdvd⟩ := fix_of_le hge
    obtain ⟨k, f, hk, he⟩ := h
    rw [abs_of_nonneg d.mag_nonneg] at he
    -- the coefficient is `k` with as many zeros as are rounded off, or more
    have hcoeff : (d.coeff : ℚ) = k * 10 ^ (f - d.exp) := by
      rw [zpow_sub₀ (by norm_num), ← mul_div_assoc, eq_div_iff (ten_zpow_pos _).ne']
      exact he
    have hshift : (excess : ℤ) ≤ f - d.exp := by
      by_contra hlt
      have h1 : (d.coeff : ℚ) < 10 ^ (precision : ℤ) * 10 ^ ((excess : ℤ) - 1) := by
        rw [hcoeff]
        refine mul_lt_mul_of_pos_of_nonneg' ?_ (zpow_le_zpow_right₀ (by norm_num) (by omega)) (ten_zpow_pos _)
          (ten_zpow_pos _).le
        exact_mod_cast hk
      rw [← zpow_add₀ (by norm_num), show (precision : ℤ) + ((excess : ℤ) - 1) = (27 + excess : ℕ) by
        simp only [precision]; omega, zpow_natCast] at h1
      have h2 : d.coeff < 10 ^ (27 + excess) := by exact_mod_cast h1
      omega
    have hnat : d.coeff = k * 10 ^ ((f - d.exp).toNat - excess) * 10 ^ excess := by
      have : (d.coeff : ℚ) = ((k * 10 ^ ((f - d.exp).toNat - excess) * 10 ^ excess : ℕ) : ℚ) := by
        rw [hcoeff, mul_assoc, ← pow_add]
        push_cast
        rw [← zpow_natCast]
        congr 2
        omega
      exact_mod_cast this
    have hexact := hdvd ⟨_, hnat.trans (Nat.mul_comm _ _)⟩
    rw [hmag, mag, ← hexact, zpow_add₀ (by norm_num), zpow_natCast]
    push_cast
    ring

/-- Rounding moves a value by at most half a unit of its 28th digit. -/
theorem mag_fix_near (d : Decimal) : |d.fix.mag - d.mag| * (2 * 10 ^ 27) ≤ d.mag := by
  rcases lt_or_ge d.coeff (10 ^ precision) with h | h
  · rw [fix_of_lt h, sub_self, abs_zero, zero_mul]
    exact d.mag_nonneg
  · obtain ⟨excess, kept, -, -, hmag, hlow, hup, hdown, -⟩ := fix_of_le h
    have hu : (2 : ℚ) * (kept * 10 ^ excess) ≤ 2 * d.coeff + 10 ^ excess := by exact_mod_cast hup
    have hd : (2 : ℚ) * d.coeff ≤ 2 * (kept * 10 ^ excess) + 10 ^ excess := by exact_mod_cast hdown
    have hl : (10 : ℚ) ^ 27 * 10 ^ excess ≤ d.coeff := by
      rw [← pow_add]
      exact_mod_cast hlow
    have habs : |(kept : ℚ) * 10 ^ excess - d.coeff| ≤ 10 ^ excess / 2 := abs_le.mpr ⟨by linarith, by linarith⟩
    have hsplit : d.fix.mag - d.mag = (kept * 10 ^ excess - d.coeff) * 10 ^ d.exp := by
      rw [hmag, mag, zpow_add₀ (by norm_num), zpow_natCast]
      ring
    rw [hsplit, abs_mul, abs_of_pos (ten_zpow_pos _), mag, mul_right_comm]
    refine mul_le_mul_of_nonneg_right ?_ (ten_zpow_pos _).le
    linarith

/-- `fix` keeps a representable value. -/
theorem value_fix (h : Representable d.value) : d.fix.value = d.value := by
  have hmag : Representable d.mag := by
    obtain ⟨k, f, hk, he⟩ := h
    exact ⟨k, f, hk, by rw [abs_of_nonneg d.mag_nonneg, ← abs_value, he]⟩
  rw [value, sign_fix, mag_fix hmag]
  rfl

/-! ## Operators -/

theorem sign_value (hs : s = decide (q < 0)) {c : ℕ} (hc : (c : ℚ) * 10 ^ e = |q|) : (⟨s, c, e⟩ : Decimal).value = q := by
  simp only [value, mag, hc, hs]
  split
  · rename_i h
    rw [abs_of_neg (by simpa using h), neg_neg]
  · rename_i h
    exact abs_of_nonneg (by simpa using h)

/-- A sum that 28 digits can hold is exact. -/
theorem value_add (h : Representable (a.value + b.value)) : (a + b).value = a.value + b.value := by
  have ha := scaled_mul (d := a) (min_le_left a.exp b.exp)
  have hb := scaled_mul (d := b) (min_le_right a.exp b.exp)
  obtain ⟨n, hn⟩ : ∃ n : ℤ, n = a.scaled (min a.exp b.exp) + b.scaled (min a.exp b.exp) := ⟨_, rfl⟩
  have hsum : (n : ℚ) * 10 ^ (min a.exp b.exp) = a.value + b.value := by
    rw [hn, ← ha, ← hb]
    push_cast
    ring
  have hraw : (⟨if n = 0 then a.sign && b.sign else decide (n < 0), n.natAbs, min a.exp b.exp⟩ : Decimal).value =
      a.value + b.value := by
    rw [← hsum]
    rcases eq_or_ne n 0 with rfl | hne
    · simp [value, mag]
    · rw [if_neg hne]
      refine sign_value ?_ ?_
      · rw [decide_eq_decide, mul_neg_iff]
        simp [ten_zpow_pos, (ten_zpow_pos _).not_gt]
      · rw [abs_mul, abs_of_pos (ten_zpow_pos _), Nat.cast_natAbs, Int.cast_abs]
  rw [← hraw] at h ⊢
  rw [← value_fix h, hn]
  rfl

/-- A product that 28 digits can hold is exact. -/
theorem value_mul (h : Representable (a.value * b.value)) : (a * b).value = a.value * b.value := by
  have hraw : (⟨a.sign != b.sign, a.coeff * b.coeff, a.exp + b.exp⟩ : Decimal).value = a.value * b.value := by
    simp only [value, mag]
    rw [zpow_add₀ (by norm_num)]
    push_cast
    cases a.sign <;> cases b.sign <;> simp <;> ring
  rw [← hraw] at h ⊢
  exact value_fix h

/-- A number of units of `10 ^ e` that 28 digits can hold. -/
theorem representable_units {n : ℤ} (h : |(n : ℚ) * 10 ^ e| < 10 ^ precision * 10 ^ e) :
    Representable ((n : ℚ) * 10 ^ e) := by
  rw [abs_mul, abs_of_pos (ten_zpow_pos _), mul_lt_mul_iff_left₀ (ten_zpow_pos _), ← Int.cast_abs,
    ← Nat.cast_natAbs] at h
  refine ⟨n.natAbs, e, by exact_mod_cast h, ?_⟩
  rw [abs_mul, abs_of_pos (ten_zpow_pos _), Nat.cast_natAbs, Int.cast_abs]

theorem exp_add (ha : e ≤ a.exp) (hb : e ≤ b.exp) (h : |a.value + b.value| < 10 ^ precision * 10 ^ e) :
    (a + b).exp = min a.exp b.exp := by
  have hsa := scaled_mul (d := a) (min_le_left a.exp b.exp)
  have hsb := scaled_mul (d := b) (min_le_right a.exp b.exp)
  rw [← hsa, ← hsb, ← add_mul, abs_mul, abs_of_pos (ten_zpow_pos _)] at h
  have hle : (10 : ℚ) ^ e ≤ 10 ^ min a.exp b.exp := zpow_le_zpow_right₀ (by norm_num) (le_min ha hb)
  have hlt : |(a.scaled (min a.exp b.exp) : ℚ) + b.scaled (min a.exp b.exp)| < 10 ^ precision := by
    have := h.trans_le (mul_le_mul_of_nonneg_left hle (by positivity))
    exact (mul_lt_mul_iff_left₀ (ten_zpow_pos _)).mp this
  have hcoeff : (a.scaled (min a.exp b.exp) + b.scaled (min a.exp b.exp)).natAbs < 10 ^ precision := by
    rw [← Int.cast_add, ← Int.cast_abs, ← Nat.cast_natAbs] at hlt
    exact_mod_cast hlt
  exact congrArg exp (fix_of_lt (d := ⟨_, _, _⟩) hcoeff)

/-- A sum of nonnegative decimals is exact when 28 digits hold it in units of the smallest. -/
theorem value_foldl_add {l : List Decimal} (hl : ∀ d ∈ l, e ≤ d.exp ∧ 0 ≤ d.value) (ha : e ≤ a.exp)
    (ha0 : 0 ≤ a.value) (hlt : a.value + (l.map value).sum < 10 ^ precision * 10 ^ e) :
    (l.foldl (· + ·) a).value = a.value + (l.map value).sum ∧ e ≤ (l.foldl (· + ·) a).exp := by
  induction l generalizing a with
  | nil => exact ⟨by simp, ha⟩
  | cons d l ih =>
    obtain ⟨hd, hd0⟩ := hl d (List.mem_cons_self ..)
    have hrest : 0 ≤ (l.map value).sum := by
      refine List.sum_nonneg fun x hx => ?_
      obtain ⟨y, hy, rfl⟩ := List.mem_map.mp hx
      exact (hl y (List.mem_cons_of_mem _ hy)).2
    rw [List.map_cons, List.sum_cons] at hlt
    have hsmall : |a.value + d.value| < 10 ^ precision * 10 ^ e := by
      rw [abs_of_nonneg (add_nonneg ha0 hd0)]
      linarith
    have hexact : (a + d).value = a.value + d.value := by
      refine value_add ?_
      rw [← scaled_mul ha, ← scaled_mul hd, ← add_mul, ← Int.cast_add] at hsmall ⊢
      exact representable_units hsmall
    have hexp : e ≤ (a + d).exp := by
      rw [exp_add ha hd hsmall]
      exact le_min ha hd
    have := ih (a := a + d) (fun x hx => hl x (List.mem_cons_of_mem _ hx)) hexp
      (by rw [hexact]; exact add_nonneg ha0 hd0) (by rw [hexact]; linarith)
    rw [List.foldl_cons, List.map_cons, List.sum_cons, ← add_assoc, ← hexact]
    exact this

/-! ## Quotients -/

theorem reduceTo_value (ideal : ℤ) (fuel c : ℕ) (e : ℤ) :
    ((reduceTo ideal fuel c e).1 : ℚ) * 10 ^ (reduceTo ideal fuel c e).2 = c * 10 ^ e := by
  induction fuel generalizing c e with
  | zero => rfl
  | succ fuel ih =>
    rw [reduceTo]
    split
    · rename_i h
      rw [ih]
      have hc : (c : ℚ) = ((c / 10 * 10 : ℕ) : ℚ) := by
        rw [Nat.div_mul_cancel (Nat.dvd_of_mod_eq_zero h.2)]
      rw [hc, zpow_add_one₀ (by norm_num)]
      push_cast
      ring
    · rfl

theorem coeff_bounds {n : ℕ} (h : n ≠ 0) :
    10 ^ ((Nat.toDigits 10 n).length - 1) ≤ n ∧ n < 10 ^ (Nat.toDigits 10 n).length := by
  have hpos : 0 < (Nat.toDigits 10 n).length := Nat.length_toDigits_pos
  refine ⟨?_, (Nat.length_toDigits_le_iff (by decide) hpos).mp le_rfl⟩
  by_contra hlt
  rcases Nat.eq_zero_or_pos ((Nat.toDigits 10 n).length - 1) with h0 | h0
  · rw [h0] at hlt
    omega
  · have := (Nat.length_toDigits_le_iff (by decide) h0).mpr (not_le.mp hlt)
    omega

/-- A quotient before it is rounded to 28 digits: it has 29 at least, and one that 28 digits can
hold is exact. -/
theorem div_raw (ha : a.coeff ≠ 0) (hb : b.coeff ≠ 0) : ∃ y : Decimal, a / b = y.fix ∧
    y.sign = (a.sign != b.sign) ∧ |y.mag - a.mag / b.mag| * 10 ^ 28 < a.mag / b.mag ∧
    (Representable (a.mag / b.mag) → y.mag = a.mag / b.mag) := by
  obtain ⟨shift, hshift⟩ : ∃ k : ℤ, k = (Nat.toDigits 10 b.coeff).length - (Nat.toDigits 10 a.coeff).length +
      precision + 1 := ⟨_, rfl⟩
  obtain ⟨n, hn⟩ : ∃ k, k = a.coeff * 10 ^ shift.toNat := ⟨_, rfl⟩
  obtain ⟨m, hm⟩ : ∃ k, k = b.coeff * 10 ^ (-shift).toNat := ⟨_, rfl⟩
  have hdiv : a / b = if n % m ≠ 0 then
        fix ⟨a.sign != b.sign, if n / m % 5 = 0 then n / m + 1 else n / m, a.exp - b.exp - shift⟩
      else fix ⟨a.sign != b.sign, (reduceTo (a.exp - b.exp) shift.toNat (n / m) (a.exp - b.exp - shift)).1,
        (reduceTo (a.exp - b.exp) shift.toNat (n / m) (a.exp - b.exp - shift)).2⟩ := by
    rw [hn, hm, hshift]
    exact if_neg ha
  have hm0 : 0 < m := by rw [hm]; positivity
  have hmq : (0 : ℚ) < m := by exact_mod_cast hm0
  have hbq : (b.coeff : ℚ) ≠ 0 := by exact_mod_cast hb
  obtain ⟨r, hr⟩ : ∃ r : ℚ, r = n / m := ⟨_, rfl⟩
  have hratio : r = a.coeff / b.coeff * 10 ^ shift := by
    have hz : (10 : ℚ) ^ shift.toNat = 10 ^ (-shift).toNat * 10 ^ shift := by
      rw [← zpow_natCast, ← zpow_natCast, ← zpow_add₀ (by norm_num)]
      congr 1
      omega
    rw [hr, div_eq_iff hmq.ne', hn, hm]
    push_cast
    rw [hz]
    field_simp
  have hvalue : a.mag / b.mag = r * 10 ^ (a.exp - b.exp - shift) := by
    rw [hratio, mul_assoc, ← zpow_add₀ (by norm_num), add_sub_cancel, zpow_sub₀ (by norm_num), mag, mag]
    field_simp
  have hlow : 10 ^ 28 < r := by
    have h1 : ((10 : ℚ) ^ ((Nat.toDigits 10 a.coeff).length - 1)) ≤ a.coeff := by exact_mod_cast (coeff_bounds ha).1
    have h2 : (b.coeff : ℚ) < 10 ^ (Nat.toDigits 10 b.coeff).length := by exact_mod_cast (coeff_bounds hb).2
    have hpos : 0 < (Nat.toDigits 10 a.coeff).length := Nat.length_toDigits_pos
    have hsplit : (10 : ℚ) ^ ((Nat.toDigits 10 a.coeff).length - 1) * 10 ^ shift =
        10 ^ 28 * 10 ^ (Nat.toDigits 10 b.coeff).length := by
      rw [← zpow_natCast, ← zpow_natCast, ← zpow_natCast, ← zpow_add₀ (by norm_num), ← zpow_add₀ (by norm_num)]
      congr 1
      simp only [precision] at hshift
      omega
    have hbpos : (0 : ℚ) < b.coeff := by exact_mod_cast Nat.pos_of_ne_zero hb
    rw [hratio, div_mul_eq_mul_div, lt_div_iff₀ hbpos]
    calc (10 : ℚ) ^ 28 * b.coeff < 10 ^ 28 * 10 ^ (Nat.toDigits 10 b.coeff).length := by
          exact mul_lt_mul_of_pos_left h2 (by norm_num)
      _ = 10 ^ ((Nat.toDigits 10 a.coeff).length - 1) * 10 ^ shift := hsplit.symm
      _ ≤ a.coeff * 10 ^ shift := mul_le_mul_of_nonneg_right h1 (ten_zpow_pos _).le
  have hmodq : (n : ℚ) = m * (n / m : ℕ) + (n % m : ℕ) := by exact_mod_cast (Nat.div_add_mod n m).symm
  have hu := ten_zpow_pos (a.exp - b.exp - shift)
  rw [hdiv, hvalue]
  split
  · rename_i hmod
    have hlt : ((n % m : ℕ) : ℚ) < m := by exact_mod_cast Nat.mod_lt n hm0
    have hpos : (0 : ℚ) < (n % m : ℕ) := by exact_mod_cast Nat.pos_of_ne_zero hmod
    have hc0 : ((n / m : ℕ) : ℚ) < r := by
      rw [hr, lt_div_iff₀ hmq]
      linarith
    have hc1 : r < ((n / m : ℕ) : ℚ) + 1 := by
      rw [hr, div_lt_iff₀ hmq]
      linarith
    refine ⟨_, rfl, rfl, ?_, ?_⟩
    · have hone : |((if n / m % 5 = 0 then n / m + 1 else n / m : ℕ) : ℚ) - r| < 1 := by
        split <;> push_cast <;> rw [abs_lt] <;> constructor <;> linarith
      simp only [mag]
      rw [← sub_mul, abs_mul, abs_of_pos hu, mul_right_comm]
      refine mul_lt_mul_of_pos_right ?_ hu
      linarith
    · -- a ratio of more than 28 digits that 28 digits can hold is a whole number
      rintro ⟨k, f, hk, he⟩
      rw [abs_of_pos (mul_pos (lt_trans (by norm_num) hlow) hu), ← eq_div_iff hu.ne', mul_div_assoc,
        ← zpow_sub₀ (by norm_num)] at he
      have hg : 0 ≤ f - (a.exp - b.exp - shift) := by
        by_contra hneg
        have h1 : (10 : ℚ) ^ (f - (a.exp - b.exp - shift)) ≤ 1 := zpow_le_one_of_nonpos₀ (by norm_num) (by omega)
        have h2 : (k : ℚ) < 10 ^ 28 := by exact_mod_cast hk
        have h3 : (k : ℚ) * 10 ^ (f - (a.exp - b.exp - shift)) ≤ k := mul_le_of_le_one_right (Nat.cast_nonneg k) h1
        linarith
      exfalso
      apply hmod
      have hnat : n = m * (k * 10 ^ (f - (a.exp - b.exp - shift)).toNat) := by
        rw [hr, div_eq_iff hmq.ne'] at he
        have : (n : ℚ) = ((m * (k * 10 ^ (f - (a.exp - b.exp - shift)).toNat) : ℕ) : ℚ) := by
          rw [he]
          push_cast
          rw [← zpow_natCast, Int.toNat_of_nonneg hg]
          ring
        exact_mod_cast this
      rw [hnat, Nat.mul_mod_right]
  · rename_i hmod
    have hexact : ((n / m : ℕ) : ℚ) = r := by
      rw [not_not.mp hmod, Nat.cast_zero, add_zero] at hmodq
      rw [hr, eq_div_iff hmq.ne', hmodq]
      ring
    have hy : (⟨a.sign != b.sign, (reduceTo (a.exp - b.exp) shift.toNat (n / m) (a.exp - b.exp - shift)).1,
        (reduceTo (a.exp - b.exp) shift.toNat (n / m) (a.exp - b.exp - shift)).2⟩ : Decimal).mag =
          r * 10 ^ (a.exp - b.exp - shift) := by
      rw [← hexact]
      exact reduceTo_value ..
    refine ⟨_, rfl, rfl, ?_, fun _ => hy⟩
    rw [hy, sub_self, abs_zero, zero_mul]
    exact mul_pos (lt_trans (by norm_num) hlow) hu

/-- A quotient that 28 digits can hold is exact. -/
theorem value_div (hb : b.value ≠ 0) (h : Representable (a.value / b.value)) : (a / b).value = a.value / b.value := by
  have hb0 : b.coeff ≠ 0 := fun h0 => hb (value_of_mag_zero (mag_eq_zero.mpr h0))
  rcases eq_or_ne a.coeff 0 with ha | ha
  · rw [value_of_mag_zero (mag_eq_zero.mpr ha), zero_div]
    have hdiv : a / b = fix ⟨a.sign != b.sign, 0, a.exp - b.exp⟩ := if_pos ha
    rw [hdiv, fix_of_lt (by simp [precision])]
    exact value_of_mag_zero (mag_eq_zero.mpr rfl)
  · obtain ⟨y, hy, hsign, -, hexact⟩ := div_raw ha hb0
    have hmag : Representable (a.mag / b.mag) := by
      obtain ⟨k, f, hk, he⟩ := h
      refine ⟨k, f, hk, ?_⟩
      rw [abs_of_nonneg (div_nonneg a.mag_nonneg b.mag_nonneg), ← abs_value a, ← abs_value b, ← abs_div, he]
    have hvalue : y.value = a.value / b.value := by
      rw [value, hexact hmag, hsign, value, value]
      cases a.sign <;> cases b.sign <;> simp [neg_div, div_neg]
    rw [hy, value_fix (by rw [hvalue]; exact h), hvalue]

/-- A quotient is off by less than one part in `10 ^ 27`. -/
theorem div_near (ha : 0 < a.value) (hb : 0 < b.value) :
    |(a / b).value - a.value / b.value| * 10 ^ 27 < a.value / b.value := by
  have hpos : ∀ {d : Decimal}, 0 < d.value → d.sign = false ∧ d.coeff ≠ 0 ∧ d.value = d.mag := fun {d} hd => by
    refine ⟨?_, fun h0 => hd.ne' (value_of_mag_zero (mag_eq_zero.mpr h0)), ?_⟩
    · by_contra hs
      rw [value, if_pos (by simpa using hs)] at hd
      linarith [d.mag_nonneg]
    · rw [← abs_value, abs_of_pos hd]
  obtain ⟨sa, ca, va⟩ := hpos ha
  obtain ⟨sb, cb, vb⟩ := hpos hb
  obtain ⟨y, hy, hsign, hnear, -⟩ := div_raw ca cb
  have hfix := mag_fix_near y
  have hq : (a / b).value = y.fix.mag := by
    rw [hy, value, sign_fix, hsign, sa, sb]
    rfl
  rw [va, vb, hq]
  have h1 := abs_sub_le y.fix.mag y.mag (a.mag / b.mag)
  have h2 := abs_sub_abs_le_abs_sub y.mag (a.mag / b.mag)
  rw [abs_of_nonneg y.mag_nonneg, abs_of_nonneg (div_nonneg a.mag_nonneg b.mag_nonneg)] at h2
  have hx : 0 < a.mag / b.mag := div_pos (va ▸ ha) (vb ▸ hb)
  linarith

theorem toInt_eq (h : 0 ≤ d.value) : d.toInt = ⌊d.value⌋ := by
  have hmag : d.value = d.mag := by rw [← abs_value, abs_of_nonneg h]
  have hint : (if 0 ≤ d.exp then d.coeff * 10 ^ d.exp.toNat else d.coeff / 10 ^ (-d.exp).toNat : ℕ) = ⌊d.mag⌋ := by
    rw [mag]
    split
    · rename_i he
      have : (d.coeff : ℚ) * 10 ^ d.exp = ((d.coeff * 10 ^ d.exp.toNat : ℕ) : ℤ) := by
        push_cast
        rw [← zpow_natCast, Int.toNat_of_nonneg he]
      rw [this, Int.floor_intCast]
    · rename_i he
      have : (d.coeff : ℚ) * 10 ^ d.exp = (d.coeff : ℚ) / ((10 ^ (-d.exp).toNat : ℕ) : ℚ) := by
        push_cast
        rw [← zpow_natCast, Int.toNat_of_nonneg (by omega), zpow_neg, div_inv_eq_mul]
      rw [this, Rat.floor_natCast_div_natCast, Int.natCast_div]
  rw [hmag, ← hint, toInt]
  split
  · rename_i hs
    have h0 : d.mag = 0 := by
      rw [value, if_pos hs] at h
      exact le_antisymm (by linarith) d.mag_nonneg
    have hc := mag_eq_zero.mp h0
    simp [hc]
  · rfl

/-- The integer part of a quotient is exact when the dividend has at most 27 digits in units
that both are multiples of. -/
theorem floor_div (ha : 0 ≤ a.value) (hb : 0 < b.value) (hae : e ≤ a.exp) (hbe : e ≤ b.exp)
    (hlt : a.value < 10 ^ 27 * 10 ^ e) : ⌊(a / b).value⌋ = ⌊a.value / b.value⌋ := by
  have he := ten_zpow_pos e
  have hav := scaled_mul hae
  have hbv := scaled_mul hbe
  obtain ⟨A, hA⟩ : ∃ n, n = a.scaled e := ⟨_, rfl⟩
  obtain ⟨B, hB⟩ : ∃ n, n = b.scaled e := ⟨_, rfl⟩
  rw [← hA] at hav
  rw [← hB] at hbv
  have hB0 : 0 < (B : ℚ) := (mul_pos_iff_of_pos_right he).mp (hbv ▸ hb)
  have hA27 : (A : ℚ) < 10 ^ 27 := (mul_lt_mul_iff_left₀ he).mp (hav ▸ hlt)
  have hA0 : 0 ≤ (A : ℚ) := nonneg_of_mul_nonneg_left (hav ▸ ha) he
  have hx : a.value / b.value = A / B := by rw [← hav, ← hbv, mul_div_mul_right _ _ he.ne']
  have hB1 : (1 : ℚ) ≤ B := by
    have : (0 : ℤ) < B := by exact_mod_cast hB0
    exact_mod_cast this
  by_cases hdvd : B ∣ A
  · obtain ⟨k, hk⟩ := hdvd
    have hquot : a.value / b.value = k := by
      rw [hx, hk, Int.cast_mul, mul_div_cancel_left₀ _ hB0.ne']
    have hk0 : (0 : ℚ) ≤ k := by
      rw [← hquot]
      exact div_nonneg ha hb.le
    have hrep : Representable (a.value / b.value) := by
      have hkA : (k : ℚ) ≤ A := by
        rw [hk, Int.cast_mul]
        exact le_mul_of_one_le_left hk0 hB1
      have := representable_units (n := k) (e := 0) (by
        rw [zpow_zero, mul_one, mul_one, abs_of_nonneg hk0, precision]
        linarith)
      rwa [zpow_zero, mul_one, ← hquot] at this
    rw [value_div hb.ne' hrep]
  · have hpos : 0 < a.value := by
      refine lt_of_le_of_ne ha fun h0 => hdvd ?_
      have : A = 0 := by
        rw [← hav] at h0
        exact_mod_cast (mul_eq_zero.mp h0.symm).resolve_right he.ne'
      rw [this]
      exact dvd_zero B
    have hnear := div_near hpos hb
    rw [hx] at hnear ⊢
    -- what is not a whole number of `B`ths is one `B`th away from the next whole numbers
    have herr : |(a / b).value - A / B| < 1 / B := by
      have : (A : ℚ) / B ≤ 10 ^ 27 / B := div_le_div_of_nonneg_right hA27.le hB0.le
      have h3 : |(a / b).value - A / B| * 10 ^ 27 < (1 / B) * 10 ^ 27 := by
        rw [one_div_mul_eq_div]
        linarith
      exact lt_of_mul_lt_mul_right h3 (by norm_num)
    obtain ⟨q, r, hqr, hr0, hrB⟩ : ∃ q r : ℤ, A = B * q + r ∧ 0 < r ∧ r < B := by
      have hBpos : 0 < B := by exact_mod_cast hB0
      refine ⟨A / B, A % B, (Int.mul_ediv_add_emod A B).symm, ?_, Int.emod_lt_of_pos _ hBpos⟩
      exact lt_of_le_of_ne (Int.emod_nonneg _ hBpos.ne') fun h0 => hdvd (Int.dvd_of_emod_eq_zero h0.symm)
    have hAq : (A : ℚ) / B = q + r / B := by
      rw [hqr]
      push_cast
      field_simp
    have hr1 : (1 : ℚ) / B ≤ r / B := div_le_div_of_nonneg_right (by exact_mod_cast hr0) hB0.le
    have hr2 : (r : ℚ) / B ≤ 1 - 1 / B := by
      rw [div_le_iff₀ hB0, sub_mul, one_mul, div_mul_cancel₀ _ hB0.ne']
      have : r + 1 ≤ B := hrB
      have : (r : ℚ) + 1 ≤ B := by exact_mod_cast this
      linarith
    have hlow : ⌊(A : ℚ) / B⌋ = q := by
      rw [Int.floor_eq_iff, hAq]
      have : (0 : ℚ) < 1 / B := by positivity
      constructor <;> linarith
    rw [hlow, Int.floor_eq_iff]
    rw [hAq] at herr
    have := abs_lt.mp herr
    constructor <;> linarith [this.1, this.2]

/-- `int(a / b)`, likewise. -/
theorem toInt_div (ha : 0 ≤ a.value) (hb : 0 < b.value) (hae : e ≤ a.exp) (hbe : e ≤ b.exp)
    (hlt : a.value < 10 ^ 27 * 10 ^ e) : (a / b).toInt = ⌊a.value / b.value⌋ := by
  rw [← floor_div ha hb hae hbe hlt]
  refine toInt_eq ?_
  rcases ha.eq_or_lt with h0 | hpos
  · rw [value_div hb.ne' ⟨0, 0, by simp [precision], by simp [← h0]⟩, ← h0, zero_div]
  · have hnear := div_near hpos hb
    have := neg_abs_le ((a / b).value - a.value / b.value)
    have hx : 0 < a.value / b.value := div_pos hpos hb
    linarith

/-! ## Whole numbers of a unit -/

@[simp] theorem value_ofInt (n : ℤ) : (ofInt n).value = n := by
  have := sign_value (q := n) (e := 0) (s := decide (n < 0)) (c := n.natAbs) (by simp) (by simp [Nat.cast_natAbs])
  exact this

@[simp] theorem value_natCast (n : ℕ) : ((n : Decimal)).value = n := by
  show value ⟨false, n, 0⟩ = n
  simp [value, mag]

/-- A product of short coefficients is not rounded. -/
theorem exp_mul (h : a.coeff * b.coeff < 10 ^ precision) : (a * b).exp = a.exp + b.exp :=
  congrArg exp (fix_of_lt (d := ⟨a.sign != b.sign, a.coeff * b.coeff, a.exp + b.exp⟩) h)

/-- A whole number of units of `10 ^ e` is its own quantization. -/
theorem quantize_eq {n : ℤ} (h : d.value = n * 10 ^ e) (hn : n.natAbs < 10 ^ precision) :
    ∃ r, d.quantize e = some r ∧ r.value = d.value := by
  have hmag : d.mag = n.natAbs * 10 ^ e := by
    rw [← abs_value, h, abs_mul, abs_of_pos (ten_zpow_pos e), Nat.cast_natAbs, Int.cast_abs]
  have hr : d.rescale e = ⟨d.sign, n.natAbs, e⟩ := by
    rw [rescale]
    split
    · rename_i he
      have hcoeff : d.coeff * 10 ^ (d.exp - e).toNat = n.natAbs := by
        have : (d.coeff : ℚ) * 10 ^ (d.exp - e).toNat * 10 ^ e = n.natAbs * 10 ^ e := by
          rw [← hmag, mag, mul_assoc, ← zpow_natCast, ← zpow_add₀ (by norm_num)]
          congr 2
          omega
        exact_mod_cast mul_right_cancel₀ (ten_zpow_pos e).ne' this
      rw [hcoeff]
    · rename_i he
      have hcoeff : d.coeff = n.natAbs * 10 ^ (e - d.exp).toNat := by
        have : (d.coeff : ℚ) * 10 ^ d.exp = n.natAbs * 10 ^ (e - d.exp).toNat * 10 ^ d.exp := by
          rw [← mag, hmag, mul_assoc, ← zpow_natCast, ← zpow_add₀ (by norm_num)]
          congr 2
          omega
        exact_mod_cast mul_right_cancel₀ (ten_zpow_pos d.exp).ne' this
      have hdiv : d.coeff / 10 ^ (e - d.exp).toNat = n.natAbs := by
        rw [hcoeff, Nat.mul_div_cancel _ (by positivity)]
      have hmod : d.coeff % 10 ^ (e - d.exp).toNat = 0 := by rw [hcoeff, Nat.mul_mod_left]
      dsimp only
      rw [hdiv, hmod, if_neg (by simp)]
  refine ⟨⟨d.sign, n.natAbs, e⟩, ?_, ?_⟩
  · rw [quantize, hr, if_neg (not_lt.mpr (length_le_iff.mpr hn))]
  · rw [value, value, hmag]
    rfl

end Decimal

end ATB
