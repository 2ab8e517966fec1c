import AutomatedTradingBot.Framework.Apportionment
import AutomatedTradingBot.Framework.DecimalValue
import AutomatedTradingBot.Framework.SortedSet
import AutomatedTradingBot.Proof.Portfolio.Reservations

/-!
# Whole cents

The two divisions of an amount of money into whole cents.

* `shared_cents`: `allocate_shared_cents` computes the apportionment of its total by
  exact shares, as long as the decimal context holds the products;
* `equal_budgets`: the budgets of `allocate_equal_budgets` and the unallocated cents
  are the whole capital, whatever the order of the strategies;
* `allocate_cents`: both.
-/

namespace ATB.Proof.Portfolio

open ATB.Apportionment

/-! ## Shared adjustments -/

section Shared

variable {total denominator : Decimal} {notionals ordered : List (String × Decimal)} {cents : ℕ} {e : ℤ}

/-- The values of the notionals. -/
def weightsOf (notionals : List (String × Decimal)) : List ℚ := notionals.map fun item => item.2.value

/-- What the code accepts as notionals: keys that are texts, each once, and amounts that are
not negative and not all zero. -/
structure Notional (notionals : List (String × Decimal)) : Prop where
  nodup : (notionals.map Prod.fst).Nodup
  text : ∀ item ∈ notionals, Text.nonblank item.1
  nonneg : ∀ item ∈ notionals, 0 ≤ item.2.value
  positive : 0 < (weightsOf notionals).sum

/-- The context holds the products of a total and the notionals, and their sum: in units of
a place that all notionals have, the total times their sum has at most 27 digits. -/
structure Holds (cents : ℕ) (notionals : List (String × Decimal)) (e : ℤ) : Prop where
  place : e ≤ 0
  exp : ∀ item ∈ notionals, e ≤ item.2.exp
  small : (cents + 1) * (weightsOf notionals).sum < 10 ^ 27 * 10 ^ e

theorem Notional.perm (h : Notional notionals) (hp : notionals.Perm ordered) : Notional ordered where
  nodup := (hp.map _).nodup_iff.mp h.nodup
  text item hi := h.text item (hp.mem_iff.mpr hi)
  nonneg item hi := h.nonneg item (hp.mem_iff.mpr hi)
  positive := by
    have := h.positive
    rwa [weightsOf, (hp.map _).sum_eq] at this

theorem Holds.perm (h : Holds cents notionals e) (hp : notionals.Perm ordered) : Holds cents ordered e where
  place := h.place
  exp item hi := h.exp item (hp.mem_iff.mpr hi)
  small := by
    have := h.small
    rwa [weightsOf, (hp.map _).sum_eq] at this

theorem Notional.weights_nonneg (h : Notional notionals) : ∀ w ∈ weightsOf notionals, 0 ≤ w := by
  intro w hw
  obtain ⟨item, hitem, rfl⟩ := List.mem_map.mp hw
  exact h.nonneg item hitem

theorem Notional.le_sum (h : Notional notionals) {item : String × Decimal} (hi : item ∈ notionals) :
    item.2.value ≤ (weightsOf notionals).sum :=
  List.single_le_sum h.weights_nonneg _ (List.mem_map.mpr ⟨item, hi, rfl⟩)

/-- The sum is at least one unit. -/
theorem Holds.unit_le (h : Holds cents notionals e) (hn : Notional notionals) : 10 ^ e ≤ (weightsOf notionals).sum := by
  have hsum : ∀ l : List (String × Decimal), (∀ item ∈ l, e ≤ item.2.exp) → ∃ n : ℤ, (weightsOf l).sum = n * (10 : ℚ) ^ e := by
    intro l hl
    induction l with
    | nil => exact ⟨0, by simp [weightsOf]⟩
    | cons item l ih =>
      obtain ⟨n, hn⟩ := ih fun x hx => hl x (List.mem_cons_of_mem _ hx)
      refine ⟨item.2.scaled e + n, ?_⟩
      rw [weightsOf, List.map_cons, List.sum_cons, ← weightsOf, hn, ← Decimal.scaled_mul (hl item (List.mem_cons_self ..))]
      push_cast
      ring
  obtain ⟨n, hvalue⟩ := hsum notionals h.exp
  have he := Decimal.ten_zpow_pos e
  have hpos : (0 : ℚ) < n := (mul_pos_iff_of_pos_right he).mp (hvalue ▸ hn.positive)
  have h1 : (1 : ℚ) ≤ n := by
    have : 0 < n := by exact_mod_cast hpos
    exact_mod_cast this
  rw [hvalue]
  exact le_mul_of_one_le_left he.le h1

theorem Holds.cents_lt (h : Holds cents notionals e) (hn : Notional notionals) : cents + 1 < 10 ^ 27 := by
  have he := Decimal.ten_zpow_pos e
  have hle : ((cents : ℚ) + 1) * 10 ^ e < 10 ^ 27 * 10 ^ e :=
    (mul_le_mul_of_nonneg_left (h.unit_le hn) (by positivity)).trans_lt h.small
  have := (mul_lt_mul_iff_left₀ he).mp hle
  exact_mod_cast this

/-- `_exact_cents` of a number of cents. -/
theorem exactDecimalCents_eq (h : total.value = cents / 100) (hlt : cents < 10 ^ 27) (name : String) :
    exactDecimalCents total name = .ok (cents : ℤ) := by
  have hpow : ((10 : ℚ) ^ (-2 : ℤ)) = 1 / 100 := by norm_num
  have hunits : total.value = ((cents : ℤ) : ℚ) * 10 ^ (-2 : ℤ) := by
    rw [h, hpow]
    push_cast
    ring
  obtain ⟨rounded, hquantize, hvalue⟩ := Decimal.quantize_eq hunits
    (by rw [Int.natAbs_natCast]; exact hlt.trans (by norm_num [Decimal.precision]))
  have h0 : 0 ≤ total.value := by
    rw [h]
    positivity
  have hnat : ((100 : ℕ) : Decimal).value = 100 := Decimal.value_natCast 100
  have hproduct : total.value * ((100 : ℕ) : Decimal).value = ((cents : ℤ) : ℚ) * 10 ^ (0 : ℤ) := by
    rw [h, hnat, zpow_zero]
    push_cast
    ring
  have hexact := Decimal.value_mul (a := total) (b := ((100 : ℕ) : Decimal)) (by
    rw [hproduct]
    refine Decimal.representable_units ?_
    have : ((cents : ℕ) : ℚ) < 10 ^ 27 := by exact_mod_cast hlt
    rw [zpow_zero, mul_one, mul_one, abs_of_nonneg (by positivity), Decimal.precision]
    push_cast
    linarith)
  rw [hproduct, zpow_zero, mul_one] at hexact
  rw [exactDecimalCents, raiseIf_of_not (by rw [Decimal.lt_iff, Decimal.value_zero]; exact not_lt.mpr h0), ok_bind,
    hquantize, orRaise, ok_bind, raiseIf_of_not (by rw [Bool.not_eq_false, Decimal.beq_iff, hvalue]), ok_bind,
    Decimal.toInt_eq (by rw [hexact]; positivity), hexact, Int.floor_intCast]
  rfl

/-- The denominator is the exact sum. -/
theorem denominator_eq (hn : Notional notionals) (hh : Holds cents notionals e) :
    ((notionals.map Prod.snd).foldl (· + ·) (0 : Decimal)).value = (weightsOf notionals).sum ∧
      e ≤ ((notionals.map Prod.snd).foldl (· + ·) (0 : Decimal)).exp := by
  have hmap : (notionals.map Prod.snd).map Decimal.value = weightsOf notionals := List.map_map
  have hsmall : (weightsOf notionals).sum < 10 ^ Decimal.precision * 10 ^ e := by
    have h1 : (weightsOf notionals).sum ≤ (cents + 1) * (weightsOf notionals).sum :=
      le_mul_of_one_le_left hn.positive.le (by linarith [show (0 : ℚ) ≤ cents from Nat.cast_nonneg _])
    have h2 : (10 : ℚ) ^ 27 * 10 ^ e ≤ 10 ^ Decimal.precision * 10 ^ e :=
      mul_le_mul_of_nonneg_right (by norm_num [Decimal.precision]) (Decimal.ten_zpow_pos e).le
    linarith [hh.small]
  have := Decimal.value_foldl_add (a := 0) (e := e) (l := notionals.map Prod.snd) (fun d hd => by
    obtain ⟨item, hitem, rfl⟩ := List.mem_map.mp hd
    exact ⟨hh.exp item hitem, hn.nonneg item hitem⟩) hh.place (by simp) (by rw [hmap]; simpa using hsmall)
  rwa [Decimal.value_zero, zero_add, hmap] at this

/-- The integer part of a computed share is that of the exact share. -/
theorem floor_share (hn : Notional notionals) (hh : Holds cents notionals e)
    (hvalue : denominator.value = (weightsOf notionals).sum) (hexp : e ≤ denominator.exp) {item : String × Decimal}
    (hi : item ∈ notionals) :
    (Decimal.ofInt cents * item.2 / denominator).toInt = ⌊share cents (weightsOf notionals) item.2.value⌋ := by
  have he := Decimal.ten_zpow_pos e
  have hcents : (Decimal.ofInt cents).value = cents := by rw [Decimal.value_ofInt, Int.cast_natCast]
  have hproduct : (cents : ℚ) * item.2.value < 10 ^ 27 * 10 ^ e := by
    have h1 : (cents : ℚ) * item.2.value ≤ cents * (weightsOf notionals).sum :=
      mul_le_mul_of_nonneg_left (hn.le_sum hi) (Nat.cast_nonneg _)
    linarith [hh.small, hn.positive]
  have hnonneg : (0 : ℚ) ≤ cents * item.2.value := mul_nonneg (Nat.cast_nonneg _) (hn.nonneg item hi)
  have hscaled := Decimal.scaled_mul (hh.exp item hi)
  have hexact : (Decimal.ofInt cents * item.2).value = cents * item.2.value := by
    rw [Decimal.value_mul, hcents]
    have hunits : (cents : ℚ) * item.2.value = (((cents : ℤ) * item.2.scaled e : ℤ) : ℚ) * 10 ^ e := by
      rw [← hscaled]
      push_cast
      ring
    rw [hcents, hunits]
    refine Decimal.representable_units ?_
    rw [← hunits, abs_of_nonneg hnonneg]
    refine hproduct.trans_le (mul_le_mul_of_nonneg_right ?_ he.le)
    norm_num [Decimal.precision]
  have hcoeff : (Decimal.ofInt cents).coeff * item.2.coeff < 10 ^ Decimal.precision := by
    have hmag : (item.2.coeff : ℚ) * 10 ^ e ≤ item.2.value := by
      rw [← abs_of_nonneg (hn.nonneg item hi), Decimal.abs_value]
      exact mul_le_mul_of_nonneg_left (zpow_le_zpow_right₀ (by norm_num) (hh.exp item hi)) (Nat.cast_nonneg _)
    have h1 : ((cents : ℚ) * item.2.coeff) * 10 ^ e < 10 ^ 27 * 10 ^ e := by
      rw [mul_assoc]
      exact (mul_le_mul_of_nonneg_left hmag (Nat.cast_nonneg _)).trans_lt hproduct
    have h2 : cents * item.2.coeff < 10 ^ 27 := by exact_mod_cast (mul_lt_mul_iff_left₀ he).mp h1
    exact h2.trans (by norm_num [Decimal.precision])
  rw [Decimal.toInt_div (e := e) (by rw [hexact]; exact hnonneg) (by rw [hvalue]; exact hn.positive)
    (by rw [Decimal.exp_mul hcoeff]; simpa [Decimal.ofInt] using hh.exp item hi) hexp (by rw [hexact]; exact hproduct),
    hexact, hvalue, share]

/-- `allocate_shared_cents` apportions by exact shares. -/
theorem sharedCents_eq (hn : Notional notionals) (hh : Holds cents notionals e)
    (hvalue : denominator.value = (weightsOf notionals).sum) (hexp : e ≤ denominator.exp) :
    sharedCents cents notionals denominator = apportion cents (weightsOf notionals) := by
  have hfloors : (notionals.map fun item => Decimal.ofInt cents * item.2 / denominator).map Decimal.toInt =
      floors cents (weightsOf notionals) := by
    rw [floors, weightsOf, List.map_map, List.map_map]
    exact List.map_congr_left fun item hi => floor_share hn hh hvalue hexp hi
  have hpositions : (notionals.zipIdx.filter fun item => decide ((0 : Decimal) < item.1.2)).map Prod.snd =
      positions (weightsOf notionals) := by
    rw [positions, weightsOf, List.zipIdx_map, List.filter_map, List.map_map]
    refine congrArg₂ List.map rfl (List.filter_congr fun item _ => ?_)
    simp [Decimal.lt_iff]
  obtain ⟨h0, h1⟩ := left_bounds cents hn.weights_nonneg hn.positive.ne'
  unfold sharedCents apportion increment
  simp only [hfloors, hpositions]
  split
  · rename_i hzero
    rw [hzero, Int.toNat_zero, Nat.sub_zero, List.drop_length]
  · rw [sliceFrom, if_neg (by omega)]
    congr 2
    omega

/-- The order in which the code takes the notionals. -/
def orderedNotionals (notionals : List (String × Decimal)) : List (String × Decimal) :=
  notionals.insertionSort fun a b => a.1 ≤ b.1

/-- The amounts that the code writes for its cents. -/
def written (ordered : List (String × Decimal)) (cents : List ℤ) : List (String × Decimal) :=
  ordered.zipWith (fun item cents => (item.1, Decimal.ofInt cents / ((100 : ℕ) : Decimal))) cents

theorem map_fst_written {cs : List ℤ} (h : cs.length = ordered.length) :
    (written ordered cs).map Prod.fst = ordered.map Prod.fst := by
  induction ordered generalizing cs with
  | nil => simp [written]
  | cons item ordered ih =>
    cases cs with
    | nil => cases h
    | cons c cs =>
      have := ih (show cs.length = ordered.length from Nat.succ.inj h)
      rw [written, List.zipWith_cons_cons, List.map_cons, List.map_cons, ← written, this]

theorem sum_written {cs : List ℤ} (h : cs.length = ordered.length)
    (hv : ∀ c ∈ cs, (Decimal.ofInt c / ((100 : ℕ) : Decimal)).value = c / 100) :
    ((written ordered cs).map fun item => item.2.value).sum = cs.sum / 100 := by
  induction ordered generalizing cs with
  | nil => simp [written, List.eq_nil_of_length_eq_zero h]
  | cons item ordered ih =>
    cases cs with
    | nil => cases h
    | cons c cs =>
      have := ih (show cs.length = ordered.length from Nat.succ.inj h) fun x hx => hv x (List.mem_cons_of_mem _ hx)
      rw [written, List.zipWith_cons_cons, List.map_cons, List.sum_cons, ← written, this, List.sum_cons,
        hv c (List.mem_cons_self ..)]
      push_cast
      ring

/-- `allocate_shared_cents` returns the apportionment of the ordered notionals. -/
theorem allocateSharedCents_eq (htotal : total.value = cents / 100) (hn : Notional notionals) (hh : Holds cents notionals e) :
    allocateSharedCents total notionals = .ok (written (orderedNotionals notionals)
      (apportion cents (weightsOf (orderedNotionals notionals)))) := by
  have hperm : notionals.Perm (orderedNotionals notionals) := (List.perm_insertionSort _ _).symm
  have hon := hn.perm hperm
  obtain ⟨hvalue, hexp⟩ := denominator_eq hon (hh.perm hperm)
  have hlt : cents < 10 ^ 27 := by
    have := hh.cents_lt hn
    omega
  have hne : notionals ≠ [] := by
    rintro rfl
    exact lt_irrefl _ hn.positive
  have hchecks : ((orderedNotionals notionals).forM fun item => do
      requireText item.1 "strategy_id"
      raiseIf (item.2 < 0) (portfolioError "notional cannot be negative") : Outcome Unit) = .ok () := by
    rw [forM_eq_ok]
    intro item hitem
    rw [requireText, raiseIf_of_not (not_not.mpr (hon.text item hitem)), ok_bind]
    refine raiseIf_of_not ?_
    rw [Decimal.lt_iff, Decimal.value_zero]
    exact not_lt.mpr (hon.nonneg item hitem)
  rw [allocateSharedCents, exactDecimalCents_eq htotal hlt, ok_bind, raiseIf_of_not hne, ok_bind,
    raiseIf_of_not (not_not.mpr hn.nodup), ok_bind]
  rw [← orderedNotionals]
  dsimp only
  rw [hchecks, ok_bind, raiseIf_of_not (by rw [Decimal.le_iff, Decimal.value_zero, hvalue]; exact not_le.mpr hon.positive),
    ok_bind, sharedCents_eq hon (hh.perm hperm) hvalue hexp]
  rfl

theorem orderedNotionals_perm (hn : Notional notionals) (hp : notionals.Perm ordered) :
    orderedNotionals notionals = orderedNotionals ordered := insertionSort_key_eq_of_perm hn.nodup hp

/-- A number of cents that is no more than the total is written as an exact decimal. -/
theorem value_cents {c : ℤ} (h0 : 0 ≤ c) (h : c < 10 ^ 28) :
    (Decimal.ofInt c / ((100 : ℕ) : Decimal)).value = c / 100 := by
  have hpow : ((10 : ℚ) ^ (-2 : ℤ)) = 1 / 100 := by norm_num
  have hquotient : (Decimal.ofInt c).value / ((100 : ℕ) : Decimal).value = (c : ℚ) * 10 ^ (-2 : ℤ) := by
    rw [Decimal.value_ofInt, Decimal.value_natCast, hpow]
    push_cast
    ring
  rw [Decimal.value_div (by rw [Decimal.value_natCast]; norm_num), hquotient, hpow]
  · ring
  · rw [hquotient]
    refine Decimal.representable_units ?_
    have hc : (c : ℚ) < 10 ^ 28 := by exact_mod_cast h
    have hc0 : (0 : ℚ) ≤ c := by exact_mod_cast h0
    rw [abs_of_nonneg (mul_nonneg hc0 (Decimal.ten_zpow_pos _).le)]
    exact mul_lt_mul_of_pos_right hc (Decimal.ten_zpow_pos _)

/-- The amounts of `allocate_shared_cents`: whole cents that add up to the total, nothing for
a notional of zero, and for each key its exact share up to one cent. -/
theorem shared_cents (htotal : total.value = cents / 100) (hn : Notional notionals) (hh : Holds cents notionals e) :
    ∃ shares, allocateSharedCents total notionals = .ok shares ∧
      (∀ supplied, notionals.Perm supplied → allocateSharedCents total supplied = .ok shares) ∧
      (shares.map Prod.fst).Perm (notionals.map Prod.fst) ∧
      (shares.map fun item => item.2.value).sum = total.value ∧
      ∀ item ∈ notionals, ∃ amount, (item.1, amount) ∈ shares ∧ ∃ c : ℕ, amount.value = c / 100 ∧
        (item.2.value = 0 → c = 0) ∧
        |(c : ℚ) - cents * item.2.value / (notionals.map fun item => item.2.value).sum| ≤ 1 := by
  have hperm : notionals.Perm (orderedNotionals notionals) := (List.perm_insertionSort _ _).symm
  have hon := hn.perm hperm
  have hlength : (apportion cents (weightsOf (orderedNotionals notionals))).length = (orderedNotionals notionals).length := by
    rw [length_apportion, weightsOf, List.length_map]
  have hsum := sum_apportion cents hon.weights_nonneg hon.positive.ne'
  have hnonneg : ∀ c ∈ apportion cents (weightsOf (orderedNotionals notionals)), 0 ≤ c := by
    intro c hc
    obtain ⟨i, hi⟩ := List.mem_iff_getElem?.mp hc
    obtain ⟨w, hw⟩ : ∃ w, (weightsOf (orderedNotionals notionals))[i]? = some w := by
      have := (List.getElem?_eq_some_iff.mp hi).1
      rw [length_apportion] at this
      exact ⟨_, List.getElem?_eq_getElem this⟩
    obtain ⟨c', hc', h0, -⟩ := apportion_near cents hon.weights_nonneg hw
    rw [hi] at hc'
    cases hc'
    exact h0
  have hvalue : ∀ c ∈ apportion cents (weightsOf (orderedNotionals notionals)),
      (Decimal.ofInt c / ((100 : ℕ) : Decimal)).value = c / 100 := by
    intro c hc
    refine value_cents (hnonneg c hc) ?_
    have hle : c ≤ cents := hsum ▸ List.single_le_sum hnonneg c hc
    have := hh.cents_lt hn
    omega
  refine ⟨_, allocateSharedCents_eq htotal hn hh, fun supplied hs => ?_, ?_, ?_, fun item hitem => ?_⟩
  · rw [allocateSharedCents_eq htotal (hn.perm hs) (hh.perm hs), orderedNotionals_perm hn hs]
  · rw [map_fst_written hlength]
    exact hperm.symm.map _
  · rw [sum_written hlength hvalue, hsum, htotal, Int.cast_natCast]
  · obtain ⟨i, hi⟩ := List.mem_iff_getElem?.mp (hperm.mem_iff.mp hitem)
    have hw : (weightsOf (orderedNotionals notionals))[i]? = some item.2.value := by
      rw [weightsOf, List.getElem?_map, hi]
      rfl
    obtain ⟨c, hc, h0, hzero, hnear⟩ := apportion_near cents hon.weights_nonneg hw
    refine ⟨Decimal.ofInt c / ((100 : ℕ) : Decimal), ?_, c.toNat, ?_, ?_, ?_⟩
    · refine List.mem_of_getElem? (i := i) ?_
      rw [written, List.getElem?_zipWith, hi, hc]
    · rw [hvalue c (List.mem_of_getElem? hc), ← Int.cast_natCast, Int.toNat_of_nonneg h0]
    · intro hz
      rw [hzero hz, Int.toNat_zero]
    · rw [← Int.cast_natCast c.toNat, Int.toNat_of_nonneg h0]
      have hs : (notionals.map fun item => item.2.value).sum = (weightsOf (orderedNotionals notionals)).sum :=
        (hperm.map _).sum_eq
      rw [hs]
      exact hnear

end Shared

/-! ## Equal budgets -/

section Equal

variable {digests : EvidenceDigests} {admissions supplied : List PortfolioAdmission} {capital : ℚ} {currency : Currency}
  {hypothetical : Bool} {allocation : PortfolioAllocation}

/-- The admissions that take part. -/
def eligible (hypothetical : Bool) (admissions : List PortfolioAdmission) : List PortfolioAdmission :=
  admissions.filter fun item =>
    decide (item.admissionClass = .evidenceSupportedResearchEligibility) ||
      (hypothetical && decide (item.admissionClass = .hypotheticalParticipation))

theorem uniqueAdmissions_perm (hp : admissions.Perm supplied) (h : uniqueAdmissions digests admissions = .ok ()) :
    uniqueAdmissions digests supplied = .ok () ∧ (admissions.map fun item => item.strategy.strategyId).Nodup := by
  obtain ⟨_, hall, h⟩ := bind_eq_ok.mp h
  have hn := raiseIf_eq_ok.mp h
  rw [not_or, not_not, not_not] at hn
  refine ⟨bind_eq_ok.mpr ⟨(), ?_, raiseIf_eq_ok.mpr ?_⟩, hn.1⟩
  · rw [forM_eq_ok] at hall ⊢
    exact fun item hi => hall item (hp.mem_iff.mpr hi)
  · rw [not_or, not_not, not_not]
    exact ⟨(hp.map _).nodup_iff.mp hn.1, (hp.map _).nodup_iff.mp hn.2⟩

/-- What `allocate_equal_budgets` returns. -/
theorem allocate_eq_ok (h : allocateEqualBudgets digests admissions capital currency hypothetical = .ok allocation) :
    uniqueAdmissions digests admissions = .ok () ∧ exactCents capital "total_capital" = .ok allocation.totalCents ∧
      allocation.budgets = equalBudgets allocation.totalCents ((eligible hypothetical admissions).insertionSort
        fun a b => a.strategy.strategyId ≤ b.strategy.strategyId) ∧
      allocation.unallocatedCents = allocation.totalCents - (allocation.budgets.map StrategyBudget.cents).sum := by
  obtain ⟨_, hunique, h⟩ := bind_eq_ok.mp h
  obtain ⟨-, h⟩ := raiseIf_bind_eq_ok.mp h
  obtain ⟨cents, hcents, h⟩ := bind_eq_ok.mp h
  cases h
  exact ⟨hunique, hcents, rfl, rfl⟩

/-- Any other order of the admissions has the same allocation. -/
theorem allocate_perm (hp : admissions.Perm supplied)
    (h : allocateEqualBudgets digests admissions capital currency hypothetical = .ok allocation) :
    allocateEqualBudgets digests supplied capital currency hypothetical = .ok allocation := by
  obtain ⟨hunique, -⟩ := allocate_eq_ok h
  obtain ⟨hsupplied, hnodup⟩ := uniqueAdmissions_perm hp hunique
  have hsort : ((eligible hypothetical admissions).insertionSort fun a b => a.strategy.strategyId ≤ b.strategy.strategyId) =
      (eligible hypothetical supplied).insertionSort fun a b => a.strategy.strategyId ≤ b.strategy.strategyId :=
    insertionSort_key_eq_of_perm (hnodup.sublist (List.filter_sublist.map _)) (hp.filter _)
  rw [← h, allocateEqualBudgets, allocateEqualBudgets, hsupplied, hunique, ← eligible, ← eligible, hsort]

theorem exactCents_value {cents : ℤ} {name : String} (h : exactCents capital name = .ok cents) : capital = cents / 100 := by
  obtain ⟨hvalid, h⟩ := raiseIf_bind_eq_ok.mp h
  cases h
  rw [not_or, not_not] at hvalid
  have := Rat.coe_int_num_of_den_eq_one hvalid.2
  rw [this, mul_div_cancel_right₀ _ (by norm_num)]

/-- Equal budgets are within one cent of each other. -/
theorem equalBudgets_near (cents : ℤ) (l : List PortfolioAdmission) :
    ∀ a ∈ equalBudgets cents l, ∀ b ∈ equalBudgets cents l, |a.cents - b.cents| ≤ 1 := by
  have hcents : ∀ a ∈ equalBudgets cents l, a.cents = cents / l.length ∨ a.cents = cents / l.length + 1 := by
    intro a ha
    obtain ⟨i, hi, rfl⟩ := List.mem_mapIdx.mp ha
    dsimp only
    split
    · exact Or.inr rfl
    · exact Or.inl (add_zero _)
  intro a ha b hb
  rw [abs_le]
  rcases hcents a ha with h | h <;> rcases hcents b hb with h' | h' <;> omega

/-- The budgets and the unallocated cents of an accepted allocation are the whole capital. -/
theorem equal_budgets (h : allocateEqualBudgets digests admissions capital currency hypothetical = .ok allocation) :
    capital = allocation.totalCents / 100 ∧
      (allocation.budgets.map StrategyBudget.cents).sum + allocation.unallocatedCents = allocation.totalCents ∧
      (∀ a ∈ allocation.budgets, ∀ b ∈ allocation.budgets, |a.cents - b.cents| ≤ 1) ∧
      ∀ supplied, admissions.Perm supplied →
        allocateEqualBudgets digests supplied capital currency hypothetical = .ok allocation := by
  obtain ⟨-, hcents, hbudgets, hleft⟩ := allocate_eq_ok h
  refine ⟨exactCents_value hcents, by rw [hleft]; ring, ?_, fun supplied hp => allocate_perm hp h⟩
  rw [hbudgets]
  exact equalBudgets_near _ _

end Equal

/-! ## Both -/

/-- A shared adjustment is divided into whole cents that add up to it, in any order of the
keys, with nothing for a notional of zero and at most one cent off the exact share of each
key; and equal budgets with the unallocated cents are the whole capital, within one cent of
each other, in any order of the strategies. -/
theorem allocate_cents :
    (∀ (total : Decimal) (notionals : List (String × Decimal)) (cents : ℕ) (e : ℤ), total.value = cents / 100 →
      Notional notionals → Holds cents notionals e →
      ∃ shares, allocateSharedCents total notionals = .ok shares ∧
        (∀ supplied, notionals.Perm supplied → allocateSharedCents total supplied = .ok shares) ∧
        (shares.map Prod.fst).Perm (notionals.map Prod.fst) ∧
        (shares.map fun item => item.2.value).sum = total.value ∧
        ∀ item ∈ notionals, ∃ amount, (item.1, amount) ∈ shares ∧ ∃ c : ℕ, amount.value = c / 100 ∧
          (item.2.value = 0 → c = 0) ∧
          |(c : ℚ) - cents * item.2.value / (notionals.map fun item => item.2.value).sum| ≤ 1) ∧
    ∀ (digests : EvidenceDigests) (admissions : List PortfolioAdmission) (capital : ℚ) (currency : Currency)
      (hypothetical : Bool) (allocation : PortfolioAllocation),
      allocateEqualBudgets digests admissions capital currency hypothetical = .ok allocation →
      capital = allocation.totalCents / 100 ∧
        (allocation.budgets.map StrategyBudget.cents).sum + allocation.unallocatedCents = allocation.totalCents ∧
        (∀ a ∈ allocation.budgets, ∀ b ∈ allocation.budgets, |a.cents - b.cents| ≤ 1) ∧
        ∀ supplied, admissions.Perm supplied →
          allocateEqualBudgets digests supplied capital currency hypothetical = .ok allocation :=
  ⟨fun _ _ _ _ htotal hn hh => shared_cents htotal hn hh, fun _ _ _ _ _ _ h => equal_budgets h⟩

/-! ### Samples -/

namespace Sample

/-- Two cents for weights of one, one and two. -/
def twoCents : Decimal := ⟨false, 2, -2⟩

def thirds : List (String × Decimal) := [("C", ⟨false, 2, 0⟩), ("A", ⟨false, 1, 0⟩), ("B", ⟨false, 1, 0⟩)]

theorem thirds_notional : Notional thirds where
  nodup := by decide
  text := by decide
  nonneg := by
    intro item hi
    simp only [thirds, List.mem_cons, List.not_mem_nil, or_false] at hi
    rcases hi with rfl | rfl | rfl <;> norm_num [Decimal.value, Decimal.mag]
  positive := by norm_num [thirds, weightsOf, Decimal.value, Decimal.mag]

theorem thirds_holds : Holds 2 thirds 0 where
  place := le_rfl
  exp := by decide
  small := by norm_num [thirds, weightsOf, Decimal.value, Decimal.mag]

/-- As many cents as 28 digits can hold, for two equal weights. -/
def largest : Decimal := ⟨false, 10 ^ 28 - 1, -2⟩

def halves : List (String × Decimal) := [("A", ⟨false, 1, 0⟩), ("B", ⟨false, 1, 0⟩)]

end Sample

theorem allocate_cents_sample :
    (∃ shares, allocateSharedCents Sample.twoCents Sample.thirds = .ok shares ∧
      (shares.map fun item => item.2.value).sum = Sample.twoCents.value) ∧
    ∃ (admissions : List PortfolioAdmission) (allocation : PortfolioAllocation), admissions.length = 2 ∧
      allocateEqualBudgets Sample.env.toEvidenceDigests admissions (1001 / 100) usd true = .ok allocation ∧
      (allocation.budgets.map StrategyBudget.cents).sum + allocation.unallocatedCents = allocation.totalCents := by
  have hvalue : Sample.twoCents.value = ((2 : ℕ) : ℚ) / 100 := by
    norm_num [Sample.twoCents, Decimal.value, Decimal.mag]
  obtain ⟨shares, hshares, -, -, hsum, -⟩ :=
    allocate_cents.1 _ _ 2 0 hvalue Sample.thirds_notional Sample.thirds_holds
  have hok : (Sample.opened.toOption.map fun x =>
      (x.2.2.admissions.length, (allocateEqualBudgets Sample.env.toEvidenceDigests x.2.2.admissions (1001 / 100) usd
        true).toOption.isSome)) = some (2, true) := by decide +kernel
  obtain ⟨⟨_, _, book⟩, -, hbook⟩ := Option.map_eq_some_iff.mp hok
  simp only [Prod.mk.injEq] at hbook
  obtain ⟨allocation, hallocation⟩ := Option.isSome_iff_exists.mp hbook.2
  exact ⟨⟨shares, hshares, hsum⟩, book.admissions, allocation, hbook.1, ok_of_toOption hallocation,
    (allocate_cents.2 _ _ _ _ _ _ (ok_of_toOption hallocation)).2.1⟩

/-- The key whose exact share is one cent has two; and past the digits of the context the
amounts do not add up to the total. -/
theorem allocate_cents_off :
    (∃ shares amount, allocateSharedCents Sample.twoCents Sample.thirds = .ok shares ∧ ("C", amount) ∈ shares ∧
      ¬ |amount.value - Sample.twoCents.value * 2 / (Sample.thirds.map fun item => item.2.value).sum| < 1 / 100) ∧
    ∃ shares, allocateSharedCents Sample.largest Sample.halves = .ok shares ∧
      (shares.map fun item => item.2.value).sum ≠ Sample.largest.value := by
  refine ⟨⟨[("A", ⟨false, 0, 0⟩), ("B", ⟨false, 0, 0⟩), ("C", ⟨false, 2, -2⟩)], ⟨false, 2, -2⟩,
    ok_of_toOption (by decide +kernel), by simp, ?_⟩,
    [("A", ⟨false, 5 * 10 ^ 25, 0⟩), ("B", ⟨false, 5 * 10 ^ 25, 0⟩)], ok_of_toOption (by decide +kernel), ?_⟩
  · norm_num [Sample.twoCents, Sample.thirds, Decimal.value, Decimal.mag]
  · norm_num [Sample.largest, Decimal.value, Decimal.mag]

end ATB.Proof.Portfolio
