import AutomatedTradingBot.Framework.Best
import AutomatedTradingBot.Framework.EqualShares
import AutomatedTradingBot.Framework.Refusal
import AutomatedTradingBot.Proof.Lineages.Actions
import AutomatedTradingBot.Source.Strategies.Momentum
import AutomatedTradingBot.Source.Strategies.Trend

/-!
# What the monthly strategies allocate

* `Allocates`: the capital is shared equally, in the most whole shares that a share can buy;
* `momentum_correct`, `trend_correct`: what an accepted request selects and allocates, in any
  order of its candidates.
-/

namespace ATB.Proof.Strategies

open ATB.Strategies EqualShares Best
open Lineages (instrumentId_toString_injective)

/-! ## Allocations -/

/-- What is bought of one instrument. -/
structure Position where
  price : ℚ
  shares : Int
  cash : ℚ

/-- The capital is shared by `n` names, and the positions are the most that their shares buy. -/
structure Allocates (capital : ℚ) (n : Nat) (positions : List Position) (residual : ℚ) : Prop where
  greatest : ∀ p ∈ positions, IsGreatest {k : Int | p.price * k ≤ capital / n} p.shares
  cash : ∀ p ∈ positions, p.cash = p.price * p.shares
  within : (positions.map Position.cash).sum ≤ capital
  residual : residual + (positions.map Position.cash).sum = capital

/-- The position of a candidate at a price. -/
def position (cash price : ℚ) : Position := ⟨price, wholeShares cash price, price * wholeShares cash price⟩

theorem allocates {α : Type} {capital : ℚ} {n : Nat} {l : List α} {price : α → ℚ} (hc : 0 < capital)
    (hl : l.length ≤ n) (hprice : ∀ a ∈ l, 0 < price a) :
    Allocates capital n (l.map fun a => position (capital / n) (price a))
      (capital - ((l.map fun a => position (capital / n) (price a)).map Position.cash).sum) := by
  refine ⟨?_, ?_, ?_, sub_add_cancel _ _⟩
  · exact List.forall_mem_map.mpr fun a ha => isGreatest_units (hprice a ha)
  · exact List.forall_mem_map.mpr fun a _ => rfl
  · rw [List.map_map]
    exact sum_cost_le hc.le hl fun a ha => (isGreatest_units (hprice a ha)).1

theorem selectedCount_eq (n : Nat) : selectedCount n = n / 5 := by
  have h : (1 / 5 : ℚ) * n = (n : ℚ) / (5 : ℕ) := by
    push_cast
    ring
  rw [selectedCount, h, Rat.floor_natCast_div_natCast]
  rfl

/-- The index of an endpoint that was accepted. -/
theorem totalReturnIndex_pos {inWindow : Calendars.LocalDate → Bool} {windowText positiveText : String}
    {instrumentId : InstrumentId} {q : Governance.DatasetQualification} {t : Timestamp} {e : TotalReturnEndpoint} {u : Unit}
    (h : validateEndpoint inWindow windowText positiveText instrumentId q t e = .ok u) : 0 < e.totalReturnIndex := by
  simp only [validateEndpoint, bind_eq_ok, raiseIf_eq_ok, exists_const, not_le] at h
  exact h.2.2.2.1

/-- Keys that end in the name are distinct when the names are. -/
theorem nodup_keys {α : Type} {l : List α} {name : α → InstrumentId} {key : α → ℚ ×ₗ String}
    (hk : ∀ a b, key a = key b → (name a).toString = (name b).toString) (h : (l.map name).Nodup) : (l.map key).Nodup :=
  (List.Nodup.of_map _ h).map_on fun a ha b hb e =>
    List.inj_on_of_nodup_map h ha hb (instrumentId_toString_injective (hk a b e))

/-! ## Momentum -/

section Momentum

open Momentum

variable {r : MomentumRequest}

/-- What the accepted request of a momentum portfolio has. -/
structure MomentumAccepted (r : MomentumRequest) : Prop where
  check : r.check = .ok ()
  score : ∀ c ∈ r.candidates, r.score c = .ok ()
  count : 1 ≤ r.count
  funded : ∀ t ∈ r.targets, 0 < t.wholeShares

theorem constructMomentumPortfolio_eq_ok {p : MomentumPortfolio} :
    constructMomentumPortfolio r = .ok p ↔ MomentumAccepted r ∧ r.portfolio = p := by
  simp only [constructMomentumPortfolio, bind_eq_ok, raiseIf_eq_ok, forM_eq_ok, exists_const, pure_eq_ok, not_lt,
    not_exists, not_and, not_le]
  constructor
  · rintro ⟨_, hcheck, hscore, hcount, hfunded, e⟩
    exact ⟨⟨hcheck, hscore, hcount, hfunded⟩, e⟩
  · rintro ⟨h, e⟩
    exact ⟨(), h.check, h.score, h.count, h.funded, e⟩

theorem momentum_check_eq_ok : r.check = .ok () ↔ r.candidates ≠ [] ∧ qualified r.qualification ∧
    (r.decisionTime.value < r.releaseTime.value ∧ r.releaseTime.value < r.fillTime.value) ∧ 0 < r.hypotheticalCapital ∧
    ¬ (r.fixtureMinimum = true ∧ r.candidates.length < 20) ∧ (r.candidates.map MomentumCandidate.instrumentId).Nodup := by
  simp only [MomentumRequest.check, validDecimal, bind_eq_ok, raiseIf_eq_ok, exists_const, not_le, not_not, ne_eq]

def MomentumTarget.position (t : MomentumTarget) : Position := ⟨t.executionPrice, t.wholeShares, t.allocatedCash⟩

/-- What a portfolio selects and allocates, and that no order of the candidates changes it. -/
def MomentumCorrect (r : MomentumRequest) (p : MomentumPortfolio) : Prop :=
  ∃ chosen, IsBest MomentumCandidate.key (r.candidates.length / 5) r.candidates chosen ∧
    (p.targets.map fun t => (t.instrumentId, t.rank, t.signal, t.executionPrice)) =
      (chosen.zipIdx 1).map (fun c => (c.1.instrumentId, c.2, c.1.signal, c.1.executionPrice)) ∧
    Allocates r.hypotheticalCapital chosen.length (p.targets.map MomentumTarget.position) p.residualCash ∧
    ∀ candidates, candidates.Perm r.candidates → constructMomentumPortfolio { r with candidates := candidates } = .ok p

theorem momentum_count : r.count = r.candidates.length / 5 := by
  rw [MomentumRequest.count, selectedCount_eq, MomentumRequest.scored, (List.perm_insertionSort _ _).length_eq]

theorem momentum_keys (h : (r.candidates.map MomentumCandidate.instrumentId).Nodup) :
    (r.candidates.map MomentumCandidate.key).Nodup :=
  nodup_keys (fun _ _ e => (Prod.ext_iff.mp (toLex_inj.mp e)).2) h

/-- The order of the candidates does not matter. -/
theorem MomentumAccepted.perm (h : MomentumAccepted r) {candidates : List MomentumCandidate}
    (hp : candidates.Perm r.candidates) :
    MomentumAccepted { r with candidates := candidates } ∧ { r with candidates := candidates }.portfolio = r.portfolio := by
  have hcheck := momentum_check_eq_ok.mp h.check
  have hscored : { r with candidates := candidates }.scored = r.scored :=
    (insertionSort_key_eq_of_perm (momentum_keys hcheck.2.2.2.2.2) hp.symm).symm
  have hcount : { r with candidates := candidates }.count = r.count := congrArg selectedCount (congrArg _ hscored)
  have htarget : { r with candidates := candidates }.target = r.target := by
    funext entry
    simp only [MomentumRequest.target, MomentumRequest.cashPerName, hcount]
  have htargets : { r with candidates := candidates }.targets = r.targets := by
    rw [MomentumRequest.targets, htarget, MomentumRequest.selected, hscored, hcount]
    rfl
  refine ⟨⟨?_, fun c hc => h.score c (hp.mem_iff.mp hc), ?_, ?_⟩, ?_⟩
  · obtain ⟨hne, hq, htimes, hcapital, hfixture, hnodup⟩ := hcheck
    refine momentum_check_eq_ok.mpr ⟨?_, hq, htimes, hcapital, ?_, (hp.map _).nodup_iff.mpr hnodup⟩
    · exact fun e => hne (List.nil_perm.mp (e ▸ hp))
    · rwa [hp.length_eq]
  · rw [hcount]
    exact h.count
  · rw [htargets]
    exact h.funded
  · simp only [MomentumRequest.portfolio, hscored, hcount, htargets]

theorem momentum_correct {p : MomentumPortfolio} (h : constructMomentumPortfolio r = .ok p) : MomentumCorrect r p := by
  obtain ⟨haccepted, rfl⟩ := constructMomentumPortfolio_eq_ok.mp h
  obtain ⟨-, -, -, hcapital, -, hnodup⟩ := momentum_check_eq_ok.mp haccepted.check
  have hbest : IsBest MomentumCandidate.key (r.candidates.length / 5) r.candidates r.selected := by
    rw [← momentum_count]
    exact isBest_best (momentum_keys hnodup) (momentum_count ▸ Nat.div_le_self _ _)
  have hcount : r.selected.length = r.count := hbest.length.trans momentum_count.symm
  have hprice : ∀ e ∈ r.selected.zipIdx 1, 0 < e.1.executionPrice := by
    intro e he
    have hscore := haccepted.score e.1 (hbest.mem e.1 (List.fst_mem_of_mem_zipIdx he))
    simp only [MomentumRequest.score, validDecimal, bind_eq_ok, raiseIf_eq_ok, not_le] at hscore
    obtain ⟨_, -, _, -, h⟩ := hscore
    exact h
  refine ⟨r.selected, hbest, ?_, ?_, fun candidates hp => ?_⟩
  · rw [MomentumRequest.portfolio, MomentumRequest.targets, List.map_map]
    rfl
  · have hall := allocates hcapital (n := r.selected.length) (by rw [List.length_zipIdx]) hprice
    rw [hcount] at hall ⊢
    simp only [MomentumRequest.portfolio, MomentumRequest.targets, List.map_map] at hall ⊢
    exact hall
  · exact constructMomentumPortfolio_eq_ok.mpr (haccepted.perm hp)

end Momentum

/-! ## Trend -/

section Trend

open Trend

variable {r : TrendRequest}

/-- A loop that checks each member and builds from it. -/
theorem mapM_checked {ε α β : Type} {c : α → Prop} [DecidablePred c] {e : ε} {g : α → β} {l : List α} {built : List β} :
    (l.mapM fun a => do raiseIf (c a) e; return g a) = .ok built ↔ (∀ a ∈ l, ¬ c a) ∧ l.map g = built := by
  induction l generalizing built with
  | nil => simp [List.mapM_nil, pure_eq_ok]
  | cons a l ih =>
    simp only [List.mapM_cons, bind_eq_ok, raiseIf_eq_ok, pure_eq_ok, ih, List.forall_mem_cons, List.map_cons]
    constructor
    · rintro ⟨_, ⟨_, ha, rfl⟩, _, ⟨hl, rfl⟩, rfl⟩
      exact ⟨⟨ha, hl⟩, rfl⟩
    · rintro ⟨⟨ha, hl⟩, rfl⟩
      exact ⟨_, ⟨(), ha, rfl⟩, _, ⟨hl, rfl⟩, rfl⟩

/-- What the accepted request of a trend portfolio has. -/
structure TrendAccepted (r : TrendRequest) : Prop where
  check : r.check = .ok ()
  score : ∃ months, expectedSignalMonths r.decisionTime = .ok months ∧ ∀ c ∈ r.candidates, r.score months c = .ok ()
  funded : ∀ c ∈ r.positives, 0 < (r.target c).wholeShares

theorem constructTrendPortfolio_eq_ok {p : TrendPortfolio} :
    constructTrendPortfolio r = .ok p ↔ TrendAccepted r ∧ r.portfolio (r.positives.map r.target) = p := by
  simp only [constructTrendPortfolio, TrendRequest.targets, mapM_checked, bind_eq_ok, forM_eq_ok, exists_const,
    pure_eq_ok, not_le]
  constructor
  · rintro ⟨_, hcheck, months, hmonths, hscore, _, ⟨hfunded, rfl⟩, e⟩
    exact ⟨⟨hcheck, ⟨months, hmonths, hscore⟩, hfunded⟩, e⟩
  · rintro ⟨⟨hcheck, ⟨months, hmonths, hscore⟩, hfunded⟩, e⟩
    exact ⟨(), hcheck, months, hmonths, hscore, _, ⟨hfunded, rfl⟩, e⟩

theorem trend_check_eq_ok : r.check = .ok () ↔ r.candidates ≠ [] ∧ qualified r.qualification ∧
    (r.decisionTime.value < r.releaseTime.value ∧ r.releaseTime.value < r.fillTime.value) ∧ 0 < r.hypotheticalCapital ∧
    (r.candidates.map TrendCandidate.instrumentId).Nodup := by
  simp only [TrendRequest.check, positiveDecimal, bind_eq_ok, raiseIf_eq_ok, exists_const, not_le, not_not, ne_eq]

def TrendCandidate.name (c : TrendCandidate) : String := c.instrumentId.toString

def TrendTarget.position (t : TrendTarget) : Position := ⟨t.executionPrice, t.wholeShares, t.allocatedCash⟩

/-- What a portfolio selects and allocates, and that no order of the candidates changes it. -/
def TrendCorrect (r : TrendRequest) (p : TrendPortfolio) : Prop :=
  ∃ chosen : List TrendCandidate, (chosen.Pairwise fun a b => a.instrumentId.toString < b.instrumentId.toString) ∧
    (∀ c, c ∈ chosen ↔ c ∈ r.candidates ∧ 0 < c.signal) ∧
    (p.targets.map fun t => (t.instrumentId, t.assetClass, t.signal, t.executionPrice)) =
      chosen.map (fun c => (c.instrumentId, c.assetClass, c.signal, c.executionPrice)) ∧
    Allocates r.hypotheticalCapital chosen.length (p.targets.map TrendTarget.position) p.residualCash ∧
    ∀ candidates, candidates.Perm r.candidates → constructTrendPortfolio { r with candidates := candidates } = .ok p

theorem trend_names (h : (r.candidates.map TrendCandidate.instrumentId).Nodup) :
    (r.candidates.map TrendCandidate.name).Nodup := by
  have hnames := h.map instrumentId_toString_injective
  rwa [List.map_map] at hnames

/-- The candidates with a positive signal, in no order. -/
def positive (candidates : List TrendCandidate) : List TrendCandidate := candidates.filter fun c => 0 < c.signal

theorem positives_eq : r.positives = ranked TrendCandidate.name (positive r.candidates) := by
  unfold TrendRequest.positives ranked positive TrendCandidate.name
  congr

theorem positive_names (h : (r.candidates.map TrendCandidate.instrumentId).Nodup) :
    ((positive r.candidates).map TrendCandidate.name).Nodup :=
  (trend_names h).sublist (List.filter_sublist.map _)

/-- The order of the candidates does not matter. -/
theorem TrendAccepted.perm (h : TrendAccepted r) {candidates : List TrendCandidate} (hp : candidates.Perm r.candidates) :
    TrendAccepted { r with candidates := candidates } ∧
      { r with candidates := candidates }.portfolio
          ({ r with candidates := candidates }.positives.map { r with candidates := candidates }.target) =
        r.portfolio (r.positives.map r.target) := by
  obtain ⟨hne, hq, htimes, hcapital, hnodup⟩ := trend_check_eq_ok.mp h.check
  have hfilter : (positive r.candidates).Perm (positive candidates) := hp.symm.filter _
  have hpositives : { r with candidates := candidates }.positives = r.positives := by
    rw [positives_eq, positives_eq, ranked, ranked, insertionSort_key_eq_of_perm (positive_names hnodup) hfilter]
  have htarget : { r with candidates := candidates }.target = r.target := by
    funext c
    simp only [TrendRequest.target, TrendRequest.cashPerAsset, hpositives]
  have hclassifications : { r with candidates := candidates }.classifications = r.classifications := by
    have hkeys : ((r.candidates.map fun c => (c.instrumentId, c.assetClass)).map fun a => a.1.toString).Nodup := by
      rw [List.map_map]
      exact trend_names hnodup
    refine (insertionSort_eq_of_perm ?_ ?_ ?_ (hp.symm.map _)).symm
    · exact fun a b => le_total a.1.toString b.1.toString
    · exact fun a b c => le_trans
    · exact fun a ha b hb hab hba => List.inj_on_of_nodup_map hkeys ha hb (le_antisymm hab hba)
  refine ⟨⟨?_, ?_, ?_⟩, ?_⟩
  · refine trend_check_eq_ok.mpr ⟨?_, hq, htimes, hcapital, (hp.map _).nodup_iff.mpr hnodup⟩
    exact fun e => hne (List.nil_perm.mp (e ▸ hp))
  · obtain ⟨months, hmonths, hscore⟩ := h.score
    exact ⟨months, hmonths, fun c hc => hscore c (hp.mem_iff.mp hc)⟩
  · rw [hpositives, htarget]
    exact h.funded
  · simp only [TrendRequest.portfolio, hpositives, htarget, hclassifications, hp.countP_eq]

theorem trend_correct {p : TrendPortfolio} (h : constructTrendPortfolio r = .ok p) : TrendCorrect r p := by
  obtain ⟨haccepted, rfl⟩ := constructTrendPortfolio_eq_ok.mp h
  obtain ⟨-, -, -, hcapital, hnodup⟩ := trend_check_eq_ok.mp haccepted.check
  have hmem : ∀ c, c ∈ r.positives ↔ c ∈ r.candidates ∧ 0 < c.signal := by
    intro c
    rw [TrendRequest.positives, List.mem_insertionSort, List.mem_filter, decide_eq_true_eq]
  have hprice : ∀ c ∈ r.positives, 0 < c.executionPrice := by
    intro c hc
    obtain ⟨months, -, hscore⟩ := haccepted.score
    have hscore := hscore c ((hmem c).mp hc).1
    simp only [TrendRequest.score, positiveDecimal, bind_eq_ok, raiseIf_eq_ok, not_le] at hscore
    obtain ⟨_, -, _, -, h⟩ := hscore
    exact h
  have hsorted : r.positives.Pairwise fun a b => a.instrumentId.toString < b.instrumentId.toString := by
    have hbest := isBest_best (positive_names hnodup) (le_refl (positive r.candidates).length)
    have hall : best TrendCandidate.name (positive r.candidates).length (positive r.candidates) = r.positives :=
      positives_eq ▸ List.take_of_length_le ranked_perm.length_eq.le
    exact hall ▸ hbest.sorted
  refine ⟨r.positives, hsorted, hmem, ?_, ?_, fun candidates hp => ?_⟩
  · rw [TrendRequest.portfolio, List.map_map]
    rfl
  · have hall := allocates hcapital (le_refl r.positives.length) hprice
    simp only [TrendRequest.portfolio, List.map_map] at hall ⊢
    exact hall
  · exact constructTrendPortfolio_eq_ok.mpr (haccepted.perm hp)

end Trend

end ATB.Proof.Strategies
