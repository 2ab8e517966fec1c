import Mathlib.Tactic.NormNum
import AutomatedTradingBot.Framework.SortedSet
import AutomatedTradingBot.Framework.StepDown
import AutomatedTradingBot.Source.StatisticalAssurance

/-!
# Holm's correction is a step-down procedure

The loop over the ordered family (`Loop`, kept by each iteration) computes the adjusted
p-values of the family and stops where the procedure does.

* `holm_correct`: what the decisions on a complete family are.
-/

namespace ATB.Proof.StatisticalAssurance

open ATB.StatisticalAssurance StepDown

/-! ## The order -/

section Ordered

variable {r : HolmRequest}

theorem before_total (a b : HypothesisTest) : HolmRequest.before a b ∨ HolmRequest.before b a := le_total _ _

theorem before_trans (a b c : HypothesisTest) (h : HolmRequest.before a b) (h' : HolmRequest.before b c) :
    HolmRequest.before a c := le_trans h h'

theorem pValue_le_of_before {a b : HypothesisTest} (h : HolmRequest.before a b) : a.pValue ≤ b.pValue := by
  rcases (Prod.Lex.le_iff.mp h) with h | ⟨h, -⟩
  · exact le_of_lt h
  · exact le_of_eq h

theorem ordered_perm : r.ordered.Perm r.tests := List.perm_insertionSort _ _

theorem ordered_sorted : r.ordered.Pairwise fun a b => a.pValue ≤ b.pValue := by
  have : Std.Total HolmRequest.before := ⟨before_total⟩
  have : IsTrans HypothesisTest HolmRequest.before := ⟨before_trans⟩
  exact (List.pairwise_insertionSort HolmRequest.before r.tests).imp pValue_le_of_before

/-- The p-values, in the order of the procedure. -/
def pValues (r : HolmRequest) : List ℚ := r.ordered.map HypothesisTest.pValue

theorem length_pValues : (pValues r).length = r.ordered.length := List.length_map _

theorem pValues_sorted : (pValues r).Pairwise (· ≤ ·) := List.pairwise_map.mpr ordered_sorted

theorem pValues_nonneg : ∀ p ∈ pValues r, 0 ≤ p := by
  intro p hp
  obtain ⟨t, -, rfl⟩ := List.mem_map.mp hp
  exact t.nonnegative

theorem pValues_getD {i : Nat} (hi : i < r.ordered.length) : (pValues r).getD i 0 = r.ordered[i].pValue := by
  rw [List.getD_eq_getElem _ _ (by rwa [length_pValues])]
  exact List.getElem_map _

/-- The sorted p-values are those of the family. -/
theorem pValues_congr {r' : HolmRequest}
    (h : (r'.tests.map HypothesisTest.pValue).Perm (r.tests.map HypothesisTest.pValue)) : pValues r' = pValues r := by
  have hp : (pValues r').Perm (pValues r) := ((ordered_perm.map _).trans h).trans (ordered_perm.map _).symm
  exact hp.eq_of_pairwise (fun a b _ _ => le_antisymm) pValues_sorted pValues_sorted

theorem ordered_ids (h : (r.tests.map HypothesisTest.hypothesisId).Nodup) :
    (r.ordered.map HypothesisTest.hypothesisId).Nodup := (ordered_perm.map _).nodup_iff.mpr h

theorem index_unique (h : (r.tests.map HypothesisTest.hypothesisId).Nodup) {i j : Nat} (hi : i < r.ordered.length)
    (hj : j < r.ordered.length) (e : r.ordered[i].hypothesisId = r.ordered[j].hypothesisId) : i = j := by
  have hn := List.nodup_iff_injective_get.mp (ordered_ids h)
  have hfin := @hn ⟨i, by simpa using hi⟩ ⟨j, by simpa using hj⟩ (by simpa using e)
  exact Fin.mk.inj hfin

end Ordered

/-! ## The loop -/

/-- The variables of the loop after the first `n` hypotheses. -/
structure Loop (r : HolmRequest) (n : Nat) (s : HolmState) : Prop where
  active : s.active = true ↔ Held r.alpha (pValues r) n
  runningAdjusted : s.runningAdjusted = running (pValues r) n
  adjusted : ∀ i (_ : i < n) (hi : i < r.ordered.length),
    Dict.get? r.ordered[i].hypothesisId s.adjusted = some (adjusted (pValues r) i)
  rejected : ∀ i (hi : i < r.ordered.length),
    r.ordered[i].hypothesisId ∈ s.rejected ↔ i < n ∧ Held r.alpha (pValues r) (i + 1)

theorem loop_start (r : HolmRequest) : Loop r 0 .start :=
  ⟨by simp [HolmState.start, Held], rfl, fun _ h => absurd h (Nat.not_lt_zero _), by simp [HolmState.start]⟩

/-- One iteration. -/
theorem Loop.step {r : HolmRequest} (hids : (r.tests.map HypothesisTest.hypothesisId).Nodup) {n : Nat} {s : HolmState}
    (h : Loop r n s) (hn : n < r.ordered.length) :
    Loop r (n + 1) (s.step r.alpha r.ordered.length (r.ordered[n], n)) := by
  have hrunning : max s.runningAdjusted (min 1 (r.ordered[n].pValue * ((r.ordered.length - n : Nat) : ℚ))) =
      running (pValues r) (n + 1) := by
    rw [h.runningAdjusted, running, scaled, pValues_getD hn, length_pValues]
  have hactive : (s.active && decide (r.ordered[n].pValue ≤ r.alpha / ((r.ordered.length - n : Nat) : ℚ))) = true ↔
      Held r.alpha (pValues r) (n + 1) := by
    rw [Bool.and_eq_true, decide_eq_true_eq, h.active, Held, Held, Nat.forall_lt_succ_right, pValues_getD hn,
      length_pValues]
  refine ⟨hactive, hrunning, fun i hlt hi => ?_, fun i hi => ?_⟩
  · dsimp only [HolmState.step]
    rcases Nat.lt_succ_iff_lt_or_eq.mp hlt with hlt | rfl
    · rw [Dict.get?_set_ne (fun e => Nat.ne_of_gt hlt (index_unique hids hn hi e))]
      exact h.adjusted i hlt hi
    · rw [Dict.get?_set_self, hrunning]
      rfl
  · dsimp only [HolmState.step]
    by_cases hheld : Held r.alpha (pValues r) (n + 1)
    · rw [if_pos (hactive.mpr hheld), List.mem_append, h.rejected i hi, List.mem_singleton, Nat.lt_succ_iff_lt_or_eq,
        or_and_right]
      refine or_congr_right ⟨fun e => ?_, fun h => by rw [getElem_congr rfl h.1]⟩
      obtain rfl := index_unique hids hi hn e
      exact ⟨rfl, hheld⟩
    · rw [if_neg (mt hactive.mp hheld), h.rejected i hi, Nat.lt_succ_iff_lt_or_eq, or_and_right]
      refine ⟨.inl, fun h' => h'.resolve_right ?_⟩
      rintro ⟨rfl, hi'⟩
      exact hheld hi'

theorem Loop.run {r : HolmRequest} (hids : (r.tests.map HypothesisTest.hypothesisId).Nodup) {l : List HypothesisTest}
    {n : Nat} {s : HolmState} (hl : r.ordered.drop n = l) (hn : n ≤ r.ordered.length) (h : Loop r n s) :
    Loop r r.ordered.length ((l.zipIdx n).foldl (HolmState.step r.alpha r.ordered.length) s) := by
  induction l generalizing n s with
  | nil =>
    have hend : n = r.ordered.length := le_antisymm hn (List.drop_eq_nil_iff.mp hl)
    rw [List.zipIdx_nil, List.foldl_nil, ← hend]
    exact h
  | cons t l ih =>
    have hlt : n < r.ordered.length := by
      by_contra hge
      rw [List.drop_eq_nil_iff.mpr (Nat.not_lt.mp hge)] at hl
      cases hl
    rw [List.drop_eq_getElem_cons hlt] at hl
    obtain ⟨rfl, hrest⟩ := List.cons.inj hl
    rw [List.zipIdx_cons, List.foldl_cons]
    exact ih hrest hlt (h.step hids hlt)

theorem loop_end {r : HolmRequest} (hids : (r.tests.map HypothesisTest.hypothesisId).Nodup) :
    Loop r r.ordered.length r.loop := (loop_start r).run hids rfl (Nat.zero_le _)

/-! ## The decisions -/

/-- A complete family, at a level between 0 and 1. -/
structure Complete (r : HolmRequest) : Prop where
  family : Text.strip (Text.chars r.familyId) ≠ []
  alpha : 0 < r.alpha ∧ r.alpha < 1
  nonempty : r.tests ≠ []
  distinct : (r.tests.map HypothesisTest.hypothesisId).Nodup
  registered : r.registeredTrialIds.Perm (r.tests.map HypothesisTest.hypothesisId)

theorem text_eq_ok {value name : String} {u : Unit} : text value name = .ok u ↔ Text.strip (Text.chars value) ≠ [] :=
  raiseIf_eq_ok

theorem Complete.check {r : HolmRequest} (h : Complete r) : r.check = .ok () := by
  have htexts : textTuple r.registeredTrialIds "registered_trial_ids" = .ok () := by
    refine forM_eq_ok.mpr fun i hi => ?_
    obtain ⟨t, -, rfl⟩ := List.mem_map.mp (h.registered.mem_iff.mp hi)
    exact text_eq_ok.mpr (text_eq_ok.mp t.hypothesisId_text)
  simp only [HolmRequest.check, bind_eq_ok, raiseIf_eq_ok, text_eq_ok, exists_const, not_not]
  exact ⟨h.family, h.alpha, h.nonempty, h.distinct, (), htexts, h.registered.nodup_iff.mpr h.distinct,
    fun i hi => h.registered.mem_iff.mp hi, fun i hi => h.registered.mem_iff.mpr hi⟩

section Decisions

variable {r : HolmRequest}

theorem exists_rank {t : HypothesisTest} (ht : t ∈ r.tests) :
    ∃ (i : Nat) (hi : i < r.ordered.length), r.ordered[i] = t :=
  List.mem_iff_getElem.mp (ordered_perm.mem_iff.mpr ht)

/-- The decision on the hypothesis of a rank. -/
theorem decision_of_rank (hids : (r.tests.map HypothesisTest.hypothesisId).Nodup) {i : Nat} (hi : i < r.ordered.length) :
    (r.decision r.ordered[i]).adjustedPValue = adjusted (pValues r) i ∧
      ((r.decision r.ordered[i]).rejected = true ↔ Held r.alpha (pValues r) (i + 1)) := by
  have hend := loop_end hids
  refine ⟨?_, ?_⟩
  · rw [HolmRequest.decision, hend.adjusted i hi hi]
    rfl
  · rw [HolmRequest.decision, decide_eq_true_eq, hend.rejected i hi]
    exact ⟨fun h => h.2, fun h => ⟨hi, h⟩⟩

theorem rejected_decision_iff (h : Complete r) {t : HypothesisTest} (ht : t ∈ r.tests) :
    (r.decision t).rejected = true ↔ (r.decision t).adjustedPValue ≤ r.alpha := by
  obtain ⟨i, hi, rfl⟩ := exists_rank ht
  obtain ⟨hadjusted, hrejected⟩ := decision_of_rank h.distinct hi
  rw [hadjusted, hrejected, held_iff pValues_nonneg h.alpha.2 (by rwa [length_pValues])]

/-- What two families with the same p-values make of two hypotheses of one p-value. -/
theorem adjusted_le_of_le {r' : HolmRequest} (h : Complete r) (h' : Complete r')
    (hp : (r'.tests.map HypothesisTest.pValue).Perm (r.tests.map HypothesisTest.pValue)) {t t' : HypothesisTest}
    (ht : t ∈ r.tests) (ht' : t' ∈ r'.tests) (hle : t.pValue ≤ t'.pValue) :
    (r.decision t).adjustedPValue ≤ (r'.decision t').adjustedPValue := by
  obtain ⟨i, hi, rfl⟩ := exists_rank ht
  obtain ⟨j, hj, rfl⟩ := exists_rank ht'
  rw [(decision_of_rank h.distinct hi).1, (decision_of_rank h'.distinct hj).1, pValues_congr hp]
  have hi' : i < (pValues r).length := by rwa [length_pValues]
  have hj' : j < (pValues r).length := by rwa [← pValues_congr hp, length_pValues]
  refine adjusted_le_adjusted pValues_nonneg pValues_sorted hi' hj' ?_
  have hpi : (pValues r)[i] = r.ordered[i].pValue := List.getElem_map _
  have hpj : (pValues r)[j] = r'.ordered[j].pValue := by
    simp only [← pValues_congr hp]
    exact List.getElem_map _
  rwa [hpi, hpj]

/-- The adjusted p-value of a hypothesis is the maximum that the procedure prescribes. -/
theorem isGreatest_decision (h : Complete r) {i : Nat} (hi : i < r.ordered.length) :
    IsGreatest {x | ∃ (j : Nat) (hj : j < r.ordered.length), j ≤ i ∧
      x = min 1 (((r.tests.length - j : Nat) : ℚ) * r.ordered[j].pValue)} (r.decision r.ordered[i]).adjustedPValue := by
  rw [(decision_of_rank h.distinct hi).1]
  have hgreatest := isGreatest_adjusted (pValues_nonneg (r := r)) i
  have hscaled : ∀ j (hj : j < r.ordered.length), scaled (pValues r).length j ((pValues r).getD j 0) =
      min 1 (((r.tests.length - j : Nat) : ℚ) * r.ordered[j].pValue) := by
    intro j hj
    rw [scaled, pValues_getD hj, length_pValues, ordered_perm.length_eq, mul_comm]
  constructor
  · obtain ⟨j, hj, e⟩ := hgreatest.1
    have hlt := lt_of_le_of_lt hj hi
    exact ⟨j, hlt, hj, e.trans (hscaled j hlt)⟩
  · rintro x ⟨j, hlt, hj, rfl⟩
    exact hgreatest.2 ⟨j, hj, (hscaled j hlt).symm⟩

end Decisions

/-- On every complete family the result has one decision for each test, in the order of the
tests. A hypothesis is rejected exactly when its adjusted p-value is at most `alpha`; the
adjusted p-value is the maximum over the ranks up to its own; and the decisions of two families
with the same p-values are monotone in the p-value, whatever the order and the names. -/
theorem holm_correct (env : Environment) (r : HolmRequest) (h : Complete r) :
    ∃ result, holmAdjust env r = .ok result ∧
      result.decisions.map (fun d => (d.hypothesisId, d.rawPValue)) =
        r.tests.map (fun t => (t.hypothesisId, t.pValue)) ∧
      (∀ d ∈ result.decisions, d.rejected = true ↔ d.adjustedPValue ≤ r.alpha) ∧
      (r.ordered.Perm r.tests ∧ r.ordered.Pairwise fun a b => a.pValue ≤ b.pValue) ∧
      (∀ i (hi : i < r.ordered.length), ∃ d ∈ result.decisions, d.hypothesisId = r.ordered[i].hypothesisId ∧
        IsGreatest {x | ∃ (j : Nat) (hj : j < r.ordered.length), j ≤ i ∧
          x = min 1 (((r.tests.length - j : Nat) : ℚ) * r.ordered[j].pValue)} d.adjustedPValue) ∧
      (∀ d ∈ result.decisions, ∀ d' ∈ result.decisions, d.rawPValue ≤ d'.rawPValue →
        d.adjustedPValue ≤ d'.adjustedPValue) ∧
      (∀ d ∈ result.decisions, ∀ d' ∈ result.decisions, d.rawPValue = d'.rawPValue →
        d.adjustedPValue = d'.adjustedPValue ∧ d.rejected = d'.rejected) ∧
      ∀ r', Complete r' → r'.alpha = r.alpha →
        (r'.tests.map HypothesisTest.pValue).Perm (r.tests.map HypothesisTest.pValue) →
        ∀ result', holmAdjust env r' = .ok result' → ∀ d ∈ result.decisions, ∀ d' ∈ result'.decisions,
          d.rawPValue = d'.rawPValue → d.adjustedPValue = d'.adjustedPValue ∧ d.rejected = d'.rejected := by
  have hresult : ∀ {r' : HolmRequest}, Complete r' → holmAdjust env r' =
      .ok ⟨r'.familyId, r'.alpha, r'.decisions, r'.registeredTrialIds, env.digest "HOLM-V1" (holmBody env r')⟩ := by
    intro r' h'
    rw [holmAdjust, h'.check]
    rfl
  -- equal p-values in families of the same p-values
  have hequal : ∀ r', Complete r' → r'.alpha = r.alpha →
      (r'.tests.map HypothesisTest.pValue).Perm (r.tests.map HypothesisTest.pValue) → ∀ t ∈ r.tests, ∀ t' ∈ r'.tests,
      t.pValue = t'.pValue → (r.decision t).adjustedPValue = (r'.decision t').adjustedPValue ∧
        (r.decision t).rejected = (r'.decision t').rejected := by
    intro r' h' hα hp t ht t' ht' he
    have hadjusted := le_antisymm (adjusted_le_of_le h h' hp ht ht' he.le) (adjusted_le_of_le h' h hp.symm ht' ht he.ge)
    refine ⟨hadjusted, Bool.eq_iff_iff.mpr ?_⟩
    rw [rejected_decision_iff h ht, rejected_decision_iff h' ht', hadjusted, hα]
  refine ⟨_, hresult h, ?_, ?_, ⟨ordered_perm, ordered_sorted⟩, fun i hi => ?_, ?_, ?_, ?_⟩
  · rw [HolmRequest.decisions, List.map_map]
    rfl
  · exact List.forall_mem_map.mpr fun t ht => rejected_decision_iff h ht
  · exact ⟨_, List.mem_map_of_mem (ordered_perm.mem_iff.mp (List.getElem_mem hi)), rfl, isGreatest_decision h hi⟩
  · exact List.forall_mem_map.mpr fun t ht => List.forall_mem_map.mpr fun t' ht' =>
      adjusted_le_of_le h h (.refl _) ht ht'
  · exact List.forall_mem_map.mpr fun t ht => List.forall_mem_map.mpr fun t' ht' => hequal r h rfl (.refl _) t ht t' ht'
  · intro r' h' hα hp result' hr'
    cases (hresult h').symm.trans hr'
    exact List.forall_mem_map.mpr fun t ht => List.forall_mem_map.mpr fun t' ht' => hequal r' h' hα hp t ht t' ht'

namespace Sample

def environment : Environment := ⟨fun domain _ => domain, fun _ => "p"⟩

def first : HypothesisTest := ⟨"a", 1 / 100, by decide, by norm_num, by norm_num⟩
def second : HypothesisTest := ⟨"b", 1 / 20, by decide, by norm_num, by norm_num⟩

def request : HolmRequest := ⟨"family", [second, first], ["a", "b"], 1 / 20⟩

theorem complete : Complete request :=
  ⟨by decide, by norm_num [request], by decide, by decide, by decide⟩

end Sample

theorem holm_correct_sample : (Sample.request.decision Sample.second).adjustedPValue = 1 / 20 ∧
    ∃ result, holmAdjust Sample.environment Sample.request = .ok result ∧
      ∀ d ∈ result.decisions, d.rejected = true ↔ d.adjustedPValue ≤ 1 / 20 := by
  refine ⟨by decide +kernel, ?_⟩
  obtain ⟨result, hresult, -, hrejected, -⟩ := holm_correct Sample.environment Sample.request Sample.complete
  exact ⟨result, hresult, hrejected⟩

end ATB.Proof.StatisticalAssurance
