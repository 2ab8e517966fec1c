import Mathlib.Data.List.ProdSigma
import AutomatedTradingBot.Framework.DecimalValue
import AutomatedTradingBot.Framework.Refusal
import AutomatedTradingBot.Proof.MarketData.Evidence
import AutomatedTradingBot.Source.MarketData.Quality

/-!
# What a valid quality says

The evaluation reads the metrics that are supplied, not the rules of the policy, so a rule
for which no metric is supplied is not applied.

* `evaluateSequence_clear`: with no flag, the observed keys are the expected ones;
* `applyPolicy_clear`: with no flag, each input has a metric, and each metric a rule that it
  is within;
* `valid_iff_complete`: so a valid result means that the whole policy was applied exactly
  when as many metrics were supplied as there are rules for all inputs.
-/

namespace ATB.Proof.MarketData

open ATB.MarketData Instruments

/-! ## The sequence -/

theorem mem_logicalKeys {inputs : List QualityInputDescriptor} {keys : List String}
    (h : logicalKeys inputs = .ok keys) {k : String} (hk : k ∈ keys) :
    ∃ i ∈ inputs, i.logicalIdentity.map (·.key) = some k := by
  simp only [logicalKeys, bind_eq_ok, raiseIf_eq_ok, exists_const, pure_eq_ok] at h
  obtain ⟨keys', hmap, -, -, rfl⟩ := h
  obtain ⟨i, hi, hkey⟩ := (mem_of_mapM hmap).1 k hk
  exact ⟨i, hi, orRaise_eq_ok.mp hkey⟩

/-- The sequence was applied: the keys are those expected, in that order, and of the cohort. -/
structure SequenceApplied (descriptors : List CompatibilityDescriptor) (sequence : ProductionSequenceEvidence) : Prop where
  exact : sequence.observedLogicalKeys = sequence.expectedLogicalKeys
  cohort : ∀ k ∈ sequence.observedLogicalKeys,
    ∃ d ∈ descriptors, d.qualityInput.logicalIdentity.map (·.key) = some k

/-- With no flag, the observed keys are the expected ones. -/
theorem evaluateSequence_clear {descriptors : List CompatibilityDescriptor} {sequence : ProductionSequenceEvidence}
    {keys : List String} {found : SequenceFindings} (hkeys : logicalKeys (descriptors.map (·.qualityInput)) = .ok keys)
    (h : evaluateSequence descriptors sequence keys = .ok found) (havailable : sequence.state = .available)
    (hclear : found.invalid = false) : SequenceApplied descriptors sequence := by
  simp only [evaluateSequence, havailable, bind_eq_ok, raiseIf_eq_ok, exists_const, pure_eq_ok, not_not] at h
  obtain ⟨-, ⟨hsub, -⟩, rfl⟩ := h
  simp only [Bool.or_eq_false_iff, decide_eq_false_iff_not, not_not, ite_eq_right_iff, reduceCtorEq, imp_false] at hclear
  obtain ⟨hmissing, horder⟩ := hclear
  rw [sortedSetOn_eq_nil, List.filter_eq_nil_iff] at hmissing
  -- every expected key was observed, so the filter keeps them all
  have hall : sequence.expectedLogicalKeys.filter (fun k => decide (k ∈ sequence.observedLogicalKeys)) =
      sequence.expectedLogicalKeys := List.filter_eq_self.mpr fun k hk => by simpa using hmissing k hk
  refine ⟨horder.trans hall, fun k hk => ?_⟩
  obtain ⟨i, hi, hkey⟩ := mem_logicalKeys hkeys (hsub k hk)
  obtain ⟨d, hd, rfl⟩ := List.mem_map.mp hi
  exact ⟨d, hd, hkey⟩

/-! ## The metrics -/

/-- The value is within the bounds that the rule has. -/
def Within (rule : ApprovedMetricRule) (value : Decimal) : Prop :=
  (∀ m ∈ ApprovedMetricRule.decimal rule.minimum, m ≤ value) ∧ ∀ m ∈ ApprovedMetricRule.decimal rule.maximum, value ≤ m

theorem not_outside {rule : ApprovedMetricRule} {value : Decimal} : rule.outside value = false ↔ Within rule value := by
  have hnot (a b : Decimal) : ¬ a < b ↔ b ≤ a := by rw [Decimal.lt_iff, Decimal.le_iff, not_lt]
  rw [ApprovedMetricRule.outside, Within, Bool.or_eq_false_iff, Option.any_eq_false, Option.any_eq_false]
  simp only [decide_eq_false_iff_not, hnot, Option.mem_def]

/-- An approved rule of the metric's name, that it is within. -/
def Approved (rules : List ApprovedMetricRule) (metric : ProductionMetric) : Prop :=
  ∃ rule ∈ rules, rule.name = metric.name ∧ Within rule metric.decimal

theorem anyOutside_clear {rules : List ApprovedMetricRule} {supplied : List ProductionMetric}
    (h : anyOutside rules supplied = .ok false) : ∀ metric ∈ supplied, Approved rules metric := by
  suffices hall : ∀ flag, supplied.foldlM (fun outside metric => do
      let rule ← orRaise "UNAPPROVED_METRIC" (rules.find? fun r => decide (r.name = metric.name))
      return outside || rule.outside metric.decimal) flag = (.ok false : Except String Bool) →
      flag = false ∧ ∀ metric ∈ supplied, Approved rules metric from (hall false h).2
  clear h
  induction supplied with
  | nil =>
    intro flag h
    cases h
    exact ⟨rfl, by simp⟩
  | cons metric supplied ih =>
    intro flag h
    simp only [List.foldlM_cons, bind_eq_ok, orRaise_eq_ok, pure_eq_ok] at h
    obtain ⟨flag', ⟨rule, hrule, rfl⟩, hrest⟩ := h
    obtain ⟨hflag, happroved⟩ := ih _ hrest
    obtain ⟨hflag, hwithin⟩ := Bool.or_eq_false_iff.mp hflag
    have hname := List.find?_some hrule
    refine ⟨hflag, List.forall_mem_cons.mpr ⟨⟨rule, List.mem_of_find?_eq_some hrule, ?_, ?_⟩, happroved⟩⟩
    · simpa using hname
    · exact not_outside.mp hwithin

/-- What an applied policy leaves of the metrics when no flag is set. -/
structure Clear (digests : List EvidenceContentDigest) (metrics : List ProductionMetric)
    (rules : List ApprovedMetricRule) : Prop where
  bound : ∀ metric ∈ metrics, metric.descriptorDigest ∈ digests
  approved : ∀ metric ∈ metrics, Approved rules metric

theorem applyPolicy_clear {digests : List EvidenceContentDigest} {metrics : List ProductionMetric}
    {rules : List ApprovedMetricRule} {found : MetricFindings} (h : applyPolicy digests metrics rules = .ok found)
    (hresolved : found.unresolved = false) (hvalid : found.invalid = false) : Clear digests metrics rules := by
  simp only [applyPolicy, bind_eq_ok, raiseIf_eq_ok, exists_const, pure_eq_ok] at h
  obtain ⟨hbound, states, hstates, rfl⟩ := h
  simp only [not_exists, not_and, not_not] at hbound
  refine ⟨hbound, fun metric hmetric => ?_⟩
  obtain ⟨state, hmem, hstate⟩ := (mem_of_mapM hstates).2 _ (hbound metric hmetric)
  simp only [bind_eq_ok, pure_eq_ok] at hstate
  obtain ⟨outlier, hout, rfl⟩ := hstate
  simp only [List.any_eq_false, decide_eq_true_eq] at hresolved hvalid
  have hunresolved := hresolved _ hmem
  have hinvalid := hvalid _ hmem
  rw [outlierState] at hout
  split at hout
  · cases hout
    exact absurd rfl hunresolved
  · simp only [bind_eq_ok, pure_eq_ok] at hout
    obtain ⟨outside, houtside, rfl⟩ := hout
    cases outside with
    | true => exact absurd rfl hinvalid
    | false => exact anyOutside_clear houtside metric (List.mem_filter.mpr ⟨hmetric, by simp⟩)

theorem evaluateMetrics_clear {digests : List EvidenceContentDigest} {evidence : ProductionMetricEvidence}
    {policy : Option ApprovedProductionQualityPolicy} {found : MetricFindings}
    (h : evaluateMetrics digests evidence policy = .ok found) (hcompatible : found.incompatible = false)
    (hresolved : found.unresolved = false) :
    ∃ p, policy = some p ∧ applyPolicy digests evidence.metrics p.rules = .ok found := by
  simp only [evaluateMetrics] at h
  split at h
  · cases h
    cases hcompatible
  · split at h
    · cases h
      cases hresolved
    · cases policy with
      | none =>
        cases h
        cases hresolved
      | some p =>
        dsimp only at h
        split at h
        · cases h
          cases hcompatible
        · exact ⟨p, rfl, h⟩

/-! ## The whole policy -/

theorem subset_iff_length {α : Type} [DecidableEq α] {l m : List α} (hl : l.Nodup) (hm : m.Nodup) (h : l ⊆ m) :
    m ⊆ l ↔ l.length = m.length := by
  constructor
  · intro hback
    exact le_antisymm (List.subperm_of_subset hl h).length_le (List.subperm_of_subset hm hback).length_le
  · intro hlength
    exact ((List.subperm_of_subset hl h).perm_of_length_le hlength.ge).symm.subset

/-- Every rule was applied to every input. -/
def Complete (digests : List EvidenceContentDigest) (metrics : List ProductionMetric) (rules : List ApprovedMetricRule) :
    Prop :=
  ∀ digest ∈ digests, ∀ rule ∈ rules, ∃ metric ∈ metrics,
    metric.descriptorDigest = digest ∧ metric.name = rule.name ∧ Within rule metric.decimal

/-- The inputs and the names of the rules that metrics are supplied for. -/
def pairs (metrics : List ProductionMetric) : List (EvidenceContentDigest × String) :=
  metrics.map fun m => (m.descriptorDigest, m.name)

theorem Clear.complete_iff {digests : List EvidenceContentDigest} {metrics : List ProductionMetric}
    {rules : List ApprovedMetricRule} (h : Clear digests metrics rules) (hmetrics : (pairs metrics).Nodup)
    (hrules : (rules.map (·.name)).Nodup) :
    Complete digests metrics rules ↔ metrics.length = digests.dedup.length * rules.length := by
  have hsub : pairs metrics ⊆ digests.dedup ×ˢ rules.map (·.name) := by
    intro pair hpair
    obtain ⟨metric, hmetric, rfl⟩ := List.mem_map.mp hpair
    obtain ⟨rule, hrule, hname, -⟩ := h.approved metric hmetric
    exact List.pair_mem_product.mpr ⟨List.mem_dedup.mpr (h.bound metric hmetric), List.mem_map.mpr ⟨rule, hrule, hname⟩⟩
  have hcount := subset_iff_length hmetrics ((List.nodup_dedup digests).product hrules) hsub
  rw [List.length_product, pairs, List.length_map, List.length_map] at hcount
  rw [← hcount]
  constructor
  · rintro hcomplete ⟨digest, name⟩ hpair
    obtain ⟨hdigest, hname⟩ := List.pair_mem_product.mp hpair
    obtain ⟨rule, hrule, rfl⟩ := List.mem_map.mp hname
    obtain ⟨metric, hmetric, rfl, hname, -⟩ := hcomplete digest (List.mem_dedup.mp hdigest) rule hrule
    exact List.mem_map.mpr ⟨metric, hmetric, by rw [hname]⟩
  · intro hback digest hdigest rule hrule
    obtain ⟨metric, hmetric, hpair⟩ := List.mem_map.mp (hback (List.pair_mem_product.mpr
      ⟨List.mem_dedup.mpr hdigest, List.mem_map_of_mem hrule⟩))
    obtain ⟨rfl, hname⟩ := Prod.mk.injEq .. ▸ hpair
    -- the rule that the metric is within is this one
    obtain ⟨rule', hrule', hname', hwithin⟩ := h.approved metric hmetric
    obtain rfl := List.inj_on_of_nodup_map hrules hrule' hrule (hname'.trans hname)
    exact ⟨metric, hmetric, rfl, hname, hwithin⟩

section Evaluation

variable {hashes : Hashes} {descriptors : List CompatibilityDescriptor} {sequence : ProductionSequenceEvidence}
  {evidence : ProductionMetricEvidence} {policy : Option ApprovedProductionQualityPolicy}
  {resolved : List (ResolvedQualityEvidence hashes)} {r : ProductionQualityResult}

/-- The digests of the inputs. -/
def digestsOf (hashes : Hashes) (descriptors : List CompatibilityDescriptor) : List EvidenceContentDigest :=
  descriptors.map fun d => d.qualityInput.descriptorDigest hashes

theorem stateOf_eq_valid {s m : Flags} : stateOf s m = .valid ↔
    (s.invalid = false ∧ m.invalid = false) ∧ (s.incompatible = false ∧ m.incompatible = false) ∧
      s.unresolved = false ∧ m.unresolved = false := by
  obtain ⟨incompatible, unresolved, invalid⟩ := s
  obtain ⟨incompatible', unresolved', invalid'⟩ := m
  revert incompatible unresolved invalid incompatible' unresolved' invalid'
  decide

theorem evaluateProductionQuality_eq_ok
    (h : evaluateProductionQuality hashes descriptors sequence evidence policy resolved = .ok r) :
    ∃ keys s m, logicalKeys (descriptors.map (·.qualityInput)) = .ok keys ∧
      evaluateSequence descriptors sequence keys = .ok s ∧
      evaluateMetrics (digestsOf hashes descriptors) evidence policy = .ok m ∧
      r.validationState = stateOf s.toFlags m.toFlags := by
  simp only [evaluateProductionQuality, ProductionQualityResult.make, bind_eq_ok, raiseIf_eq_ok, exists_const,
    pure_eq_ok, List.map_map] at h
  obtain ⟨-, -, index, -, canonical, -, u, -, keys, hkeys, s, hs, m, hm, refs, -, rfl⟩ := h
  exact ⟨keys, s, m, hkeys, hs, hm, rfl⟩

end Evaluation

/-- The policy was applied: for every input and every rule a metric was supplied that the
rule is met by. -/
def PolicyApplied (hashes : Hashes) (descriptors : List CompatibilityDescriptor) (evidence : ProductionMetricEvidence)
    (policy : Option ApprovedProductionQualityPolicy) : Prop :=
  ∃ p, policy = some p ∧ Complete (digestsOf hashes descriptors) evidence.metrics p.rules

/-- A valid result over an available sequence means that the whole policy was applied exactly
when there are as many metrics as distinct inputs and rules. -/
theorem valid_iff_complete (hashes : Hashes) (descriptors : List CompatibilityDescriptor)
    (sequence : ProductionSequenceEvidence) (evidence : ProductionMetricEvidence)
    (policy : Option ApprovedProductionQualityPolicy) (resolved : List (ResolvedQualityEvidence hashes))
    (r : ProductionQualityResult)
    (h : evaluateProductionQuality hashes descriptors sequence evidence policy resolved = .ok r)
    (hvalid : r.validationState = .valid) (havailable : sequence.state = .available) :
    SequenceApplied descriptors sequence ∧ PolicyApplied hashes descriptors evidence policy ↔
      ∃ p, policy = some p ∧ evidence.metrics.length = (digestsOf hashes descriptors).dedup.length * p.rules.length := by
  obtain ⟨keys, s, m, hkeys, hs, hm, hstate⟩ := evaluateProductionQuality_eq_ok h
  obtain ⟨⟨hs₁, hm₁⟩, ⟨-, hm₂⟩, -, hm₃⟩ := stateOf_eq_valid.mp (hstate.symm.trans hvalid)
  obtain ⟨p, rfl, hp⟩ := evaluateMetrics_clear hm hm₂ hm₃
  have hcomplete := (applyPolicy_clear hp hm₃ hm₁).complete_iff evidence.distinct p.distinct
  rw [and_iff_right (evaluateSequence_clear hkeys hs havailable hs₁)]
  simp only [PolicyApplied, Option.some.injEq, exists_eq_left', hcomplete]

namespace Sample

/-- SHA-256 of the text of the input, and of the bytes of the evidence. -/
def inputHashes : Hashes where
  py := ⟨fun _ => true, fun _ => hash 0x8af14934570e01a8e9f49b583ff842635009393285a105fbda0a7637f64c4cb9⟩
  sha256Bytes := hashes.sha256Bytes

theorem version_pos : 0 < 1 := by decide

def input : QualityInputDescriptor where
  descriptorVersion := ⟨"ATIS_C05_QUALITY_INPUT", 1, by decide, version_pos⟩
  cohortRef := evidence
  evaluationScopeRef := evidence
  expectedSequenceRef := none
  inputRef := some evidence
  logicalIdentity := some ⟨evidence, "bar-1"⟩
  metricInputsRef := none
  orderEvidenceRef := none
  representationContractRef := none
  semanticContent := none
  validationPolicyId := "validation-policy:atis/c05"
  validationPolicyRef := evidence
  evaluatedAt := instant 0
  malformedEvidenceRef := none

def cohort : List CompatibilityDescriptor := [⟨some evidence, input⟩]

theorem canonicalized : Canonicalized [evidence] := ⟨[evidence], rfl⟩

def sequence : ProductionSequenceEvidence where
  state := .available
  version := some ⟨productionSequenceFamily, 1, by decide, version_pos⟩
  expectationRef := some evidence
  calendarRef := some evidence
  knowledgeBoundRef := some evidence
  expectedLogicalKeys := ["bar-1"]
  observedLogicalKeys := ["bar-1"]
  evidenceRefs := [evidence]
  bounded := by decide
  wellFormed := by decide
  distinct := by decide
  refs := canonicalized
  available := fun _ => ⟨⟨_, rfl, rfl, rfl⟩, by simp, by simp⟩
  withheld := by simp

def metric (name value : String) (h : ¬ isPadded name) (hvalue : Decimal.parse? value ≠ none) : ProductionMetric :=
  ⟨input.descriptorDigest inputHashes, name, value, h, hvalue⟩

def spread : ProductionMetric := metric "spread" "1" (by decide) (by decide)
def volume : ProductionMetric := metric "volume" "100" (by decide) (by decide)

/-- The metrics that are supplied for the input. -/
def supplied (metrics : List ProductionMetric) (h : metrics.length ≤ 2)
    (hn : (metrics.map fun m => (m.descriptorDigest, m.name)).Nodup) : ProductionMetricEvidence where
  state := .available
  version := some ⟨productionMetricFamily, 1, by decide, version_pos⟩
  metricsRef := some evidence
  knowledgeBoundRef := some evidence
  metrics := metrics
  evidenceRefs := [evidence]
  bounded := h.trans (by decide)
  distinct := hn
  refs := canonicalized
  available := by simp
  withheld := by simp

def one : ProductionMetricEvidence := supplied [spread] (by decide) (by simp)
def both : ProductionMetricEvidence := supplied [spread, volume] (by decide) (by simp [spread, volume, metric])

def rule (name maximum : String) (h : name ≠ "") (hm : Decimal.parse? maximum ≠ none) : ApprovedMetricRule where
  name := name
  minimum := none
  maximum := some maximum
  named := h
  bounded := by simp
  finite := by simpa using hm
  ordered := by simp

/-- A policy with a rule for the spread and one for the volume. -/
def approved : ApprovedProductionQualityPolicy where
  version := ⟨productionPolicyFamily, 1, by decide, version_pos⟩
  policyRef := evidence
  applicabilityRef := evidence
  knowledgeBoundRef := evidence
  rules := [rule "spread" "10" (by decide) (by decide), rule "volume" "1000" (by decide) (by decide)]
  evidenceRefs := [evidence]
  bounded := by decide
  distinct := by simp [rule]
  refs := canonicalized
  attributable := by simp

def resolvedInputs : List (ResolvedQualityEvidence inputHashes) := [⟨evidence, [97], rfl⟩]

theorem valid_one : (evaluateProductionQuality inputHashes cohort sequence one (some approved) resolvedInputs).toOption.map
    (·.validationState) = some .valid := by
  decide +kernel

theorem valid_both : (evaluateProductionQuality inputHashes cohort sequence both (some approved) resolvedInputs).toOption.map
    (·.validationState) = some .valid := by
  decide +kernel

end Sample

/-- The theorem where a metric was supplied for each rule. -/
theorem valid_iff_complete_sample : SequenceApplied Sample.cohort Sample.sequence ∧
    PolicyApplied Sample.inputHashes Sample.cohort Sample.both (some Sample.approved) ↔
      ∃ p, some Sample.approved = some p ∧
        Sample.both.metrics.length = (digestsOf Sample.inputHashes Sample.cohort).dedup.length * p.rules.length := by
  obtain ⟨r, hr, hvalid⟩ := Option.map_eq_some_iff.mp Sample.valid_both
  exact valid_iff_complete _ _ _ _ _ _ r (ok_of_toOption hr) hvalid rfl

/-- The quality is valid, and no metric was supplied for the rule on the volume. -/
theorem valid_without_volume : ∃ r,
    evaluateProductionQuality Sample.inputHashes Sample.cohort Sample.sequence Sample.one (some Sample.approved)
      Sample.resolvedInputs = .ok r ∧
    r.validationState = .valid ∧ Sample.sequence.state = .available ∧
    ¬ PolicyApplied Sample.inputHashes Sample.cohort Sample.one (some Sample.approved) := by
  obtain ⟨r, hr, hvalid⟩ := Option.map_eq_some_iff.mp Sample.valid_one
  refine ⟨r, ok_of_toOption hr, hvalid, rfl, ?_⟩
  rintro ⟨p, hp, hcomplete⟩
  obtain rfl := Option.some.inj hp
  obtain ⟨metric, hmetric, -, hname, -⟩ := hcomplete _ (List.mem_singleton_self _) _
    (List.mem_cons_of_mem _ (List.mem_singleton_self _))
  rw [List.mem_singleton.mp hmetric] at hname
  exact absurd hname (by decide)

end ATB.Proof.MarketData
