import AutomatedTradingBot.Source.Datasets.Currentness

/-!
# What a current dataset rests on

* `assess_current_iff`: a subject is current before its boundary;
* `bind_current`: a dataset is current when its subject is, and it is outside the event
  or the propagation is complete;
* `current_backed`: both, and that what is not current does not become it with time.
-/

namespace ATB.Proof.Currentness

open Datasets Instruments

section Lemmas

variable {py : Platform} {policy : FreshnessPolicy py} {subject : String} {evidenceRef : EvidenceRef}
  {evidenceTime : Option Timestamp} {evaluationTime : Timestamp} {assessment : CurrentnessAssessment}
  {binding : DatasetBinding} {event : Option InvalidationEvent} {record : Option PropagationRecord}
  {d : DatasetCurrentnessAssessment}

/-- The evidence of a subject is known, and the time is before it plus the horizon. -/
def Fresh (policy : FreshnessPolicy py) (subject : String) (evidenceTime : Option Timestamp) (now : Timestamp) : Prop :=
  ∃ t h boundary, evidenceTime = some t ∧ policy.horizonFor subject = some h ∧ t.value.add? h.horizon = some boundary ∧
    now.value < boundary

/-- The dataset is outside the event, or a complete propagation of the event covers it. -/
def Covered (datasetVersionId : DatasetVersionId) (event : Option InvalidationEvent) (record : Option PropagationRecord) :
    Prop :=
  ∀ e ∈ event, datasetVersionId ∈ e.affectedDatasetVersionIds →
    ∃ r ∈ record, r.invalidationEventId = e.eventId ∧ r.state = .complete ∧
      r.processedDatasetVersionIds = e.affectedDatasetVersionIds ∧ r.remainingDatasetVersionIds = []

theorem freshness_current_iff {horizon : Option (FreshnessHorizon py)} {r : CurrentnessState × String × Option Timestamp}
    (hr : freshness horizon evidenceTime evaluationTime = .ok r) :
    r.1 = .current ↔ ∃ t h boundary, evidenceTime = some t ∧ horizon = some h ∧ t.value.add? h.horizon = some boundary ∧
      evaluationTime.value < boundary := by
  cases horizon with
  | none =>
    cases hr
    simp
  | some h =>
    cases evidenceTime with
    | none =>
      cases hr
      simp
    | some t =>
      simp only [freshness, bind_eq_ok, orRaise_eq_ok] at hr
      obtain ⟨boundary, hb, hr⟩ := hr
      split at hr
      all_goals
        rename_i hlt
        cases hr
        simp [hb, hlt]

theorem assess_current_iff (h : assessCurrentness subject evidenceRef evidenceTime policy evaluationTime = .ok assessment) :
    assessment.state = .current ↔ Fresh policy subject evidenceTime evaluationTime := by
  unfold assessCurrentness at h
  obtain ⟨-, -, h⟩ := bind_eq_ok.mp h
  obtain ⟨r, hf, h⟩ := bind_eq_ok.mp h
  cases pure_eq_ok.mp h
  exact freshness_current_iff hf

theorem bindDatasetCurrentness_eq_ok (h : bindDatasetCurrentness py binding assessment event record = .ok d) :
    validateLifecycle py event record = .ok () ∧
      d.state = (restrictedState binding.datasetVersionId event record assessment.state).1 := by
  unfold bindDatasetCurrentness at h
  obtain ⟨_, -, h⟩ := bind_eq_ok.mp h
  obtain ⟨_, -, h⟩ := bind_eq_ok.mp h
  obtain ⟨⟨state, lifecycleReasons⟩, hs, h⟩ := bind_eq_ok.mp h
  obtain ⟨-, h⟩ := raiseIf_bind_eq_ok.mp h
  obtain ⟨_, -, h⟩ := bind_eq_ok.mp h
  obtain ⟨_, -, h⟩ := bind_eq_ok.mp h
  cases pure_eq_ok.mp h
  unfold lifecycleCurrentnessState at hs
  obtain ⟨⟨⟩, hv, hs⟩ := bind_eq_ok.mp hs
  exact ⟨hv, (congrArg Prod.fst (pure_eq_ok.mp hs)).symm⟩

theorem restrictedState_current {v : DatasetVersionId} {base : CurrentnessState}
    (h : (restrictedState v event record base).1 = .current) :
    base = .current ∧ ∀ e ∈ event, v ∈ e.affectedDatasetVersionIds → ∃ r ∈ record, r.state = .complete := by
  cases base with
  | stale => cases h
  | unknown => cases h
  | current =>
    refine ⟨rfl, fun e he hv => ?_⟩
    cases he
    cases record with
    | none => simp [restrictedState, hv] at h
    | some r =>
      refine ⟨r, rfl, ?_⟩
      by_contra hc
      simp [restrictedState, hv, hc] at h

theorem bind_current (h : bindDatasetCurrentness py binding assessment event record = .ok d) (hc : d.state = .current) :
    assessment.state = .current ∧ Covered binding.datasetVersionId event record := by
  obtain ⟨hv, hs⟩ := bindDatasetCurrentness_eq_ok h
  obtain ⟨hbase, hall⟩ := restrictedState_current (hs.symm.trans hc)
  refine ⟨hbase, fun e he hmem => ?_⟩
  obtain ⟨r, hr, hcomplete⟩ := hall e he hmem
  cases he
  cases hr
  simp only [validateLifecycle, validateApplicablePropagation, raiseIf_bind_eq_ok, raiseIf_eq_ok, not_and_or, not_or,
    not_not, hcomplete, not_true_eq_false, false_or] at hv
  exact ⟨r, rfl, hv.1, hcomplete, hv.2.2.2.2.2⟩

theorem Fresh.mono {early late : Timestamp} (h : Fresh policy subject evidenceTime late) (hle : early.value ≤ late.value) :
    Fresh policy subject evidenceTime early := by
  obtain ⟨t, horizon, boundary, ht, hh, hb, hlt⟩ := h
  exact ⟨t, horizon, boundary, ht, hh, hb, Nat.lt_of_le_of_lt hle hlt⟩

end Lemmas

theorem current_backed (py : Platform) (policy : FreshnessPolicy py) (subject : String) (evidenceRef : EvidenceRef)
    (evidenceTime : Option Timestamp) (binding : DatasetBinding) (event : Option InvalidationEvent)
    (record : Option PropagationRecord) :
    (∀ now assessment d, assessCurrentness subject evidenceRef evidenceTime policy now = .ok assessment →
      bindDatasetCurrentness py binding assessment event record = .ok d → d.state = .current →
      Fresh policy subject evidenceTime now ∧ Covered binding.datasetVersionId event record) ∧
    ∀ early late assessment assessment' d d', early.value ≤ late.value →
      assessCurrentness subject evidenceRef evidenceTime policy early = .ok assessment →
      assessCurrentness subject evidenceRef evidenceTime policy late = .ok assessment' →
      bindDatasetCurrentness py binding assessment event record = .ok d →
      bindDatasetCurrentness py binding assessment' event record = .ok d' → d.state ≠ .current → d'.state ≠ .current := by
  refine ⟨fun now assessment d ha hb hc => ?_, fun early late assessment assessment' d d' hle ha ha' hb hb' hne hc => ?_⟩
  · obtain ⟨hstate, hcovered⟩ := bind_current hb hc
    exact ⟨(assess_current_iff ha).mp hstate, hcovered⟩
  · have hlate := (assess_current_iff ha').mp (bind_current hb' hc).1
    have hearly := (assess_current_iff ha).mpr (hlate.mono hle)
    refine hne ?_
    have hstate := (bindDatasetCurrentness_eq_ok hb').2
    rw [(bind_current hb' hc).1] at hstate
    rw [(bindDatasetCurrentness_eq_ok hb).2, hearly, ← hstate]
    exact hc

/-! ## Samples -/

namespace Sample

theorem digest_lt (s : List Char) : s.length % 2 ^ 256 < 2 ^ 256 := Nat.mod_lt _ (Nat.two_pow_pos 256)

def platform : Platform := ⟨fun _ => true, fun s => ⟨s.length % 2 ^ 256, digest_lt s⟩⟩

def evidenceRef : EvidenceRef := ⟨"source:atis/s", "dataset:atis/d", "evidence:atis/e", ⟨"sha256:01"⟩⟩

/-- Two days. -/
def horizon : FreshnessHorizon platform := ⟨"subject", 172800000000, evidenceRef, rfl, by decide⟩

def policy : FreshnessPolicy platform where
  policyId := freshnessPolicyIdOf evidenceRef [horizon]
  policyRef := evidenceRef
  horizons := [horizon]
  canonical := ⟨[horizon], rfl⟩
  content := rfl

theorem isIdentity_version : isIdentity (Text.chars "version") = true := by decide
theorem isIdentity_dependencies : isIdentity (Text.chars "dependencies") = true := by decide
theorem isIdentity_policy : isIdentity (Text.chars "policy") = true := by decide

theorem limits_pos : ∀ _ : ResourceLimit, 0 < 64 := fun _ => by decide

theorem no_physical_limits : ∀ limits ∈ (none : Option (PhysicalResourceLimit → Nat)), ∀ name, 0 < limits name := by
  simp

def binding : DatasetBinding where
  contractVersion := "v1"
  datasetVersionId := ⟨"version", isIdentity_version⟩
  dependencySetId := ⟨"dependencies", isIdentity_dependencies⟩
  dependencyEvidenceRefs := [evidenceRef]
  dependencyStateDigest := ⟨"sha256:02"⟩
  evidenceRefs := [evidenceRef]
  resourcePolicy := ⟨⟨"policy", isIdentity_policy⟩, fun _ => 64, none, limits_pos, no_physical_limits⟩

/-- Midnight of a day of January 2024. -/
def january (day : Nat) (h : RealTime 2024 1 day 0 0 0 0) : Timestamp := ⟨⟨2024, 1, day, 0, 0, 0, 0, h⟩⟩

theorem second_real : RealTime 2024 1 2 0 0 0 0 := by decide

def second : Timestamp := january 2 second_real
def third : Timestamp := january 3 (by decide)

/-- Two computations, one after the other. -/
def both {ε δ α β : Type} (x : Except ε α) (f : α → Except δ β) : Option (α × β) :=
  x.toOption.bind fun a => (f a).toOption.map fun b => (a, b)

theorem both_eq_some {ε δ α β : Type} {x : Except ε α} {f : α → Except δ β} {r : α × β} (h : both x f = some r) :
    x = .ok r.1 ∧ f r.1 = .ok r.2 := by
  obtain ⟨a, ha, h⟩ := Option.bind_eq_some_iff.mp h
  obtain ⟨b, hb, rfl⟩ := Option.map_eq_some_iff.mp h
  exact ⟨ok_of_toOption ha, ok_of_toOption hb⟩

/-- The dataset for evidence of one day, evaluated on another. -/
def run (evidenceTime now : Timestamp) : Option (CurrentnessAssessment × DatasetCurrentnessAssessment) :=
  both (assessCurrentness "subject" evidenceRef (some evidenceTime) policy now) fun assessment =>
    bindDatasetCurrentness platform binding assessment none none

theorem run_current : (run second third).map (·.2.state) = some .current := by decide +kernel

theorem run_before_evidence : (run third second).map (·.2.state) = some .current := by decide +kernel

end Sample

theorem current_backed_sample : Fresh Sample.policy "subject" (some Sample.second) Sample.third ∧
    Covered Sample.binding.datasetVersionId none none := by
  obtain ⟨r, hr, hstate⟩ := Option.map_eq_some_iff.mp Sample.run_current
  obtain ⟨ha, hb⟩ := Sample.both_eq_some hr
  exact (current_backed _ Sample.policy "subject" Sample.evidenceRef _ Sample.binding none none).1 Sample.third r.1 r.2 ha hb
    hstate

/-- Evidence of the third of January is current on the second. -/
theorem current_before_evidence : ∃ assessment d,
    assessCurrentness "subject" Sample.evidenceRef (some Sample.third) Sample.policy Sample.second = .ok assessment ∧
      bindDatasetCurrentness Sample.platform Sample.binding assessment none none = .ok d ∧ d.state = .current ∧
      Sample.second.value < Sample.third.value := by
  obtain ⟨r, hr, hstate⟩ := Option.map_eq_some_iff.mp Sample.run_before_evidence
  obtain ⟨ha, hb⟩ := Sample.both_eq_some hr
  exact ⟨r.1, r.2, ha, hb, hstate, by decide⟩

end ATB.Proof.Currentness
