import AutomatedTradingBot.Framework.Knowledge
import AutomatedTradingBot.Proof.MarketData.Evidence

/-!
# When decisions are known

A history of decisions, each made from those before it. A release is later than the
decision that it releases; `decide_eligibility` does not look at the time of the
quarantine decision that it is given.

* `step_inTime`: what one decision appends, and when it is in time;
* `knowledge_order_iff`: the decisions known at each cut-off are closed under what they
  rest on exactly when every eligibility decision of the run is in time;
* `releasesKnownAt_known`: a release that is visible at a cut-off releases a decision that
  is known then.
-/

namespace ATB.Proof.MarketData

open ATB.MarketData Instruments Knowledge

instance : Preorder Datetime where
  le_refl _ := Nat.le_refl _
  le_trans _ _ _ := Nat.le_trans
  lt_iff_le_not_ge a b := lt_iff_le_not_ge (a := a.key) (b := b.key)

/-! ## Histories -/

/-- A decision, with the decision that it was made from. -/
inductive Decision where
  | quarantine (d : QuarantineDecision)
  | eligibility (d : EligibilityDecision) (used : QuarantineDecision)
  | release (d : ReleaseDecision) (predecessor : QuarantineDecision)
deriving DecidableEq

def Decision.restsOn : Decision → List Decision
  | .quarantine _ => []
  | .eligibility _ used => [.quarantine used]
  | .release _ predecessor => [.quarantine predecessor]

def Decision.knowledgeFrom : Decision → Datetime
  | .quarantine d => d.knowledgeFrom.value
  | .eligibility d _ => d.knowledgeFrom.value
  | .release d _ => d.knowledgeFrom.value

/-- A call of one of the three functions. -/
inductive Command where
  | decideQuarantine (subject : QuarantineSubject) (c05Result : ProductionQualityResult) (policy : QuarantinePolicy)
      (knowledgeFrom : Timestamp) (evidenceRefs : List EvidenceRef) (resolvedEvidence : List ResolvedC06Evidence)
      (effectiveFrom : Option Timestamp)
  | decideEligibility (subject : QuarantineSubject) (quarantine : QuarantineDecision)
      (c05Result : ProductionQualityResult) (policy : EligibilityPolicy) (knowledgeFrom : Timestamp)
      (prerequisiteEvidenceRefs : List EvidenceRef) (resolvedEvidence : List ResolvedC06Evidence)
      (externalCurrentnessRef : Option EvidenceRef) (effectiveFrom : Option Timestamp)
  | releaseQuarantine (predecessor : QuarantineDecision) (subject : QuarantineSubject)
      (assertion : ReleaseAuthorityAssertion) (admissionPolicy : ReleaseAuthorityAdmissionPolicy)
      (knowledgeFrom : Timestamp) (resolvedEvidence : List ResolvedC06Evidence)
      (existingReleases : List ReleaseDecision) (effectiveFrom : Option Timestamp)

section Hashes

variable (hashes : Hashes)

/-- The history after a call that returns a decision, made from decisions of the history. -/
def step (history : List Decision) : Command → Option (List Decision)
  | .decideQuarantine subject c05Result policy knowledgeFrom evidenceRefs resolvedEvidence effectiveFrom =>
    (decideQuarantine hashes subject c05Result policy knowledgeFrom evidenceRefs resolvedEvidence
      effectiveFrom).toOption.map fun d => history ++ [.quarantine d]
  | .decideEligibility subject quarantine c05Result policy knowledgeFrom prerequisiteEvidenceRefs resolvedEvidence
      externalCurrentnessRef effectiveFrom =>
    if .quarantine quarantine ∈ history then
      (decideEligibility hashes subject quarantine c05Result policy knowledgeFrom prerequisiteEvidenceRefs
        resolvedEvidence externalCurrentnessRef effectiveFrom).toOption.map fun d =>
          history ++ [.eligibility d quarantine]
    else none
  | .releaseQuarantine predecessor subject assertion admissionPolicy knowledgeFrom resolvedEvidence existingReleases
      effectiveFrom =>
    if .quarantine predecessor ∈ history then
      (releaseQuarantine hashes predecessor subject assertion admissionPolicy knowledgeFrom resolvedEvidence
        existingReleases effectiveFrom).toOption.map fun d => history ++ [.release d predecessor]
    else none

/-- An eligibility decision is asked for from no earlier than the quarantine decision given is known. -/
def Command.Timely : Command → Prop
  | .decideEligibility _ quarantine _ _ knowledgeFrom _ _ _ _ => quarantine.knowledgeFrom.value ≤ knowledgeFrom.value
  | _ => True

instance (c : Command) : Decidable c.Timely := by
  cases c <;> unfold Command.Timely <;> infer_instance

variable {hashes}

theorem decideEligibility_knowledgeFrom {subject : QuarantineSubject} {quarantine : QuarantineDecision}
    {c05Result : ProductionQualityResult} {policy : EligibilityPolicy} {knowledgeFrom : Timestamp}
    {prerequisites : List EvidenceRef} {resolved : List ResolvedC06Evidence} {currentness : Option EvidenceRef}
    {effectiveFrom : Option Timestamp} {d : EligibilityDecision}
    (h : decideEligibility hashes subject quarantine c05Result policy knowledgeFrom prerequisites resolved
      currentness effectiveFrom = .ok d) : d.knowledgeFrom = knowledgeFrom := by
  simp only [MarketData.decideEligibility, bind_eq_ok, raiseIf_eq_ok, exists_const, pure_eq_ok] at h
  obtain ⟨-, -, -, refs, -, u, -, ps, -, ps', -, refs', -, rfl⟩ := h
  rfl

/-- A release is known later than what it releases. -/
theorem releaseQuarantine_later {predecessor : QuarantineDecision} {subject : QuarantineSubject}
    {assertion : ReleaseAuthorityAssertion} {admissionPolicy : ReleaseAuthorityAdmissionPolicy}
    {knowledgeFrom : Timestamp} {resolved : List ResolvedC06Evidence} {existing : List ReleaseDecision}
    {effectiveFrom : Option Timestamp} {d : ReleaseDecision}
    (h : releaseQuarantine hashes predecessor subject assertion admissionPolicy knowledgeFrom resolved
      existing effectiveFrom = .ok d) : predecessor.knowledgeFrom.value < d.knowledgeFrom.value := by
  simp only [MarketData.releaseQuarantine, bind_eq_ok, raiseIf_eq_ok, exists_const, pure_eq_ok, not_or] at h
  obtain ⟨u, -, ⟨hlater, -⟩, -, -, refs, -, u', -, refs', -, rfl⟩ := h
  exact Nat.lt_of_not_le hlater

/-- What a call appends rests on the history, and is in time exactly when the call is. -/
theorem step_inTime {history history' : List Decision} {c : Command} (h : step hashes history c = some history') :
    ∃ d, history' = history ++ [d] ∧ (∀ e ∈ d.restsOn, e ∈ history) ∧
      (InTime Decision.knowledgeFrom Decision.restsOn d ↔ c.Timely) := by
  cases c with
  | decideQuarantine subject c05Result policy knowledgeFrom evidenceRefs resolved effectiveFrom =>
    simp only [step, Option.map_eq_some_iff] at h
    obtain ⟨d, -, rfl⟩ := h
    exact ⟨_, rfl, by simp [Decision.restsOn], by simp [InTime, Decision.restsOn, Command.Timely]⟩
  | decideEligibility subject quarantine c05Result policy knowledgeFrom prerequisites resolved currentness effectiveFrom =>
    simp only [step, Option.ite_none_right_eq_some, Option.map_eq_some_iff] at h
    obtain ⟨hmem, d, hd, rfl⟩ := h
    refine ⟨_, rfl, by simpa [Decision.restsOn] using hmem, ?_⟩
    simp only [InTime, Decision.restsOn, List.forall_mem_singleton, Decision.knowledgeFrom, Command.Timely]
    rw [decideEligibility_knowledgeFrom (ok_of_toOption hd)]
  | releaseQuarantine predecessor subject assertion admissionPolicy knowledgeFrom resolved existing effectiveFrom =>
    simp only [step, Option.ite_none_right_eq_some, Option.map_eq_some_iff] at h
    obtain ⟨hmem, d, hd, rfl⟩ := h
    refine ⟨_, rfl, by simpa [Decision.restsOn] using hmem, ?_⟩
    simp only [InTime, Decision.restsOn, List.forall_mem_singleton, Decision.knowledgeFrom, Command.Timely, iff_true]
    exact (releaseQuarantine_later (ok_of_toOption hd)).le

theorem step_release {history : List Decision} {c : Command} {r : ReleaseDecision} {predecessor : QuarantineDecision}
    (h : step hashes history c = some (history ++ [.release r predecessor])) :
    predecessor.knowledgeFrom.value < r.knowledgeFrom.value := by
  cases c with
  | decideQuarantine => simp [step] at h
  | decideEligibility => simp [step] at h
  | releaseQuarantine =>
    simp only [step, Option.ite_none_right_eq_some, Option.map_eq_some_iff, List.append_cancel_left_eq, List.cons.injEq,
      Decision.release.injEq, and_true] at h
    obtain ⟨-, d, hd, rfl, rfl⟩ := h
    exact releaseQuarantine_later (ok_of_toOption hd)

/-- What each call of a run returns is known no earlier than what it was made from, and what
is known at each cut-off is closed under that, exactly when every call of the run is in time. -/
theorem knowledge_order_iff (hashes : Hashes) (commands : List Command) (history : List Decision)
    (h : Trace.run (step hashes) [] commands = some history) :
    ((∀ d ∈ history, ∀ e ∈ d.restsOn, e.knowledgeFrom ≤ d.knowledgeFrom) ∧
      ∀ cutoff, Closed Decision.restsOn (knownAt Decision.knowledgeFrom cutoff history)) ↔
    Trace.Along (step hashes) (fun _ c => c.Timely) [] commands := by
  have hrun : Closed Decision.restsOn history ∧ (Ordered Decision.knowledgeFrom Decision.restsOn history ↔ _) :=
    run_ordered_iff (fun _ _ _ => step_inTime) h (by simp [Closed])
  obtain ⟨hclosed, hordered⟩ := hrun
  rw [closed_knownAt_iff hclosed]
  change Ordered Decision.knowledgeFrom Decision.restsOn history ∧ _ ↔ _
  rw [and_self, hordered]
  simp [Ordered]

theorem releasesKnownAt_eq_ok {releases visible : List ReleaseDecision} {cutoff : Timestamp}
    (h : releasesKnownAt hashes releases cutoff = .ok visible) (r : ReleaseDecision) :
    r ∈ visible ↔ r ∈ releases ∧ r.knowledgeFrom.value ≤ cutoff.value := by
  simp only [releasesKnownAt, bind_eq_ok, raiseIf_eq_ok, exists_const, pure_eq_ok] at h
  obtain ⟨-, -, rfl⟩ := h
  rw [(List.perm_insertionSort _ _).mem_iff, List.mem_filter, decide_eq_true_eq]

/-- What a release of a run that is visible at a cut-off releases is known then, in any run. -/
theorem releasesKnownAt_known {commands : List Command} {history : List Decision}
    (h : Trace.run (step hashes) [] commands = some history) {releases visible : List ReleaseDecision}
    {cutoff : Timestamp} (hvisible : releasesKnownAt hashes releases cutoff = .ok visible) {r : ReleaseDecision}
    (hr : r ∈ visible) {predecessor : QuarantineDecision} (hmade : .release r predecessor ∈ history) :
    .quarantine predecessor ∈ knownAt Decision.knowledgeFrom cutoff.value history := by
  -- every release of the history is later than what it releases, which is in the history
  have hinv : ∀ r predecessor, .release r predecessor ∈ history →
      .quarantine predecessor ∈ history ∧ predecessor.knowledgeFrom.value < r.knowledgeFrom.value := by
    refine Trace.run_invariant (fun history => ∀ r predecessor, .release r predecessor ∈ history →
      Decision.quarantine predecessor ∈ history ∧ predecessor.knowledgeFrom.value < r.knowledgeFrom.value)
      (fun history c history' hstep ih r predecessor hmem => ?_) h (by simp)
    obtain ⟨d, rfl, hground, -⟩ := step_inTime hstep
    rcases List.mem_append.mp hmem with hmem | hmem
    · exact ⟨List.mem_append_left _ (ih r predecessor hmem).1, (ih r predecessor hmem).2⟩
    · rw [← List.mem_singleton.mp hmem] at hstep hground
      refine ⟨List.mem_append_left _ (hground _ (List.mem_singleton_self _)), ?_⟩
      exact step_release hstep
  obtain ⟨hmem, hlater⟩ := hinv r predecessor hmade
  exact mem_knownAt.mpr ⟨hmem, hlater.le.trans ((releasesKnownAt_eq_ok hvisible r).mp hr).2⟩

end Hashes

namespace Sample

/-- The decision that the subject is not quarantined, known from a second. -/
def known (second : Nat) : QuarantineDecision :=
  { quarantine .notQuarantined "C05_VALID_EXACTLY_BOUND" with knowledgeFrom := instant second }

/-- The decision that the subject is eligible. -/
def eligible (second : Nat) : EligibilityDecision where
  claimId := claim
  claimContractVersion := eligibilityPolicy.claimContractVersion
  claimContractRef := evidence
  quarantineSubjectId := subject.subjectId hashes
  c05QualityResultDigest := subject.c05QualityResultDigest
  eligibilityPolicyId := eligibilityPolicy.policyId
  eligibilityPolicyRef := evidence
  knowledgeFrom := instant second
  effectiveFrom := none
  prerequisiteEvidenceRefs := [evidence]
  externalCurrentnessRef := none
  disposition := .eligible
  reasons := ["EXACT_CLAIM_PREREQUISITES_SATISFIED"]
  evidenceRefs := [evidence]

/-- The quarantine decision, and the eligibility decision from it. -/
def commands (quarantined eligible : Nat) : List Command :=
  [.decideQuarantine subject result policy (instant quarantined) [evidence] resolved none,
    .decideEligibility subject (known quarantined) result eligibilityPolicy (instant eligible) [evidence] resolved none
      none]

theorem run_commands : ∀ seconds ∈ [(1, 2), (2, 1)], Trace.run (step hashes) [] (commands seconds.1 seconds.2) =
    some [.quarantine (known seconds.1), .eligibility (eligible seconds.2) (known seconds.1)] := by
  decide +kernel

end Sample

/-- The theorem at a run in time. -/
theorem knowledge_order_iff_sample : ∃ history, Trace.run (step Sample.hashes) [] (Sample.commands 1 2) = some history ∧
    (((∀ d ∈ history, ∀ e ∈ d.restsOn, e.knowledgeFrom ≤ d.knowledgeFrom) ∧
      ∀ cutoff, Closed Decision.restsOn (knownAt Decision.knowledgeFrom cutoff history)) ↔
    Trace.Along (step Sample.hashes) (fun _ c => c.Timely) [] (Sample.commands 1 2)) :=
  have hrun := Sample.run_commands (1, 2) (by simp)
  ⟨_, hrun, knowledge_order_iff Sample.hashes _ _ hrun⟩

/-- A subject is eligible from a second before the decision that it is not quarantined is
known, so at that second the one is known without the other. -/
theorem eligible_before_quarantine : ∃ history d q,
    Trace.run (step Sample.hashes) [] (Sample.commands 2 1) = some history ∧ .eligibility d q ∈ history ∧
    d.disposition = .eligible ∧ q.disposition = .notQuarantined ∧ d.knowledgeFrom.value < q.knowledgeFrom.value ∧
    ¬ Closed Decision.restsOn (knownAt Decision.knowledgeFrom (Sample.instant 1).value history) := by
  refine ⟨_, Sample.eligible 1, Sample.known 2, Sample.run_commands (2, 1) (by simp), by simp, rfl, rfl, by decide, fun hclosed => ?_⟩
  have hknown : Decision.eligibility (Sample.eligible 1) (Sample.known 2) ∈ knownAt Decision.knowledgeFrom
      (Sample.instant 1).value [.quarantine (Sample.known 2), .eligibility (Sample.eligible 1) (Sample.known 2)] :=
    mem_knownAt.mpr ⟨by simp, le_rfl⟩
  have hquarantine := (mem_knownAt.mp (hclosed _ hknown _ (List.mem_singleton_self _))).2
  exact absurd hquarantine (by decide)

end ATB.Proof.MarketData
