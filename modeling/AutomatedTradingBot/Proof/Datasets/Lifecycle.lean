import AutomatedTradingBot.Source.Datasets.Lifecycle

/-!
# Runs of invalidation propagation

The records that `create_propagation_record`, `advance_propagation` and
`restart_propagation` build for one invalidation event.

* `Checkpoint`: what every built record satisfies (`checkpoint_of_build`); the two
  sets partition the affected set, and the state is complete exactly when nothing
  remains (`Checkpoint.complete_iff`);
* `advance_spec`, `restart_spec`: one step along a chain;
* `build_progress`: when a record without reasons is accepted, and from it
  `exists_complete`: a chain can always be brought to completion.
-/

namespace ATB.Proof.Lifecycle

open ATB.Datasets
open Instruments (EvidenceRef)

variable {py : Platform} {event : InvalidationEvent} {affected : AffectedSet}
  {policy : DatasetLifecycleResourcePolicy}

/-! ## Sets of versions -/

section Versions

variable {l l' processed remaining expected : List DatasetVersionId}

@[simp] theorem mem_versions {v : DatasetVersionId} : v ∈ versions l ↔ v ∈ l := mem_sortedSetOn

theorem versions_congr (h : ∀ v, v ∈ l ↔ v ∈ l') : versions l = versions l' :=
  sortedSetOn_congr OpaqueId.value_injective h

@[simp] theorem versions_idem : versions (versions l) = versions l := sortedSetOn_idem OpaqueId.value_injective

theorem versions_eq_nil : versions l = [] ↔ l = [] := sortedSetOn_eq_nil

theorem not_unreconciled : ¬ Unreconciled processed remaining expected ↔
    (∀ v ∈ processed, v ∉ remaining) ∧ ∀ v, v ∈ processed ∨ v ∈ remaining ↔ v ∈ expected := by
  rw [Unreconciled, not_or, not_not]
  simp only [not_exists, not_and, List.mem_append]
  exact and_congr_right fun _ => ⟨fun h v => ⟨h.1 v, h.2 v⟩, fun h => ⟨fun v => (h v).mp, fun v => (h v).mpr⟩⟩

/-- The members kept and the members filtered out partition a list. -/
theorem reconciled_filter (h : ∀ v ∈ processed, v ∈ expected) :
    ¬ Unreconciled (versions processed) (versions (expected.filter fun v => decide (v ∉ processed))) expected := by
  rw [not_unreconciled]
  simp only [mem_versions, List.mem_filter, decide_eq_true_eq]
  refine ⟨fun v hv hr => hr.2 hv, fun v => ⟨?_, fun hv => ?_⟩⟩
  · rintro (hv | hv)
    · exact h v hv
    · exact hv.1
  · by_cases hp : v ∈ processed
    · exact Or.inl hp
    · exact Or.inr ⟨hv, hp⟩

theorem versions_eq_of_subset (hids : versions expected = expected)
    (h : ¬ Unreconciled processed remaining expected) (hr : remaining = []) : versions processed = expected := by
  rw [not_unreconciled] at h
  rw [← hids]
  refine versions_congr fun v => ?_
  rw [← h.2 v, hr]
  simp only [List.not_mem_nil, or_false]

end Versions

/-! ## The lifecycle context -/

structure Context (event : InvalidationEvent) (affected : AffectedSet) (policy : DatasetLifecycleResourcePolicy) :
    Prop where
  affectedSet : event.affectedSetId = affected.affectedSetId
  graph : event.graphIdentity = affected.provenanceGraphId
  members : event.affectedDatasetVersionIds = affected.datasetVersionIds
  policy : affected.resourcePolicyId = policy.policyId

theorem validateLifecycleContext_eq_ok {u : Unit} :
    validateLifecycleContext event affected policy = .ok u ↔ Context event affected policy := by
  simp only [validateLifecycleContext, raiseIf_bind_eq_ok, raiseIf_eq_ok, not_not]
  exact ⟨fun ⟨a, b, c, d⟩ => ⟨a, b, c, d⟩, fun h => ⟨h.affectedSet, h.graph, h.members, h.policy⟩⟩

/-! ## Built records -/

/-- What a record built for an event satisfies. -/
structure Checkpoint (py : Platform) (event : InvalidationEvent) (r : PropagationRecord) : Prop where
  ofEvent : r.invalidationEventId = event.eventId
  affectedSet : r.affectedSetId = event.affectedSetId
  graph : r.graphIdentity = event.graphIdentity
  expectedDigest : r.expectedAffectedSetDigest =
    setDigest py "ATIS:C10:EXPECTED_AFFECTED_SET:1" event.affectedDatasetVersionIds
  processedDigest : r.processedSetDigest = setDigest py "ATIS:C10:PROCESSED_SET:1" r.processedDatasetVersionIds
  remainingDigest : r.remainingSetDigest = setDigest py "ATIS:C10:REMAINING_SET:1" r.remainingDatasetVersionIds
  processed : versions r.processedDatasetVersionIds = r.processedDatasetVersionIds
  remaining : versions r.remainingDatasetVersionIds = r.remainingDatasetVersionIds
  reconciled : ¬ Unreconciled r.processedDatasetVersionIds r.remainingDatasetVersionIds
    event.affectedDatasetVersionIds
  complete : r.state = .complete → r.remainingDatasetVersionIds = []
  incomplete : r.state ≠ .complete → r.processedDatasetVersionIds ≠ event.affectedDatasetVersionIds
  version : text py "contract_version" r.contractVersion = .ok ()

/-- A record is complete exactly when nothing remains. -/
theorem Checkpoint.complete_iff {r : PropagationRecord} (h : Checkpoint py event r)
    (hids : versions event.affectedDatasetVersionIds = event.affectedDatasetVersionIds) :
    r.state = .complete ↔ r.remainingDatasetVersionIds = [] := by
  refine ⟨h.complete, fun hr => ?_⟩
  by_contra hstate
  exact h.incomplete hstate (h.processed.symm.trans (versions_eq_of_subset hids h.reconciled hr))

section Build

variable {contractVersion : String} {processed remaining : List DatasetVersionId} {state : PropagationRecordState}
  {restartIdentity : Option PropagationRunId} {restartEvidenceRefs evidenceRefs : List EvidenceRef}
  {recordReasons : List String} {r : PropagationRecord}

theorem checkpoint_of_build (hctx : Context event affected policy)
    (h : buildPropagationRecord py contractVersion event affected processed remaining state restartIdentity
      restartEvidenceRefs recordReasons evidenceRefs policy = .ok r) :
    Checkpoint py event r ∧ r.state = state ∧ r.restartIdentity = restartIdentity ∧
      r.processedDatasetVersionIds = versions processed ∧ r.resourcePolicyId = policy.policyId := by
  simp only [buildPropagationRecord, raiseIf_bind_eq_ok] at h
  obtain ⟨hrec, -, h⟩ := h
  obtain ⟨canonicalReasons, -, h⟩ := bind_eq_ok.mp h
  obtain ⟨-, -, h⟩ := bind_eq_ok.mp h
  obtain ⟨recordRefs, -, h⟩ := bind_eq_ok.mp h
  obtain ⟨restartRefs, -, h⟩ := bind_eq_ok.mp h
  simp only [raiseIf_bind_eq_ok] at h
  obtain ⟨-, -, -, hcomplete, hincomplete, h⟩ := h
  obtain ⟨⟨⟩, htext, h⟩ := bind_eq_ok.mp h
  obtain ⟨-, -, h⟩ := bind_eq_ok.mp h
  rw [pure_eq_ok] at h
  subst h
  refine ⟨?_, rfl, rfl, rfl, rfl⟩
  refine ⟨rfl, hctx.affectedSet.symm, hctx.graph.symm, ?_, rfl, rfl, versions_idem, versions_idem, ?_, ?_, ?_, htext⟩
  · rw [hctx.members]
    rfl
  · rw [hctx.members]
    exact hrec
  · intro hstate
    by_contra hr
    exact hcomplete ⟨hstate, Or.inl hr⟩
  · intro hstate hp
    rw [hctx.members] at hp
    exact hincomplete ⟨hstate, hp⟩

theorem reasons_nil : reasons py [] policy = .ok [] := by
  simp only [reasons, Text.sortedSet, List.dedup_nil, List.insertionSort_nil, List.length_nil,
    Nat.not_lt_zero, raiseIf_of_not, not_false_eq_true, List.not_mem_nil, false_and, exists_false]
  rfl

theorem postInit_sealed {r : PropagationContent}
    (hdisjoint : ¬ ∃ v ∈ r.processedDatasetVersionIds, v ∈ r.remainingDatasetVersionIds)
    (hexpected : r.expectedAffectedSetDigest = setDigest py "ATIS:C10:EXPECTED_AFFECTED_SET:1"
      (versions (r.processedDatasetVersionIds ++ r.remainingDatasetVersionIds)))
    (hprocessed : r.processedSetDigest = setDigest py "ATIS:C10:PROCESSED_SET:1" (versions r.processedDatasetVersionIds))
    (hremaining : r.remainingSetDigest = setDigest py "ATIS:C10:REMAINING_SET:1" (versions r.remainingDatasetVersionIds))
    (htext : text py "contract_version" r.contractVersion = .ok ()) :
    (r.sealed py).postInit py = .ok () := by
  have happend : versions (versions r.processedDatasetVersionIds ++ versions r.remainingDatasetVersionIds) =
      versions (r.processedDatasetVersionIds ++ r.remainingDatasetVersionIds) :=
    versions_congr fun v => by simp only [List.mem_append, mem_versions]
  unfold PropagationRecord.postInit PropagationContent.sealed
  simp only [raiseIf_bind_eq_ok, mem_versions, happend, not_not, ne_eq]
  refine ⟨hdisjoint, hexpected, hprocessed, hremaining, ?_⟩
  rw [htext, ok_bind]
  exact raiseIf_of_not (by simp)

/-- A record without reasons that follows another is accepted when its sets partition
the affected set within the limit and its state says whether anything remains. -/
theorem build_progress {recordRefs restartRefs : List EvidenceRef} {identity : PropagationRunId}
    (hctx : Context event affected policy)
    (hids : versions event.affectedDatasetVersionIds = event.affectedDatasetVersionIds)
    (hrec : ¬ Unreconciled (versions processed) (versions remaining) event.affectedDatasetVersionIds)
    (hlen : (versions processed).length ≤ policy.value .maxPropagationEventsPerRun)
    (hstate : state = .inProgress ∧ versions processed ≠ event.affectedDatasetVersionIds ∨
      state = .complete ∧ remaining = [] ∧ versions processed = event.affectedDatasetVersionIds)
    (hrefs : refs evidenceRefs false = .ok recordRefs) (hrestart : refs restartEvidenceRefs true = .ok restartRefs)
    (htext : text py "contract_version" contractVersion = .ok ()) :
    ∃ r, buildPropagationRecord py contractVersion event affected processed remaining state (some identity)
      restartEvidenceRefs [] evidenceRefs policy = .ok r := by
  have hexpected : versions (versions processed ++ versions remaining) = affected.datasetVersionIds := by
    rw [← hctx.members, ← hids]
    refine versions_congr fun v => ?_
    rw [List.mem_append]
    exact (not_unreconciled.mp hrec).2 v
  have hreasons : checkReasons state [] = .ok () := by
    rw [checkReasons, if_pos (by rcases hstate with h | h <;> simp [h.1])]
    exact raiseIf_of_not (by simp)
  have hne : decide (state = .notEstablished) = false := by
    rcases hstate with ⟨rfl, -⟩ | ⟨rfl, -⟩ <;> rfl
  have hfailed : ¬ (state = .failed ∧ recordRefs = []) := by
    rcases hstate with ⟨rfl, -⟩ | ⟨rfl, -⟩ <;> simp
  have hstarted : ¬ (state = .notStarted ∧ versions processed ≠ []) := by
    rcases hstate with ⟨rfl, -⟩ | ⟨rfl, -⟩ <;> simp
  rw [hctx.members] at hrec hstate
  have hcomplete : ¬ (state = .complete ∧ (versions remaining ≠ [] ∨ versions processed ≠ affected.datasetVersionIds)) := by
    rcases hstate with ⟨rfl, -⟩ | ⟨rfl, hr, hp⟩
    · simp
    · simp [versions_eq_nil, hr, hp]
  have hincomplete : ¬ (state ≠ .complete ∧ versions processed = affected.datasetVersionIds) := by
    rcases hstate with ⟨rfl, hp⟩ | ⟨rfl, -⟩
    · simp [hp]
    · simp
  unfold buildPropagationRecord
  refine exists_ok_raiseIf hrec ?_
  refine exists_ok_raiseIf (not_lt.mpr hlen) ?_
  refine exists_ok_bind reasons_nil ?_
  refine exists_ok_bind hreasons ?_
  rw [hne]
  refine exists_ok_bind hrefs ?_
  refine exists_ok_bind hrestart ?_
  refine exists_ok_raiseIf (by simp) ?_
  refine exists_ok_raiseIf hfailed ?_
  refine exists_ok_raiseIf hstarted ?_
  refine exists_ok_raiseIf hcomplete ?_
  refine exists_ok_raiseIf hincomplete ?_
  refine exists_ok_bind htext (exists_ok_bind (postInit_sealed (fun h => hrec (Or.inl h)) ?_ ?_ ?_ htext) ⟨_, rfl⟩)
  · rw [hexpected]
  · rw [versions_idem]
  · rw [versions_idem]

end Build

/-! ## One step -/

theorem validatePredecessorBasis_eq_ok {p : PropagationRecord} {u : Unit}
    (h : validatePredecessorBasis py p event affected policy = .ok u) :
    Context event affected policy ∧ p.resourcePolicyId = policy.policyId := by
  simp only [validatePredecessorBasis] at h
  obtain ⟨⟨⟩, hctx, h⟩ := bind_eq_ok.mp h
  simp only [raiseIf_bind_eq_ok, not_not] at h
  exact ⟨validateLifecycleContext_eq_ok.mp hctx, h.2.2.2.1⟩

/-- A built record is a basis for the next one. -/
theorem Checkpoint.basis {p : PropagationRecord} (h : Checkpoint py event p) (hctx : Context event affected policy)
    (hpolicy : p.resourcePolicyId = policy.policyId) :
    validatePredecessorBasis py p event affected policy = .ok () := by
  have hrec := h.reconciled
  have hexpected := h.expectedDigest
  rw [hctx.members] at hrec hexpected
  have hcontext : validateLifecycleContext event affected policy = .ok () := validateLifecycleContext_eq_ok.mpr hctx
  unfold validatePredecessorBasis
  rw [hcontext, ok_bind]
  simp only [raiseIf_bind_eq_ok, raiseIf_eq_ok, not_not, h.processed, h.remaining]
  exact ⟨h.ofEvent, h.affectedSet.trans hctx.affectedSet, h.graph.trans hctx.graph, hpolicy, hexpected, hrec,
    h.processedDigest, h.remainingDigest⟩

section Step

variable {p r : PropagationRecord} {processedIds : List DatasetVersionId} {nextState : PropagationRecordState}
  {recordReasons : List String} {evidenceRefs restartEvidenceRefs : List EvidenceRef}

theorem advance_spec (h : advancePropagation py p event affected policy processedIds nextState recordReasons
      evidenceRefs = .ok r) :
    Checkpoint py event r ∧ (p.state = .notStarted ∨ p.state = .inProgress) ∧ r.state = nextState ∧
      r.restartIdentity = some p.propagationRunId ∧
      (∀ v ∈ p.processedDatasetVersionIds, v ∈ r.processedDatasetVersionIds) ∧
      r.resourcePolicyId = p.resourcePolicyId := by
  unfold advancePropagation at h
  obtain ⟨⟨⟩, hbasis, h⟩ := bind_eq_ok.mp h
  obtain ⟨hctx, hpolicy⟩ := validatePredecessorBasis_eq_ok hbasis
  simp only [raiseIf_bind_eq_ok, not_not] at h
  obtain ⟨hterminal, -, -, hkept, -, h⟩ := h
  obtain ⟨hr, hnext, hidentity, hprocessed, hpolicy'⟩ := checkpoint_of_build hctx h
  refine ⟨hr, ?_, hnext, hidentity, fun v hv => ?_, hpolicy'.trans hpolicy.symm⟩
  · cases hs : p.state <;> simp [hs] at hterminal ⊢
  · rw [hprocessed, mem_versions]
    exact hkept v hv

theorem restart_spec (h : restartPropagation py p event affected policy restartEvidenceRefs = .ok r) :
    Checkpoint py event r ∧ (p.state = .failed ∨ p.state = .notEstablished) ∧ r.state = .inProgress ∧
      r.restartIdentity = some p.propagationRunId ∧ r.resourcePolicyId = p.resourcePolicyId := by
  unfold restartPropagation at h
  obtain ⟨⟨⟩, hbasis, h⟩ := bind_eq_ok.mp h
  obtain ⟨hctx, hpolicy⟩ := validatePredecessorBasis_eq_ok hbasis
  simp only [raiseIf_bind_eq_ok, not_not] at h
  obtain ⟨hstate, h⟩ := h
  obtain ⟨restartRefs, -, h⟩ := bind_eq_ok.mp h
  obtain ⟨hr, hnext, hidentity, -, hpolicy'⟩ := checkpoint_of_build hctx h
  exact ⟨hr, hstate, hnext, hidentity, hpolicy'.trans hpolicy.symm⟩

/-! ### Accepted calls -/

theorem refs_singleton (e : EvidenceRef) (allowEmpty : Bool) : refs [e] allowEmpty = .ok [e] := by
  rw [refs, if_neg (List.cons_ne_nil _ _), canonicalizeEvidenceRefs_singleton]
  rfl

theorem length_versions_le (h : ∀ v ∈ processedIds, v ∈ event.affectedDatasetVersionIds) :
    (versions processedIds).length ≤ event.affectedDatasetVersionIds.length :=
  (List.subperm_of_subset nodup_sortedSetOn fun v hv => h v (mem_versions.mp hv)).length_le

variable (hctx : Context event affected policy)
  (hids : versions event.affectedDatasetVersionIds = event.affectedDatasetVersionIds)
  (hlimit : event.affectedDatasetVersionIds.length ≤ policy.value .maxPropagationEventsPerRun)
  (hp : Checkpoint py event p) (hpolicy : p.resourcePolicyId = policy.policyId)

include hctx hids hlimit hp hpolicy in
/-- Nothing has started: the run can start without progress. -/
theorem advance_start (e : EvidenceRef) (hstate : p.state = .notStarted) :
    ∃ r, advancePropagation py p event affected policy p.processedDatasetVersionIds .inProgress [] [e] = .ok r := by
  have hmembers : ∀ v ∈ p.processedDatasetVersionIds, v ∈ event.affectedDatasetVersionIds := fun v hv =>
    ((not_unreconciled.mp hp.reconciled).2 v).mp (Or.inl hv)
  have hmembers' : ∀ v ∈ p.processedDatasetVersionIds, v ∈ affected.datasetVersionIds := by
    rw [← hctx.members]
    exact hmembers
  unfold advancePropagation
  refine exists_ok_bind (hp.basis hctx hpolicy) ?_
  refine exists_ok_raiseIf (by simp [hstate]) ?_
  refine exists_ok_raiseIf (by simp [hstate, allowed]) ?_
  simp only [hp.processed]
  refine exists_ok_raiseIf (not_not.mpr hmembers') ?_
  refine exists_ok_raiseIf (not_not.mpr fun _ h => h) ?_
  refine exists_ok_raiseIf (by simp [hstate]) ?_
  rw [← hctx.members]
  have hrec := reconciled_filter hmembers
  refine build_progress hctx hids hrec ((length_versions_le hmembers).trans hlimit) (Or.inl ⟨rfl, ?_⟩)
    (refs_singleton e false) rfl hp.version
  rw [hp.processed]
  exact hp.incomplete (by simp [hstate])

include hctx hids hlimit hp hpolicy in
/-- A run in progress can be completed. -/
theorem advance_complete (e : EvidenceRef) (hstate : p.state = .inProgress) :
    ∃ r, advancePropagation py p event affected policy event.affectedDatasetVersionIds .complete [] [e] = .ok r := by
  have hmembers : ∀ v ∈ p.processedDatasetVersionIds, v ∈ event.affectedDatasetVersionIds := fun v hv =>
    ((not_unreconciled.mp hp.reconciled).2 v).mp (Or.inl hv)
  unfold advancePropagation
  refine exists_ok_bind (hp.basis hctx hpolicy) ?_
  refine exists_ok_raiseIf (by simp [hstate]) ?_
  refine exists_ok_raiseIf (by simp [hstate, allowed]) ?_
  simp only [hids, ← hctx.members]
  refine exists_ok_raiseIf (not_not.mpr fun _ h => h) ?_
  refine exists_ok_raiseIf (not_not.mpr hmembers) ?_
  refine exists_ok_raiseIf (by simp) ?_
  have hrec := reconciled_filter fun v (hv : v ∈ event.affectedDatasetVersionIds) => hv
  refine build_progress hctx hids hrec ((length_versions_le fun _ h => h).trans hlimit) (Or.inr ⟨rfl, ?_, hids⟩)
    (refs_singleton e false) rfl hp.version
  simp only [List.filter_eq_nil_iff, decide_eq_true_eq, not_not, imp_self, implies_true]

include hctx hids hlimit hp hpolicy in
/-- A restrictive record can be restarted, with or without its progress. -/
theorem restart_progress (e : EvidenceRef) (hstate : p.state = .failed ∨ p.state = .notEstablished) :
    ∃ r, restartPropagation py p event affected policy [e] = .ok r := by
  have hmembers : ∀ v ∈ p.processedDatasetVersionIds, v ∈ event.affectedDatasetVersionIds := fun v hv =>
    ((not_unreconciled.mp hp.reconciled).2 v).mp (Or.inl hv)
  have hincomplete : p.processedDatasetVersionIds ≠ event.affectedDatasetVersionIds :=
    hp.incomplete fun h => by rcases hstate with h' | h' <;> simp [h] at h'
  unfold restartPropagation
  refine exists_ok_bind (hp.basis hctx hpolicy) ?_
  refine exists_ok_raiseIf (not_not.mpr hstate) ?_
  refine exists_ok_bind (refs_singleton e false) ?_
  rw [← hctx.members]
  obtain ⟨carried, hcarried, hkept⟩ : ∃ carried, (if ¬ (p.state = .notEstablished ∧ p.evidenceRefs = [])
      then p.processedDatasetVersionIds else []) = carried ∧ (carried = p.processedDatasetVersionIds ∨ carried = []) := by
    refine ⟨_, rfl, ?_⟩
    split
    · exact Or.inl rfl
    · exact Or.inr rfl
  simp only [hcarried]
  have hsub : ∀ v ∈ carried, v ∈ event.affectedDatasetVersionIds := by
    rcases hkept with rfl | rfl
    · exact hmembers
    · simp
  refine build_progress hctx hids (reconciled_filter hsub) ((length_versions_le hsub).trans hlimit)
    (Or.inl ⟨rfl, ?_⟩) (refs_singleton e false) (refs_singleton e true) hp.version
  rcases hkept with rfl | rfl
  · rw [hp.processed]
    exact hincomplete
  · intro hnil
    rw [versions_eq_nil.mpr rfl] at hnil
    refine hincomplete ?_
    rw [← hnil, List.eq_nil_iff_forall_not_mem]
    intro v hv
    have := hmembers v hv
    rw [← hnil] at this
    simp at this

end Step

/-! ## Chains -/

/-- A call that builds the next record, with its arguments. -/
inductive PropagationCall where
  | advance (affected : AffectedSet) (policy : DatasetLifecycleResourcePolicy) (processedIds : List DatasetVersionId)
      (nextState : PropagationRecordState) (recordReasons : List String) (evidenceRefs : List EvidenceRef)
  | restart (affected : AffectedSet) (policy : DatasetLifecycleResourcePolicy) (restartEvidenceRefs : List EvidenceRef)

def PropagationCall.isRestart : PropagationCall → Bool
  | .advance .. => false
  | .restart .. => true

def PropagationCall.run (py : Platform) (event : InvalidationEvent) (p : PropagationRecord) :
    PropagationCall → Except LifecycleError PropagationRecord
  | .advance affected policy processedIds nextState recordReasons evidenceRefs =>
    advancePropagation py p event affected policy processedIds nextState recordReasons evidenceRefs
  | .restart affected policy restartEvidenceRefs => restartPropagation py p event affected policy restartEvidenceRefs

/-- The records built for an event, the newest first. -/
inductive Chain (py : Platform) (event : InvalidationEvent) : List PropagationRecord → Prop
  | create {contractVersion : String} {affected : AffectedSet} {evidenceRefs : List EvidenceRef}
      {policy : DatasetLifecycleResourcePolicy} {r : PropagationRecord}
      (h : createPropagationRecord py contractVersion event affected evidenceRefs policy = .ok r) : Chain py event [r]
  | call {p r : PropagationRecord} {rs : List PropagationRecord} (c : PropagationCall) (hp : Chain py event (p :: rs))
      (h : c.run py event p = .ok r) : Chain py event (r :: p :: rs)

/-- What an accepted call says of its record and the record before. -/
structure Follows (p : PropagationRecord) (c : PropagationCall) (r : PropagationRecord) : Prop where
  notComplete : p.state ≠ .complete
  named : r.restartIdentity = some p.propagationRunId
  left : p.state = .failed ∨ p.state = .notEstablished → c.isRestart = true
  kept : c.isRestart = false → ∀ v ∈ p.processedDatasetVersionIds, v ∈ r.processedDatasetVersionIds

theorem run_spec {p r : PropagationRecord} {c : PropagationCall} (h : c.run py event p = .ok r) :
    Checkpoint py event r ∧ Follows p c r ∧ r.resourcePolicyId = p.resourcePolicyId := by
  cases c with
  | advance affected policy processedIds nextState recordReasons evidenceRefs =>
    obtain ⟨hr, hstate, -, hnamed, hkept, hpolicy⟩ := advance_spec h
    refine ⟨hr, ⟨?_, hnamed, ?_, fun _ => hkept⟩, hpolicy⟩
    · rcases hstate with hs | hs <;> simp [hs]
    · rcases hstate with hs | hs <;> simp [hs]
  | restart affected policy restartEvidenceRefs =>
    obtain ⟨hr, hstate, -, hnamed, hpolicy⟩ := restart_spec h
    refine ⟨hr, ⟨?_, hnamed, fun _ => rfl, fun hc => nomatch hc⟩, hpolicy⟩
    rcases hstate with hs | hs <;> simp [hs]

theorem create_spec {contractVersion : String} {evidenceRefs : List EvidenceRef} {r : PropagationRecord}
    (h : createPropagationRecord py contractVersion event affected evidenceRefs policy = .ok r) :
    Checkpoint py event r ∧ r.restartIdentity = none ∧ Context event affected policy ∧
      r.resourcePolicyId = policy.policyId := by
  unfold createPropagationRecord at h
  obtain ⟨⟨⟩, hctx, h⟩ := bind_eq_ok.mp h
  have hctx := validateLifecycleContext_eq_ok.mp hctx
  obtain ⟨hr, -, hnamed, -, hpolicy⟩ := checkpoint_of_build hctx h
  exact ⟨hr, hnamed, hctx, hpolicy⟩

theorem Chain.checkpoint {rs : List PropagationRecord} (h : Chain py event rs) : ∀ r ∈ rs, Checkpoint py event r := by
  induction h with
  | create h =>
    intro r hr
    rw [List.mem_singleton.mp hr]
    exact (create_spec h).1
  | call c _ h ih =>
    intro r hr
    rcases List.mem_cons.mp hr with rfl | hr
    · exact (run_spec h).1
    · exact ih r hr

/-- The newest record of a chain can be followed under a policy of its identity. -/
theorem Chain.context {rs : List PropagationRecord} (h : Chain py event rs) :
    ∀ r ∈ rs.head?, ∀ policy : DatasetLifecycleResourcePolicy, policy.policyId = r.resourcePolicyId →
      ∃ affected, Context event affected policy := by
  induction h with
  | @create _ affected _ _ r h =>
    rintro r ⟨⟩ policy hpolicy
    obtain ⟨-, -, hctx, hr⟩ := create_spec h
    exact ⟨affected, hctx.affectedSet, hctx.graph, hctx.members, hctx.policy.trans (hr.symm.trans hpolicy.symm)⟩
  | call c _ h ih =>
    rintro r ⟨⟩ policy hpolicy
    exact ih _ rfl policy (hpolicy.trans (run_spec h).2.2)

section Complete

variable (hids : versions event.affectedDatasetVersionIds = event.affectedDatasetVersionIds)

include hids

/-- A chain that has started is one call away from completion. -/
theorem exists_complete_of_inProgress {r : PropagationRecord} {rs : List PropagationRecord}
    (h : Chain py event (r :: rs)) (hstate : r.state = .inProgress) (e : EvidenceRef)
    (hpolicy : r.resourcePolicyId = policy.policyId) (hctx : Context event affected policy)
    (hlimit : event.affectedDatasetVersionIds.length ≤ policy.value .maxPropagationEventsPerRun) :
    ∃ last, Chain py event (last :: r :: rs) ∧ last.state = .complete := by
  have hr := h.checkpoint r (List.mem_cons_self ..)
  obtain ⟨last, hlast⟩ := advance_complete hctx hids hlimit hr hpolicy e hstate
  exact ⟨last, h.call (.advance affected policy _ _ _ _) hlast, (advance_spec hlast).2.2.1⟩

/-- Every chain within the limit can be brought to completion. -/
theorem exists_complete {r : PropagationRecord} {rs : List PropagationRecord} (h : Chain py event (r :: rs))
    (hstate : r.state ≠ .complete) (e : EvidenceRef) (hpolicy : policy.policyId = r.resourcePolicyId)
    (hlimit : event.affectedDatasetVersionIds.length ≤ policy.value .maxPropagationEventsPerRun) :
    ∃ last more, Chain py event (last :: (more ++ r :: rs)) ∧ last.state = .complete := by
  have hr := h.checkpoint r (List.mem_cons_self ..)
  obtain ⟨affected, hctx⟩ := h.context r rfl policy hpolicy
  cases hs : r.state with
  | complete => exact absurd hs hstate
  | inProgress =>
    obtain ⟨last, hlast, hdone⟩ := exists_complete_of_inProgress hids h hs e hpolicy.symm hctx hlimit
    exact ⟨last, [], hlast, hdone⟩
  | notStarted =>
    obtain ⟨next, hnext⟩ := advance_start hctx hids hlimit hr hpolicy.symm e hs
    obtain ⟨-, -, hstate', -, -, hpolicy'⟩ := advance_spec hnext
    have hchain := h.call (.advance affected policy _ _ _ _) hnext
    obtain ⟨last, hlast, hdone⟩ := exists_complete_of_inProgress hids hchain hstate' e
      (hpolicy'.trans hpolicy.symm) hctx hlimit
    exact ⟨last, [next], hlast, hdone⟩
  | failed | notEstablished =>
    obtain ⟨next, hnext⟩ := restart_progress hctx hids hlimit hr hpolicy.symm e (by simp [hs])
    obtain ⟨-, -, hstate', -, hpolicy'⟩ := restart_spec hnext
    have hchain := h.call (.restart affected policy _) hnext
    obtain ⟨last, hlast, hdone⟩ := exists_complete_of_inProgress hids hchain hstate' e
      (hpolicy'.trans hpolicy.symm) hctx hlimit
    exact ⟨last, [next], hlast, hdone⟩

end Complete

/-! ## Events and currentness -/

theorem createAffectedSet_versions {contractVersion : String} {assessment : InvalidationAssessment}
    {graph : ProvenanceGraphId} {mappings : List DatasetVersionMapping} {scopeRefs : List EvidenceRef}
    (h : createAffectedSet py contractVersion assessment graph mappings scopeRefs policy = .ok affected) :
    versions affected.datasetVersionIds = affected.datasetVersionIds := by
  simp only [createAffectedSet, raiseIf_bind_eq_ok] at h
  obtain ⟨-, -, -, -, h⟩ := h
  obtain ⟨known, -, h⟩ := bind_eq_ok.mp h
  simp only [raiseIf_bind_eq_ok] at h
  obtain ⟨-, -, -, h⟩ := h
  obtain ⟨mappingRefs, -, h⟩ := bind_eq_ok.mp h
  obtain ⟨scope, -, h⟩ := bind_eq_ok.mp h
  obtain ⟨-, -, h⟩ := bind_eq_ok.mp h
  rw [pure_eq_ok] at h
  subst h
  exact versions_idem

theorem createInvalidationEvent_members {cause : InvalidationCause}
    (h : createInvalidationEvent py cause affected policy = .ok event) :
    event.affectedDatasetVersionIds = affected.datasetVersionIds := by
  unfold createInvalidationEvent at h
  obtain ⟨canonicalReasons, -, h⟩ := bind_eq_ok.mp h
  obtain ⟨evidenceRefs, -, h⟩ := bind_eq_ok.mp h
  obtain ⟨-, -, h⟩ := bind_eq_ok.mp h
  obtain ⟨-, -, h⟩ := bind_eq_ok.mp h
  obtain ⟨trigger, -, h⟩ := bind_eq_ok.mp h
  obtain ⟨-, -, h⟩ := bind_eq_ok.mp h
  rw [pure_eq_ok] at h
  subst h
  rfl

/-- An affected version is current only under a complete record of the whole set. -/
theorem current_spec {dataset : DatasetVersionId} {base : CurrentnessState} {record : Option PropagationRecord}
    {stateReasons : List String} (hdataset : dataset ∈ event.affectedDatasetVersionIds)
    (h : lifecycleCurrentnessState py dataset base (some event) record = .ok (.current, stateReasons)) :
    ∃ r, record = some r ∧ r.state = .complete ∧ r.processedDatasetVersionIds = event.affectedDatasetVersionIds := by
  unfold lifecycleCurrentnessState at h
  obtain ⟨⟨⟩, hvalid, h⟩ := bind_eq_ok.mp h
  rw [pure_eq_ok] at h
  have hcurrent : ∃ r, record = some r ∧ r.state = .complete := by
    cases base with
    | stale => simp [restrictedState] at h
    | unknown => simp [restrictedState] at h
    | current =>
      by_contra hne
      have hall : record.all (fun r => decide (r.state ≠ .complete)) = true := by
        cases record with
        | none => rfl
        | some r => simpa using fun hs => hne ⟨r, rfl, hs⟩
      rw [restrictedState, hall] at h
      simp [hdataset] at h
  obtain ⟨r, rfl, hstate⟩ := hcurrent
  simp only [validateLifecycle, validateApplicablePropagation, raiseIf_bind_eq_ok, raiseIf_eq_ok] at hvalid
  obtain ⟨-, -, -, -, -, hlast⟩ := hvalid
  refine ⟨r, rfl, hstate, ?_⟩
  by_contra hp
  exact hlast ⟨hstate, Or.inl hp⟩

/-- The run of one propagation: the sets of every record, what may follow a record,
that the run can be completed, and when an affected version is current. -/
theorem propagation_run {contractVersion : String} {assessment : InvalidationAssessment}
    {graph : ProvenanceGraphId} {mappings : List DatasetVersionMapping} {scopeRefs : List EvidenceRef}
    {policy policy' : DatasetLifecycleResourcePolicy} {cause : InvalidationCause} {r : PropagationRecord}
    {rs : List PropagationRecord}
    (haffected : createAffectedSet py contractVersion assessment graph mappings scopeRefs policy = .ok affected)
    (hevent : createInvalidationEvent py cause affected policy' = .ok event)
    (hchain : Chain py event (r :: rs)) :
    (∀ q ∈ r :: rs,
      (∀ v ∈ q.processedDatasetVersionIds, v ∉ q.remainingDatasetVersionIds) ∧
      (∀ v, v ∈ q.processedDatasetVersionIds ∨ v ∈ q.remainingDatasetVersionIds ↔ v ∈ affected.datasetVersionIds) ∧
      (q.state = .complete ↔ q.remainingDatasetVersionIds = [])) ∧
    (rs = [] → r.restartIdentity = none) ∧
    (∀ call next, call.run py event r = .ok next → Follows r call next) ∧
    (r.state ≠ .complete → ∀ limits : DatasetLifecycleResourcePolicy, limits.policyId = r.resourcePolicyId →
      affected.datasetVersionIds.length ≤ limits.value .maxPropagationEventsPerRun →
      ∃ last more, Chain py event (last :: (more ++ r :: rs)) ∧ last.state = .complete) ∧
    ∀ dataset ∈ affected.datasetVersionIds, ∀ base record stateReasons,
      lifecycleCurrentnessState py dataset base (some event) record = .ok (.current, stateReasons) →
      ∃ q, record = some q ∧ q.state = .complete ∧ q.processedDatasetVersionIds = affected.datasetVersionIds := by
  have hmembers := createInvalidationEvent_members hevent
  have hids := createAffectedSet_versions haffected
  rw [← hmembers] at hids ⊢
  refine ⟨fun q hq => ?_, ?_, fun call next h => (run_spec h).2.1, fun hstate limits hpolicy hlimit => ?_, ?_⟩
  · have hq := hchain.checkpoint q hq
    obtain ⟨hdisjoint, hunion⟩ := not_unreconciled.mp hq.reconciled
    exact ⟨hdisjoint, hunion, hq.complete_iff hids⟩
  · rintro rfl
    cases hchain with
    | create h => exact (create_spec h).2.1
  · exact exists_complete hids hchain hstate cause.scopeRef hpolicy hlimit
  · intro dataset hdataset base record stateReasons h
    exact current_spec hdataset h

/-! ### A run over one version -/

namespace Sample

/-- SHA-256 of the bodies of the sample, by the lengths of their texts. -/
def hashes : List (Nat × Nat) :=
  [(27, 0xc6bd2d3fca41631642a374abe8f50144be512d60778f99f5c1d7a9ac7b5c6eaf),
   (36, 0xc62794e1ae2c5d2b8a8edff54d469a6e7e304cd2a4bed1d818e90fadd612739b),
   (44, 0x0295f9430b680a6726b9571e06ab5821055a5add5439a191cef8e3967272c4b6),
   (640, 0x98cc042ed7777fbb29cb1434c7bb7545b4816ccc47a738c4f298690bcff9fbbd),
   (991, 0xe5a52ef956ed9b657f3063b82ad2b47af061745f80fec4acbf4df92aaf03ccf6),
   (1399, 0x3b97dc469a3800f7a0391c1f24abb6710a1d347a16908274b62436835f4054a1)]

def platform : Platform where
  isNfc := fun _ => true
  sha256 := fun text => ⟨((hashes.find? fun h => h.1 = text.length).map Prod.snd).getD 0 % 2 ^ 256,
    Nat.mod_lt _ (Nat.two_pow_pos 256)⟩

theorem isIdentity_policy : isIdentity (Text.chars "policy") = true := by decide

theorem limits_pos : ∀ _ : ResourceLimit, 0 < 64 := fun _ => by decide

theorem no_physical_limits : ∀ limits ∈ (none : Option (PhysicalResourceLimit → Nat)), ∀ name, 0 < limits name := by
  simp

def limits : DatasetLifecycleResourcePolicy where
  policyId := ⟨"policy", isIdentity_policy⟩
  value := fun _ => 64
  physical := none
  positive := limits_pos
  physicalPositive := no_physical_limits

def evidenceRef : EvidenceRef :=
  ⟨"source:atis/s", "dataset:atis/d", "evidence:atis/e", ⟨"sha256:" ++ String.ofList (List.replicate 64 '0')⟩⟩

def mapping : DatasetVersionMapping :=
  ⟨⟨"mapping", by decide⟩, "v1", ⟨"node", by decide⟩, ⟨"version", by decide⟩, [evidenceRef]⟩

def assessment : InvalidationAssessment :=
  ⟨[⟨"trigger", by decide⟩], ⟨"graph", by decide⟩, ⟨"policy", isIdentity_policy⟩, [⟨"node", by decide⟩], true⟩

def cause : InvalidationCause where
  contractVersion := "v1"
  triggerKind := "CORRECTION"
  predecessorEvidenceRef := evidenceRef
  successorOrCorrectionRef := evidenceRef
  knowledgeFrom := ⟨⟨2024, 1, 2, 0, 0, 0, 0, by decide⟩⟩
  effectiveFrom := none
  dependencyGraphRef := evidenceRef
  scopeRef := evidenceRef
  reasons := ["CORRECTION"]
  evidenceRefs := [evidenceRef]

/-- The run up to its first record. -/
def records : Except LifecycleError (AffectedSet × InvalidationEvent × PropagationRecord) := do
  let affected ← createAffectedSet platform "v1" assessment ⟨"graph", by decide⟩ [mapping] [evidenceRef] limits
  let event ← createInvalidationEvent platform cause affected limits
  let first ← createPropagationRecord platform "v1" event affected [evidenceRef] limits
  return (affected, event, first)

end Sample

theorem propagation_run_sample : ∃ affected event first,
    createAffectedSet Sample.platform "v1" Sample.assessment ⟨"graph", by decide⟩ [Sample.mapping] [Sample.evidenceRef]
      Sample.limits = .ok affected ∧
    createInvalidationEvent Sample.platform Sample.cause affected Sample.limits = .ok event ∧
    Chain Sample.platform event [first] ∧ first.state = .notStarted ∧
    ∃ last more, Chain Sample.platform event (last :: (more ++ [first])) ∧ last.state = .complete := by
  have hrun : (Sample.records.toOption.map fun x => (x.1.datasetVersionIds.length, x.2.2.state, x.2.2.resourcePolicyId)) =
      some (1, .notStarted, Sample.limits.policyId) := by decide +kernel
  obtain ⟨⟨affected, event, first⟩, hrecords, hvalues⟩ := Option.map_eq_some_iff.mp hrun
  simp only [Prod.mk.injEq] at hvalues
  obtain ⟨hlength, hstate, hpolicy⟩ := hvalues
  have hrecords := ok_of_toOption hrecords
  unfold Sample.records at hrecords
  obtain ⟨affected', haffected, hrecords⟩ := bind_eq_ok.mp hrecords
  obtain ⟨event', hevent, hrecords⟩ := bind_eq_ok.mp hrecords
  obtain ⟨first', hfirst, hrecords⟩ := bind_eq_ok.mp hrecords
  rw [pure_eq_ok] at hrecords
  cases hrecords
  have hchain := Chain.create hfirst
  obtain ⟨-, -, -, hcomplete, -⟩ := propagation_run haffected hevent hchain
  refine ⟨affected, event, first, haffected, hevent, hchain, hstate, ?_⟩
  exact hcomplete (by simp [hstate]) Sample.limits hpolicy.symm (by rw [hlength]; decide)

end ATB.Proof.Lifecycle
