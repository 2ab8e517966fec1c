import AutomatedTradingBot.Framework.Refusal
import AutomatedTradingBot.Proof.Evidence
import AutomatedTradingBot.Source.MarketData.Eligibility

/-!
# The evidence of a decision

A decision binds references, and resolved evidence gives the bytes of some of them.

* `c06Resolved_eq_ok`, `verifyEvidence_eq_ok`: each entry is exact, and the key of each
  reference is that of an entry; the digests of the two are not compared;
* `decideQuarantine_eq_ok`, `decideEligibility_eq_ok`, `releaseQuarantine_eq_ok`: what a
  decision binds is what it was given;
* `content_exact_iff`: so the bytes of what it binds were resolved when the digest of each
  reference is one that the entries declare.
-/

namespace ATB.Proof.MarketData

open ATB.MarketData Instruments
open Datasets (canonicalizeEvidenceRefs)

theorem mem_c06Refs {given refs : List EvidenceRef} (h : c06Refs given = .ok refs) (e : EvidenceRef) :
    e ∈ refs ↔ e ∈ given := by
  simp only [c06Refs, bind_eq_ok, raiseIf_eq_ok, exists_const, mapError_eq_ok] at h
  exact Evidence.mem_canonicalize h.2.2 e

section Hashes

variable {hashes : Hashes}

/-! ## Resolved evidence -/

/-- The bytes have the digest of the entry's own reference. -/
def Exact (hashes : Hashes) (item : ResolvedC06Evidence) : Prop := fromBytes hashes item.content = item.ref.contentDigest

/-- Bytes with the digest of the reference were resolved. -/
def HasContent (hashes : Hashes) (resolved : List ResolvedC06Evidence) (ref : EvidenceRef) : Prop :=
  ∃ item ∈ resolved, fromBytes hashes item.content = ref.contentDigest

/-- The digest of the reference is one that the entries declare. -/
def Declared (resolved : List ResolvedC06Evidence) (ref : EvidenceRef) : Prop :=
  ∃ item ∈ resolved, item.ref.contentDigest = ref.contentDigest

/-- What `_resolved` accepts, and what it finds under a key. -/
theorem c06Resolved_eq_ok {values : List ResolvedC06Evidence} {index : List (EvidenceKey × List UInt8)}
    (h : c06Resolved hashes values = .ok index) :
    (∀ item ∈ values, Exact hashes item) ∧
      ∀ k content, Dict.get? k index = some content ↔ ∃ item ∈ values, item.ref.key = k ∧ item.content = content := by
  constructor
  · intro item hmem
    obtain ⟨taken, taken', hstep⟩ := foldlM_taken h hmem
    simp only [bind_eq_ok, raiseIf_eq_ok, exists_const, pure_eq_ok, not_not, ne_eq] at hstep
    exact hstep.2.1
  · intro k content
    rw [Dict.get?_foldlM_set (fun item : ResolvedC06Evidence => item.ref.key) ResolvedC06Evidence.content (fun _ => True)
      (fun index item index' hstep _ => ?_) h trivial]
    · simp [Dict.get?]
    · simp only [bind_eq_ok, raiseIf_eq_ok, exists_const, pure_eq_ok, not_not, ne_eq] at hstep
      obtain ⟨hfresh, -, rfl⟩ := hstep
      exact ⟨.inl hfresh, rfl, trivial⟩

theorem verifyEvidence_eq_ok {given : List EvidenceRef} {resolved : List ResolvedC06Evidence} {u : Unit}
    (h : verifyEvidence hashes given resolved = .ok u) :
    (∀ item ∈ resolved, Exact hashes item) ∧ ∀ ref ∈ given, ∃ item ∈ resolved, item.ref.key = ref.key := by
  simp only [verifyEvidence, bind_eq_ok, forM_eq_ok, raiseIf_eq_ok] at h
  obtain ⟨index, hindex, refs, hrefs, hall⟩ := h
  obtain ⟨hexact, hget⟩ := c06Resolved_eq_ok hindex
  refine ⟨hexact, fun ref hmem => ?_⟩
  obtain ⟨content, hcontent⟩ := Option.ne_none_iff_exists'.mp (hall ref ((mem_c06Refs hrefs ref).mpr hmem))
  obtain ⟨item, hitem, hkey, -⟩ := (hget _ _).mp hcontent
  exact ⟨item, hitem, hkey⟩

theorem hasContent_iff {resolved : List ResolvedC06Evidence} (h : ∀ item ∈ resolved, Exact hashes item)
    (ref : EvidenceRef) : HasContent hashes resolved ref ↔ Declared resolved ref := by
  refine exists_congr fun item => and_congr_right fun hmem => ?_
  rw [h item hmem]

/-- What an accepted decision says of the evidence given, of that resolved and of that bound. -/
structure Verified (hashes : Hashes) (given bound : List EvidenceRef) (resolved : List ResolvedC06Evidence) : Prop where
  exact : ∀ item ∈ resolved, Exact hashes item
  keyed : ∀ ref ∈ given, ∃ item ∈ resolved, item.ref.key = ref.key
  kept : ∀ ref, ref ∈ bound ↔ ref ∈ given

theorem Verified.hasContent_iff {given bound : List EvidenceRef} {resolved : List ResolvedC06Evidence}
    (h : Verified hashes given bound resolved) :
    (∀ ref ∈ bound, HasContent hashes resolved ref) ↔ ∀ ref ∈ given, Declared resolved ref := by
  simp only [h.kept, MarketData.hasContent_iff h.exact]

/-! ## What a decision binds -/

def quarantineBinds (d : QuarantineDecision) : List EvidenceRef := d.quarantinePolicyRef :: d.evidenceRefs

def eligibilityBinds (d : EligibilityDecision) : List EvidenceRef :=
  [d.claimContractRef, d.eligibilityPolicyRef] ++ d.externalCurrentnessRef.toList ++ d.prerequisiteEvidenceRefs ++
    d.evidenceRefs

def releaseBinds (d : ReleaseDecision) : List EvidenceRef :=
  [d.releaseAuthorityAssertionRef, d.releaseAuthorityAdmissionPolicyRef, d.releaseBasisRef] ++ d.evidenceRefs

/-- The references that each function is given. -/
def quarantineGiven (subject : QuarantineSubject) (policy : QuarantinePolicy) (evidenceRefs : List EvidenceRef) :
    List EvidenceRef := evidenceRefs ++ [policy.policyRef, subject.subjectRef]

def eligibilityGiven (policy : EligibilityPolicy) (prerequisiteEvidenceRefs : List EvidenceRef)
    (externalCurrentnessRef : Option EvidenceRef) : List EvidenceRef :=
  prerequisiteEvidenceRefs ++ [policy.policyRef, policy.claimContractRef] ++ externalCurrentnessRef.toList

def releaseGiven (assertion : ReleaseAuthorityAssertion) (admissionPolicy : ReleaseAuthorityAdmissionPolicy) :
    List EvidenceRef := [assertion.assertionRef, assertion.assertedReleaseBasisRef, admissionPolicy.policyRef]

theorem decideQuarantine_verified {subject : QuarantineSubject} {c05Result : ProductionQualityResult}
    {policy : QuarantinePolicy} {knowledgeFrom : Timestamp} {evidenceRefs : List EvidenceRef}
    {resolved : List ResolvedC06Evidence} {effectiveFrom : Option Timestamp} {d : QuarantineDecision}
    (h : decideQuarantine hashes subject c05Result policy knowledgeFrom evidenceRefs resolved effectiveFrom = .ok d) :
    Verified hashes (quarantineGiven subject policy evidenceRefs) (quarantineBinds d) resolved := by
  simp only [decideQuarantine, bind_eq_ok, raiseIf_eq_ok, exists_const, pure_eq_ok] at h
  obtain ⟨-, -, refs, hrefs, u, hverify, -, refs', hrefs', rfl⟩ := h
  obtain ⟨hexact, hkeyed⟩ := verifyEvidence_eq_ok hverify
  have hkept : ∀ ref, ref ∈ refs' ↔ ref ∈ quarantineGiven subject policy evidenceRefs := fun ref =>
    (mem_c06Refs hrefs' ref).trans (mem_c06Refs hrefs ref)
  refine ⟨hexact, fun ref hmem => hkeyed ref ((mem_c06Refs hrefs ref).mpr hmem), fun ref => ?_⟩
  rw [quarantineBinds, List.mem_cons, hkept]
  constructor
  · rintro (rfl | hmem)
    · simp [quarantineGiven]
    · exact hmem
  · exact .inr

theorem decideEligibility_verified {subject : QuarantineSubject} {quarantine : QuarantineDecision}
    {c05Result : ProductionQualityResult} {policy : EligibilityPolicy} {knowledgeFrom : Timestamp}
    {prerequisites : List EvidenceRef} {resolved : List ResolvedC06Evidence} {currentness : Option EvidenceRef}
    {effectiveFrom : Option Timestamp} {d : EligibilityDecision}
    (h : decideEligibility hashes subject quarantine c05Result policy knowledgeFrom prerequisites resolved currentness
      effectiveFrom = .ok d) :
    Verified hashes (eligibilityGiven policy prerequisites currentness) (eligibilityBinds d) resolved := by
  simp only [decideEligibility, bind_eq_ok, raiseIf_eq_ok, exists_const, pure_eq_ok] at h
  obtain ⟨-, -, -, refs, hrefs, u, hverify, ps, hps, ps', hps', refs', hrefs', rfl⟩ := h
  obtain ⟨hexact, hkeyed⟩ := verifyEvidence_eq_ok hverify
  have hkept : ∀ ref, ref ∈ refs' ↔ ref ∈ eligibilityGiven policy prerequisites currentness := fun ref =>
    (mem_c06Refs hrefs' ref).trans (mem_c06Refs hrefs ref)
  have hprerequisites : ∀ ref, ref ∈ ps' ↔ ref ∈ prerequisites := fun ref =>
    (mem_c06Refs hps' ref).trans (mem_c06Refs hps ref)
  refine ⟨hexact, fun ref hmem => hkeyed ref ((mem_c06Refs hrefs ref).mpr hmem), fun ref => ?_⟩
  -- the policies, the currentness and the prerequisites are among the references given
  simp only [eligibilityBinds, List.mem_append, List.mem_cons, List.not_mem_nil, or_false, hkept, hprerequisites]
  simp only [eligibilityGiven, List.mem_append, List.mem_cons, List.not_mem_nil, or_false]
  tauto

theorem releaseQuarantine_verified {predecessor : QuarantineDecision} {subject : QuarantineSubject}
    {assertion : ReleaseAuthorityAssertion} {admissionPolicy : ReleaseAuthorityAdmissionPolicy}
    {knowledgeFrom : Timestamp} {resolved : List ResolvedC06Evidence} {existing : List ReleaseDecision}
    {effectiveFrom : Option Timestamp} {d : ReleaseDecision}
    (h : releaseQuarantine hashes predecessor subject assertion admissionPolicy knowledgeFrom resolved existing
      effectiveFrom = .ok d) :
    Verified hashes (releaseGiven assertion admissionPolicy) (releaseBinds d) resolved := by
  simp only [releaseQuarantine, bind_eq_ok, raiseIf_eq_ok, exists_const, pure_eq_ok] at h
  obtain ⟨u, -, -, -, -, refs, hrefs, u', hverify, refs', hrefs', rfl⟩ := h
  obtain ⟨hexact, hkeyed⟩ := verifyEvidence_eq_ok hverify
  have hkept : ∀ ref, ref ∈ refs' ↔ ref ∈ releaseGiven assertion admissionPolicy := fun ref =>
    (mem_c06Refs hrefs' ref).trans (mem_c06Refs hrefs ref)
  refine ⟨hexact, fun ref hmem => hkeyed ref ((mem_c06Refs hrefs ref).mpr hmem), fun ref => ?_⟩
  simp only [releaseBinds, List.mem_append, List.mem_cons, List.not_mem_nil, or_false, hkept]
  simp only [releaseGiven, List.mem_cons, List.not_mem_nil, or_false]
  tauto

end Hashes

namespace Sample

theorem instant_real (second : Nat) : RealTime 2026 1 1 0 0 (second % 60) 0 :=
  ⟨by decide, by decide, by decide, by decide, by decide, Nat.mod_lt _ (by decide), by decide⟩

def instant (second : Nat) : Timestamp := ⟨⟨2026, 1, 1, 0, 0, second % 60, 0, instant_real second⟩⟩

/-- SHA-256 of the texts of the sample, by their lengths. -/
def digests : List (Nat × Nat) :=
  [(674, 0xf309ab054e9d7daf36311e9bf6536012dd04efadd1376294514389a73af2d177),
   (615, 0x739aa7b34bd69f361aad422719803969ab2caae55ddd652496662b6ebe6c912c),
   (916, 0x8e85c5bd53fb7bfbde5c03ee183b40e788adef0b41be00ed2296626c94aef79e)]

def hash (n : Nat) : Fin (2 ^ 256) := ⟨n % 2 ^ 256, Nat.mod_lt _ (Nat.two_pow_pos 256)⟩

/-- SHA-256 of the texts, and of no bytes and of `b"a"`. -/
def hashes : Hashes where
  py := ⟨fun _ => true, fun text => hash (((digests.find? fun d => d.1 = text.length).map Prod.snd).getD 0)⟩
  sha256Bytes content := hash (if content = [] then 0xe3b0c44298fc1c149afbf4c8996fb92427ae41e4649b934ca495991b7852b855
    else 0xca978112ca1bbdcafac231b39a23dc4da786eff8147c4e72b9807785afee48bb)

/-- The reference of the bytes `b"a"`. -/
def evidence : EvidenceRef := ⟨"source:atis/c06", "dataset:atis/c06", "evidence:atis/c06", fromBytes hashes [97]⟩

def admission : EvidenceRef := { evidence with evidenceId := "evidence:atis/admission" }

/-- Other bytes, under the key of the reference. -/
def substitute : ResolvedC06Evidence := ⟨{ evidence with contentDigest := fromBytes hashes [] }, []⟩

def result : ProductionQualityResult :=
  ⟨[evidence.contentDigest], .complete, .consistent, [(evidence.contentDigest, .withinPolicy)], [],
    ["APPROVED_POLICY_EVALUATED", "AUTHORITATIVE_ORDER_EVALUATED", "AUTHORITATIVE_SEQUENCE_EVALUATED"], [evidence], .valid⟩

def subject : QuarantineSubject := ⟨evidence, c05QualityResultDigest hashes result, [evidence], [evidence], rfl⟩

def policy : QuarantinePolicy :=
  ⟨"c06-policy:atis/quarantine", evidence, ⟨"ATIS_C06_QUARANTINE_DECISION", 1, by decide, by decide⟩, false, by decide⟩

def claim : ClaimId := ⟨"c06-claim:atis/use", by decide⟩

def eligibilityPolicy : EligibilityPolicy :=
  ⟨⟨"c06-policy:atis/eligibility", by decide⟩, evidence, claim, ⟨"ATIS_CLAIM", 1, by decide, by decide⟩, evidence, false, false⟩

/-- A decision about the subject, known from the start. -/
def quarantine (disposition : QuarantineDisposition) (reason : String) : QuarantineDecision :=
  ⟨subject.subjectId hashes, subject.c05QualityResultDigest, policy.policyId, evidence, instant 0, none, disposition,
    [reason], [evidence]⟩

def released : QuarantineDecision := quarantine .quarantined "C05_RESTRICTIVE_RESULT"

def authority : ReleaseAuthorityId := ⟨"c06-authority:atis/desk", by decide⟩

def assertion : ReleaseAuthorityAssertion where
  assertionRef := evidence
  authorityId := authority
  predecessorQuarantineDecisionId := released.decisionId hashes
  quarantineSubjectId := subject.subjectId hashes
  authorizedClaimScope := [claim]
  assertedReleaseBasisRef := evidence
  knowledgeFrom := instant 0
  effectiveFrom := none
  admissionPolicyId := ⟨"c06-policy:atis/release", by decide⟩
  distinct := List.nodup_singleton _

def admissionPolicy : ReleaseAuthorityAdmissionPolicy where
  policyId := ⟨"c06-policy:atis/release", by decide⟩
  policyRef := admission
  admittedAuthorityIds := [authority]
  admittedAssertionVersions := [⟨"ATIS_C06_RELEASE_AUTHORITY_ASSERTION", 1, by decide, by decide⟩]
  admittedClaimScope := [claim]
  knowledgeFrom := instant 0
  expiresAt := none
  establishesEffectiveTime := false
  explicit := by simp
  distinct := by simp
  interval := by simp

def resolved : List ResolvedC06Evidence := [⟨evidence, [97]⟩, ⟨admission, [97]⟩]

theorem quarantined_isSome :
    (decideQuarantine hashes subject result policy (instant 0) [evidence] resolved none).toOption.isSome = true := by
  decide +kernel

theorem substituted_isSome :
    (decideQuarantine hashes subject result policy (instant 0) [evidence] [substitute] none).toOption.isSome = true := by
  decide +kernel

theorem eligible_isSome :
    (decideEligibility hashes subject (quarantine .notQuarantined "C05_VALID_EXACTLY_BOUND") result eligibilityPolicy
      (instant 0) [evidence] resolved none none).toOption.isSome = true := by
  decide +kernel

theorem released_isSome :
    (releaseQuarantine hashes released subject assertion admissionPolicy (instant 1) resolved [] none).toOption.isSome =
      true := by
  decide +kernel

end Sample

end ATB.Proof.MarketData
