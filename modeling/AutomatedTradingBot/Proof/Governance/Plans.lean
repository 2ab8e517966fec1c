import AutomatedTradingBot.Proof.Governance.Codec

/-!
# Plan records are exact

* `constructed_of_built`: what `create` and `expand` return went through the constructor;
* `readsBack_of_constructed`: the text of a plan's body reads back as the plan;
* `eq_canonicalBody`: a body that reads as a plan is the canonical body of the plan;
* `eq_of_planDigest`: the digest tells plans apart.
-/

namespace ATB.Proof.Governance

open ATB.Governance Json StateCodec

section Records

variable {py : Platform} {plan : FrozenResearchPlan}

/-! ## What is built -/

/-- The plans of `create` and of any chain of `expand`. -/
inductive Built (py : Platform) : FrozenResearchPlan → Prop where
  | create {plan : FrozenResearchPlan} (hypothesis : Hypothesis) (experiment : Experiment) (configurationDigest : String)
      (parameterDomain : List String) (objective datasetId datasetVersion : String) (partitionRole : PartitionRole)
      (maximumAdmittedTrials : Nat) (ownerApprovalReference policyIdentity : String)
      (h : FrozenResearchPlan.create py hypothesis experiment configurationDigest parameterDomain objective datasetId
        datasetVersion partitionRole maximumAdmittedTrials ownerApprovalReference policyIdentity = .ok plan) :
      Built py plan
  | expand {predecessor plan : FrozenResearchPlan} (maximumAdmittedTrials : Nat)
      (ownerApprovalReference policyIdentity : String) (built : Built py predecessor)
      (h : predecessor.expand py maximumAdmittedTrials ownerApprovalReference policyIdentity = .ok plan) :
      Built py plan

theorem constructed_of_built (h : Built py plan) : plan.Constructed py := by
  cases h with
  | create _ _ _ _ _ _ _ _ _ _ _ h =>
    simp only [FrozenResearchPlan.create, bind_eq_ok, raiseIf_eq_ok, exists_const, pure_eq_ok] at h
    obtain ⟨-, ⟨⟩, -, -, ⟨⟩, -, -, ⟨⟩, -, ⟨⟩, -, ⟨⟩, -, -, ⟨⟩, -, ⟨⟩, -, _, -, ⟨⟩, hpost, rfl⟩ := h
    exact hpost
  | expand _ _ _ _ h =>
    simp only [FrozenResearchPlan.expand, bind_eq_ok, raiseIf_eq_ok, exists_const, pure_eq_ok] at h
    obtain ⟨-, ⟨⟩, -, ⟨⟩, -, -, _, -, ⟨⟩, hpost, rfl⟩ := h
    exact hpost

/-! ## Reading back -/

/-- The digest of a constructed plan is the hash of its body. -/
theorem digest_of_constructed (h : plan.Constructed py) :
    py.digest "ATIS-S4-08-FROZEN-PLAN-V1" plan.canonicalBody = .ok plan.planDigest := by
  have hpost : plan.postInit py = .ok () := h
  obtain ⟨-, -, -, -, -, -, -, -, -, -, -, -, -, -, hd⟩ := postInit_eq_ok.mp hpost
  exact planDigest_eq_ok.mp hd

theorem readsBack_of_constructed (h : plan.Constructed py) :
    ∃ text body, py.canonicalJson plan.canonicalBody = .ok text ∧ loads text = some body ∧
      FrozenResearchPlan.fromCanonicalBody py body = .ok plan := by
  have hdigest := digest_of_constructed h
  rw [Platform.digest] at hdigest
  obtain ⟨text, hcanonical, -⟩ := bind_eq_ok.mp hdigest
  exact ⟨text, _, hcanonical, loads_canonicalJson sorted_plan hcanonical, fromCanonicalBody_plan h⟩

/-! ## The body of what is read -/

theorem text_eq_some {j : Json} {s : String} (h : text? j = some s) : j = .str s := by
  cases j <;> cases h
  rfl

theorem natural_eq_some {j : Json} {n : Nat} (h : natural? j = some n) : j = .int n := by
  cases j <;> simp only [natural?, Option.ite_none_right_eq_some, Option.some.injEq, reduceCtorEq] at h
  obtain ⟨hn, rfl⟩ := h
  rw [Int.toNat_of_nonneg hn]

theorem optionalText_eq_some {j : Json} {o : Option String} (h : optionalText? j = some o) : j = ofOption .str o := by
  cases j <;> cases h <;> rfl

theorem texts_eq_some {j : Json} {l : List String} (h : texts? j = some l) : j = .arr (l.map .str) := by
  cases j <;> simp only [texts?, reduceCtorEq] at h
  rename_i items
  congr 1
  induction items generalizing l with
  | nil => cases h; rfl
  | cons j items ih =>
    rw [List.mapM_cons] at h
    obtain ⟨s, hs, h⟩ := Option.bind_eq_some_iff.mp h
    obtain ⟨l', hl, ⟨⟩⟩ := Option.bind_eq_some_iff.mp h
    rw [text_eq_some hs, ih hl]
    rfl

theorem partitionOf_eq_some {s : String} {p : PartitionRole} (h : partitionOf? s = some p) : s = p.value := by
  rw [partitionOf?] at h
  have hvalue := List.find?_some h
  exact (of_decide_eq_true hvalue).symm

theorem value_of_make {kind : ResearchIdKind} {s : String} {i : ResearchId kind}
    (h : (ResearchId.make s : Outcome (ResearchId kind)).toOption = some i) : i.value = s := by
  rw [ResearchId.make] at h
  split at h <;> cases h
  rfl

/-- An object has the keys that it was checked for, and no others. -/
theorem get?_of_hasKeys {expected : List String} {fs : List (String × Json)} (h : hasKeys expected fs = true) (k : String) :
    get? k (.dict fs) = if k ∈ expected then some (member k (.dict fs)) else none := by
  simp only [hasKeys, Bool.and_eq_true, List.all_eq_true, List.any_eq_true, beq_iff_eq, decide_eq_true_eq] at h
  obtain ⟨hall, honly⟩ := h
  split
  · rename_i hk
    obtain ⟨f, hf, rfl⟩ := hall k hk
    have hsome : (get? f.1 (.dict fs)).isSome = true := by
      rw [get?, find?, Option.isSome_map, List.find?_isSome]
      exact ⟨f, hf, decide_eq_true rfl⟩
    obtain ⟨j, hj⟩ := Option.isSome_iff_exists.mp hsome
    rw [member, hj, Option.getD_some]
  · rename_i hk
    have hnone : ∀ f ∈ fs, ¬ (decide (f.1 = k) = true) := fun f hf e => hk (of_decide_eq_true e ▸ honly f hf)
    rw [get?, find?, List.find?_eq_none.mpr hnone, Option.map_none]

/-- The values of a body are those of the plan that they read as. -/
theorem member_of_ofBody {body : Json} (h : FrozenResearchPlan.ofBody? body = some plan) :
    ∀ f ∈ planItems plan, member f.1 body = f.2 := by
  unfold FrozenResearchPlan.ofBody? at h
  obtain ⟨_, hh, h⟩ := Option.bind_eq_some_iff.mp h
  obtain ⟨_, hh', h⟩ := Option.bind_eq_some_iff.mp h
  obtain ⟨_, hp, h⟩ := Option.bind_eq_some_iff.mp h
  obtain ⟨_, hp', h⟩ := Option.bind_eq_some_iff.mp h
  obtain ⟨_, hproposition, h⟩ := Option.bind_eq_some_iff.mp h
  obtain ⟨_, he, h⟩ := Option.bind_eq_some_iff.mp h
  obtain ⟨_, he', h⟩ := Option.bind_eq_some_iff.mp h
  obtain ⟨_, hconfiguration, h⟩ := Option.bind_eq_some_iff.mp h
  obtain ⟨_, hversion, h⟩ := Option.bind_eq_some_iff.mp h
  obtain ⟨_, hpurpose, h⟩ := Option.bind_eq_some_iff.mp h
  obtain ⟨_, hdomain, h⟩ := Option.bind_eq_some_iff.mp h
  obtain ⟨_, hobjective, h⟩ := Option.bind_eq_some_iff.mp h
  obtain ⟨_, hdataset, h⟩ := Option.bind_eq_some_iff.mp h
  obtain ⟨_, hdatasetVersion, h⟩ := Option.bind_eq_some_iff.mp h
  obtain ⟨_, hrole, h⟩ := Option.bind_eq_some_iff.mp h
  obtain ⟨_, hrole', h⟩ := Option.bind_eq_some_iff.mp h
  obtain ⟨_, htrials, h⟩ := Option.bind_eq_some_iff.mp h
  obtain ⟨_, happroval, h⟩ := Option.bind_eq_some_iff.mp h
  obtain ⟨_, hpolicy, h⟩ := Option.bind_eq_some_iff.mp h
  obtain ⟨_, hpredecessor, h⟩ := Option.bind_eq_some_iff.mp h
  obtain rfl := Option.some.inj h
  have hhypothesis := (text_eq_some hh).trans (congrArg Json.str (value_of_make hh').symm)
  have hproject := (text_eq_some hp).trans (congrArg Json.str (value_of_make hp').symm)
  have hexperiment := (text_eq_some he).trans (congrArg Json.str (value_of_make he').symm)
  have hpartition := (text_eq_some hrole).trans (congrArg Json.str (partitionOf_eq_some hrole'))
  simp only [planItems, List.forall_mem_cons, List.not_mem_nil, false_imp_iff, implies_true, and_true]
  exact ⟨text_eq_some hconfiguration, text_eq_some hdataset, text_eq_some hdatasetVersion, hexperiment,
    text_eq_some hpurpose, text_eq_some hversion, hhypothesis, hproject, text_eq_some hproposition,
    natural_eq_some htrials, text_eq_some hobjective, text_eq_some happroval, texts_eq_some hdomain, hpartition,
    text_eq_some hpolicy, optionalText_eq_some hpredecessor⟩

/-- A body that reads as a plan is the canonical body of the plan. -/
theorem eq_canonicalBody {body : Json} (hs : Sorted body) (h : FrozenResearchPlan.fromCanonicalBody py body = .ok plan) :
    body = plan.canonicalBody := by
  simp only [FrozenResearchPlan.fromCanonicalBody, bind_eq_ok, orRaise_eq_ok, raiseIf_eq_ok, mapError_eq_ok,
    exists_const, pure_eq_ok] at h
  obtain ⟨names, hnames, hkeys, read, hread, digest, -, ⟨⟩, -, rfl⟩ := h
  have hvalues : ∀ f ∈ planItems read, member f.1 body = f.2 := member_of_ofBody hread
  cases body <;> cases hnames
  rw [show ({ read with planDigest := digest } : FrozenResearchPlan).canonicalBody = obj (planItems read) from rfl]
  refine dict_ext hs sorted_plan fun k => ?_
  change get? k (.dict names) = get? k (obj (planItems read))
  rw [get?_of_hasKeys (by simpa using hkeys)]
  split
  · rename_i hk
    obtain ⟨f, hf, rfl⟩ := List.mem_map.mp ((@planItems_keys read).symm ▸ hk)
    rw [hvalues f hf, get?_obj nodup_planItems hf]
  · rename_i hk
    rw [get?_obj_eq_none (by rwa [planItems_keys])]

/-! ## The digest -/

/-- The text whose hash is a plan's digest. -/
def frozenText (plan : FrozenResearchPlan) : List Char := hashedText "ATIS-S4-08-FROZEN-PLAN-V1" plan.canonicalBody

/-- Plans whose texts do not collide are told by their digests. -/
theorem eq_of_planDigest {p q : FrozenResearchPlan} (hp : p.Constructed py) (hq : q.Constructed py)
    (hfree : py.sha256 (frozenText p) = py.sha256 (frozenText q) → frozenText p = frozenText q)
    (h : p.planDigest = q.planDigest) : p = q := by
  have hbody : p.canonicalBody = q.canonicalBody :=
    body_eq_of_digest sorted_plan sorted_plan hfree (digest_of_constructed hp) (h ▸ digest_of_constructed hq)
  have hread := fromCanonicalBody_plan hp
  rw [hbody, fromCanonicalBody_plan hq] at hread
  exact (Except.ok.inj hread).symm

end Records

/-- Every plan that is built reads back from the text of its body; a body that reads as a plan
is the plan's; and the digest tells plans apart. -/
theorem plan_records_exact (py : Platform) :
    (∀ plan, Built py plan → ∃ text body, py.canonicalJson plan.canonicalBody = .ok text ∧ loads text = some body ∧
      FrozenResearchPlan.fromCanonicalBody py body = .ok plan) ∧
    (∀ body plan, Sorted body → FrozenResearchPlan.fromCanonicalBody py body = .ok plan → body = plan.canonicalBody) ∧
    ∀ p q : FrozenResearchPlan, p.Constructed py → q.Constructed py →
      (py.sha256 (frozenText p) = py.sha256 (frozenText q) → frozenText p = frozenText q) →
      p.planDigest = q.planDigest → p = q :=
  ⟨fun _ h => readsBack_of_constructed (constructed_of_built h), fun _ _ hs h => eq_canonicalBody hs h,
    fun _ _ hp hq hfree h => eq_of_planDigest hp hq hfree h⟩

namespace Sample

/-- The digest that the sample hashes everything to. -/
def zeros : String := "sha256:0000000000000000000000000000000000000000000000000000000000000000"

theorem digest_pos : 0 < 2 ^ 256 := Nat.two_pow_pos 256

def platform : Platform := ⟨fun _ => true, fun _ => ⟨0, digest_pos⟩⟩

theorem isResearchIds : isResearchId ("atis:research:project:v1:" ++ zeros) = true ∧
    isResearchId ("atis:research:hypothesis:v1:" ++ zeros) = true ∧
    isResearchId ("atis:research:experiment:v1:" ++ zeros) = true :=
  ⟨by decide +kernel, by decide +kernel, by decide +kernel⟩

def projectId : ResearchProjectId := ⟨"atis:research:project:v1:" ++ zeros, isResearchIds.1⟩
def hypothesisId : HypothesisId := ⟨"atis:research:hypothesis:v1:" ++ zeros, isResearchIds.2.1⟩
def experimentId : ExperimentId := ⟨"atis:research:experiment:v1:" ++ zeros, isResearchIds.2.2⟩

def hypothesis : Hypothesis := ⟨hypothesisId, projectId, "p"⟩
def experiment : Experiment := ⟨experimentId, hypothesisId, zeros, "v", "w"⟩

/-- A plan over the protected holdout. -/
def plan : FrozenResearchPlan where
  hypothesis := hypothesis
  experiment := experiment
  configurationDigest := zeros
  parameterDomain := ["d", "e"]
  objective := "o"
  datasetId := "dataset"
  datasetVersion := "1"
  partitionRole := .protectedHoldout
  maximumAdmittedTrials := 1
  ownerApprovalReference := "approval"
  policyIdentity := "policy"
  predecessorPlanDigest := none
  planDigest := zeros

/-- The plan with a larger budget. -/
def expanded : FrozenResearchPlan :=
  { plan with
    maximumAdmittedTrials := 2
    ownerApprovalReference := "approval-2"
    policyIdentity := "policy-2"
    predecessorPlanDigest := some zeros }

/-- The body of the plan, with its items in another order. -/
def body : Json :=
  .obj [("predecessor_plan_digest", .str zeros), ("policy_identity", .str "policy-2"),
    ("partition", .str "PROTECTED_HOLDOUT"), ("parameter_domain", .arr [.str "d", .str "e"]),
    ("owner_approval_reference", .str "approval-2"), ("objective", .str "o"), ("maximum_admitted_trials", .int 2),
    ("hypothesis_proposition", .str "p"), ("hypothesis_project_id", .str projectId.value),
    ("hypothesis_id", .str hypothesisId.value), ("experiment_version", .str "v"), ("experiment_purpose", .str "w"),
    ("experiment_id", .str experimentId.value), ("dataset_version", .str "1"), ("dataset_id", .str "dataset"),
    ("configuration_digest", .str zeros)]

theorem sorted_body : Sorted body := by
  refine sorted_obj ?_
  have hdomain : Sorted (.arr [.str "d", .str "e"]) := sorted_texts ["d", "e"]
  simp only [List.forall_mem_cons, List.not_mem_nil, false_imp_iff, implies_true, and_true, sorted_str, sorted_int, hdomain]

theorem accepted : FrozenResearchPlan.create platform hypothesis experiment zeros ["d", "e"] "o" "dataset" "1"
      .protectedHoldout 1 "approval" "policy" = .ok plan ∧
    FrozenResearchPlan.fromCanonicalBody platform body = .ok expanded :=
  ⟨by decide +kernel, by decide +kernel⟩

theorem built : Built platform expanded :=
  .expand 2 "approval-2" "policy-2" (.create _ _ _ _ _ _ _ _ _ _ _ accepted.1) (by decide +kernel)

end Sample

theorem plan_records_exact_sample :
    (∃ text body, Sample.platform.canonicalJson Sample.expanded.canonicalBody = .ok text ∧ loads text = some body ∧
      FrozenResearchPlan.fromCanonicalBody Sample.platform body = .ok Sample.expanded) ∧
    Sample.body = Sample.expanded.canonicalBody ∧
    ∀ q : FrozenResearchPlan, q.Constructed Sample.platform → frozenText Sample.expanded = frozenText q →
      Sample.expanded = q := by
  have hconstructed := constructed_of_built Sample.built
  refine ⟨(plan_records_exact Sample.platform).1 _ Sample.built,
    (plan_records_exact Sample.platform).2.1 _ _ Sample.sorted_body Sample.accepted.2, fun q hq htext => ?_⟩
  refine (plan_records_exact Sample.platform).2.2 _ _ hconstructed hq (fun _ => htext) ?_
  rw [eq_of_digest (digest_of_constructed hconstructed), eq_of_digest (digest_of_constructed hq)]
  exact congrArg (fun t => "sha256:" ++ Sample.platform.hexdigest t) htext

end ATB.Proof.Governance
