import AutomatedTradingBot.Framework.JsonText
import AutomatedTradingBot.Proof.Canonical
import AutomatedTradingBot.Proof.StateCodec
import AutomatedTradingBot.Source.Governance.Governor

/-!
# The bodies of plans, approvals and events read back

* `fromCanonicalBody_plan`: the plan of a constructed plan's body;
* `fromCanonicalBody_approval`: the approval of an approval's body;
* `decode_sealed`: the event of the file that is written for it.
-/

namespace ATB.Proof.Governance

open ATB.Governance Canonical Json StateCodec

/-! ## Digests -/

/-- The text that a digest is the hash of. -/
def hashedText (domain : String) (body : Json) : List Char := Text.chars domain ++ Char.ofNat 0 :: body.dumps

theorem eq_of_digest {py : Platform} {domain digest : String} {body : Json} (h : py.digest domain body = .ok digest) :
    digest = "sha256:" ++ py.hexdigest (hashedText domain body) := by
  rw [Platform.digest] at h
  obtain ⟨text, hcanonical, hd⟩ := bind_eq_ok.mp h
  rw [Platform.canonicalJson] at hcanonical
  obtain ⟨-, -, hdumps⟩ := bind_eq_ok.mp hcanonical
  rw [hashedText, pure_eq_ok.mp hdumps]
  exact (pure_eq_ok.mp hd).symm

/-- Bodies whose texts do not collide are told by their digests. -/
theorem body_eq_of_digest {py : Platform} {domain digest : String} {i j : Json} (hi : Sorted i) (hj : Sorted j)
    (hfree : py.sha256 (hashedText domain i) = py.sha256 (hashedText domain j) → hashedText domain i = hashedText domain j)
    (h : py.digest domain i = .ok digest) (h' : py.digest domain j = .ok digest) : i = j := by
  have he := (eq_of_digest h).symm.trans (eq_of_digest h')
  have htext := hfree (hexdigest_inj (String.append_right_inj _ |>.mp he))
  exact dumps_inj hi hj (List.cons_inj_right _ |>.mp (List.append_cancel_left htext))

/-! ## Members of an object -/

theorem member_obj {fs : List (String × Json)} {k : String} {j : Json} (hn : (fs.map Prod.fst).Nodup)
    (h : (k, j) ∈ fs) : member k (obj fs) = j := by
  rw [member, get?_obj hn h]
  rfl

theorem fields_obj {fs : List (String × Json)} : (obj fs).fields? = some (display fs) := rfl

/-- The object has the keys that it was made with. -/
theorem hasKeys_display {fs : List (String × Json)} {expected : List String} (hn : (fs.map Prod.fst).Nodup)
    (h : ∀ k, k ∈ expected ↔ k ∈ fs.map Prod.fst) : hasKeys expected (display fs) = true := by
  simp only [hasKeys, Bool.and_eq_true, List.all_eq_true, List.any_eq_true, beq_iff_eq, decide_eq_true_eq]
  constructor
  · intro k hk
    obtain ⟨f, hf, rfl⟩ := List.mem_map.mp ((h k).mp hk)
    have hget : find? f.1 (display fs) = some f.2 := get?_obj hn hf
    obtain ⟨g, hg, -⟩ := Option.map_eq_some_iff.mp hget
    exact ⟨g, List.mem_of_find?_eq_some hg, by simpa using List.find?_some hg⟩
  · intro f hf
    exact (h f.1).mpr (List.mem_map_of_mem (mem_display hf))

theorem optionalText_ofOption (o : Option String) : optionalText? (ofOption .str o) = some o := by
  cases o <;> rfl

theorem natural_int (n : Nat) : natural? (.int n) = some n := by
  simp [natural?]

theorem texts_strings (l : List String) : texts? (.arr (l.map .str)) = some l := by
  rw [texts?]
  induction l with
  | nil => rfl
  | cons s l ih =>
    rw [List.map_cons, List.mapM_cons, ih]
    rfl

theorem partitionOf_value (p : PartitionRole) : partitionOf? p.value = some p := by
  cases p <;> decide

theorem researchId_make {kind : ResearchIdKind} (i : ResearchId kind) : (ResearchId.make i.value : Outcome (ResearchId kind)) = .ok i := by
  rw [ResearchId.make, dif_pos i.canonical]

/-! ## Plans -/

section Plan

variable {py : Platform} {plan : FrozenResearchPlan}

/-- What `__post_init__` has gone through. -/
theorem postInit_eq_ok : plan.postInit py = .ok () ↔
    Hypothesis.create py plan.hypothesis.projectId plan.hypothesis.proposition = .ok plan.hypothesis ∧
    Experiment.create py plan.experiment.hypothesisId plan.experiment.configurationDigest plan.experiment.version
      plan.experiment.purpose = .ok plan.experiment ∧
    plan.experiment.hypothesisId = plan.hypothesis.hypothesisId ∧
    plan.experiment.configurationDigest = plan.configurationDigest ∧
    digestText "configuration_digest" plan.configurationDigest = .ok () ∧
    uniqueText "parameter_domain" plan.parameterDomain = .ok () ∧ plan.parameterDomain ≠ [] ∧
    text "objective" plan.objective = .ok () ∧ safeId "dataset_id" plan.datasetId = .ok () ∧
    safeId "dataset_version" plan.datasetVersion = .ok () ∧ plan.maximumAdmittedTrials ≠ 0 ∧
    safeId "owner_approval_reference" plan.ownerApprovalReference = .ok () ∧
    safeId "policy_identity" plan.policyIdentity = .ok () ∧
    plan.predecessorPlanDigest.forM (digestText "predecessor_plan_digest") = .ok () ∧
    plan.digest py = .ok plan.planDigest := by
  simp only [FrozenResearchPlan.postInit, bind_eq_ok, raiseIf_eq_ok, exists_const, not_not, Raised.ofOutcome,
    mapError_eq_ok]
  constructor
  · rintro ⟨h, hh, rfl, e, he, rfl, h₁, h₂, ⟨⟩, h₃, ⟨⟩, h₄, h₅, ⟨⟩, h₆, ⟨⟩, h₇, ⟨⟩, h₈, h₉, ⟨⟩, h₁₀, ⟨⟩, h₁₁, ⟨⟩,
      h₁₂, d, hd, rfl⟩
    exact ⟨hh, he, h₁, h₂, h₃, h₄, h₅, h₆, h₇, h₈, h₉, h₁₀, h₁₁, h₁₂, hd⟩
  · rintro ⟨hh, he, h₁, h₂, h₃, h₄, h₅, h₆, h₇, h₈, h₉, h₁₀, h₁₁, h₁₂, hd⟩
    exact ⟨_, hh, rfl, _, he, rfl, h₁, h₂, (), h₃, (), h₄, h₅, (), h₆, (), h₇, (), h₈, h₉, (), h₁₀, (), h₁₁, (),
      h₁₂, _, hd, rfl⟩

/-- The items of a plan's body. -/
def planItems (plan : FrozenResearchPlan) : List (String × Json) :=
  [("configuration_digest", .str plan.configurationDigest),
    ("dataset_id", .str plan.datasetId),
    ("dataset_version", .str plan.datasetVersion),
    ("experiment_id", .str plan.experimentId.value),
    ("experiment_purpose", .str plan.experiment.purpose),
    ("experiment_version", .str plan.experiment.version),
    ("hypothesis_id", .str plan.hypothesisId.value),
    ("hypothesis_project_id", .str plan.hypothesis.projectId.value),
    ("hypothesis_proposition", .str plan.hypothesis.proposition),
    ("maximum_admitted_trials", .int plan.maximumAdmittedTrials),
    ("objective", .str plan.objective),
    ("owner_approval_reference", .str plan.ownerApprovalReference),
    ("parameter_domain", .arr (plan.parameterDomain.map .str)),
    ("partition", .str plan.partitionRole.value),
    ("policy_identity", .str plan.policyIdentity),
    ("predecessor_plan_digest", .ofOption .str plan.predecessorPlanDigest)]

theorem canonicalBody_plan : plan.canonicalBody = obj (planItems plan) := rfl

theorem planItems_keys : (planItems plan).map Prod.fst = FrozenResearchPlan.fields := rfl

theorem nodup_planItems : ((planItems plan).map Prod.fst).Nodup := by
  rw [planItems_keys]
  decide

theorem sorted_planItems : ∀ f ∈ planItems plan, Sorted f.2 := by
  simp only [planItems, List.forall_mem_cons, List.not_mem_nil, false_imp_iff, implies_true, and_true, sorted_str,
    sorted_int, sorted_texts, sorted_optionalText (fun s => s)]

theorem sorted_plan : Sorted plan.canonicalBody := sorted_obj sorted_planItems

/-- The body that the constructors hash is the canonical body. -/
theorem frozenBody_eq : FrozenResearchPlan.frozenBody plan.hypothesis plan.experiment plan.configurationDigest
    plan.parameterDomain plan.objective plan.datasetId plan.datasetVersion plan.partitionRole plan.maximumAdmittedTrials
    plan.ownerApprovalReference plan.policyIdentity plan.predecessorPlanDigest = plan.canonicalBody := by
  refine (obj_perm ?_ nodup_planItems sorted_planItems).symm
  -- the two items of the experiment stand after those of the hypothesis
  refine .cons _ (.cons _ (.cons _ (.cons _ ?_)))
  exact (List.Perm.swap _ _ _).trans (List.perm_append_comm_assoc [_, _] [_, _, _] _)

theorem planDigest_eq_ok {digest : String} :
    plan.digest py = .ok digest ↔ py.digest "ATIS-S4-08-FROZEN-PLAN-V1" plan.canonicalBody = .ok digest := by
  rw [FrozenResearchPlan.digest, FrozenResearchPlan.digestOf, frozenBody_eq, Raised.ofOutcome, mapError_eq_ok]

theorem ofBody_plan (he : plan.experiment.hypothesisId = plan.hypothesis.hypothesisId)
    (hc : plan.experiment.configurationDigest = plan.configurationDigest) :
    FrozenResearchPlan.ofBody? plan.canonicalBody = some { plan with planDigest := "" } := by
  have get {k : String} {j : Json} (i : Nat) (h : (planItems plan)[i]? = some (k, j)) :
      member k (obj (planItems plan)) = j := member_obj nodup_planItems (List.mem_of_getElem? h)
  rw [canonicalBody_plan]
  unfold FrozenResearchPlan.ofBody?
  rw [get 6 rfl, get 7 rfl, get 8 rfl, get 3 rfl, get 0 rfl, get 5 rfl, get 4 rfl, get 12 rfl, get 10 rfl, get 1 rfl,
    get 2 rfl, get 13 rfl, get 9 rfl, get 11 rfl, get 14 rfl, get 15 rfl]
  simp only [text?, texts_strings, partitionOf_value, natural_int, optionalText_ofOption, bind, Option.bind_some,
    researchId_make, Except.toOption, pure]
  have hexperiment : (⟨plan.experimentId, plan.hypothesisId, plan.configurationDigest, plan.experiment.version,
      plan.experiment.purpose⟩ : Experiment) = plan.experiment := by
    rw [FrozenResearchPlan.hypothesisId, ← he, ← hc]
    rfl
  rw [hexperiment]
  rfl

/-- A constructed plan reads back from its body. -/
theorem fromCanonicalBody_plan (h : plan.Constructed py) :
    FrozenResearchPlan.fromCanonicalBody py plan.canonicalBody = .ok plan := by
  have hpost : plan.postInit py = .ok () := h
  obtain ⟨-, -, he, hc, -, -, -, -, -, -, -, -, -, -, hd⟩ := postInit_eq_ok.mp hpost
  have hkeys : hasKeys FrozenResearchPlan.fields (display (planItems plan)) = true :=
    hasKeys_display nodup_planItems fun k => by rw [planItems_keys]
  have hdigest := planDigest_eq_ok.mp hd
  have hfields : plan.canonicalBody.fields? = some (display (planItems plan)) := by
    rw [canonicalBody_plan, fields_obj]
  unfold FrozenResearchPlan.fromCanonicalBody
  rw [hfields, hdigest, ofBody_plan he hc]
  simp only [orRaise, ok_bind, raiseIf_of_not (show ¬ hasKeys FrozenResearchPlan.fields (display (planItems plan)) = false by
    rw [hkeys]; decide), Except.mapError, hpost]
  rfl

/-- What a body that reads as a plan gives. -/
theorem fromCanonicalBody_eq_ok {body : Json} {candidate : FrozenResearchPlan}
    (h : FrozenResearchPlan.fromCanonicalBody py body = .ok candidate) : candidate.Constructed py := by
  simp only [FrozenResearchPlan.fromCanonicalBody, bind_eq_ok, orRaise_eq_ok, raiseIf_eq_ok, mapError_eq_ok,
    exists_const, pure_eq_ok] at h
  obtain ⟨_, -, -, _, -, _, -, ⟨⟩, hpost, rfl⟩ := h
  exact hpost

end Plan

/-! ## Approvals -/

section Approval

variable {a : ApprovalEvidence}

/-- The items of an approval's body. -/
def approvalItems (a : ApprovalEvidence) : List (String × Json) :=
  a.values ++ [("evidence_digest", .str a.evidenceDigest)]

theorem approvalItems_keys : (approvalItems a).map Prod.fst = ApprovalEvidence.fields := rfl

theorem nodup_approvalItems : ((approvalItems a).map Prod.fst).Nodup := by
  rw [approvalItems_keys]
  decide

theorem sorted_approval : Sorted a.canonicalBody := by
  rw [ApprovalEvidence.canonicalBody]
  refine sorted_obj ?_
  simp only [ApprovalEvidence.values, List.cons_append, List.nil_append, List.forall_mem_cons, List.not_mem_nil,
    false_imp_iff, implies_true, and_true, sorted_str, sorted_int, sorted_optionalText (fun s => s)]

theorem ofBody_approval : ApprovalEvidence.ofBody? a.canonicalBody = some a := by
  have get {k : String} {j : Json} (i : Nat) (h : (approvalItems a)[i]? = some (k, j)) :
      member k (obj (approvalItems a)) = j := member_obj nodup_approvalItems (List.mem_of_getElem? h)
  rw [show a.canonicalBody = obj (approvalItems a) from rfl]
  unfold ApprovalEvidence.ofBody?
  rw [get 0 rfl, get 1 rfl, get 2 rfl, get 3 rfl, get 4 rfl, get 5 rfl, get 6 rfl, get 7 rfl, get 8 rfl, get 9 rfl,
    get 10 rfl, get 11 rfl, get 12 rfl, get 13 rfl, get 14 rfl, get 15 rfl,
    show amount? (.int a.maximumAdmittedTrials) = some a.maximumAdmittedTrials from natural_int _,
    optionalText_ofOption]
  rfl

/-- An approval reads back from its body. -/
theorem fromCanonicalBody_approval : ApprovalEvidence.fromCanonicalBody a.canonicalBody = .ok a := by
  have hkeys : hasKeys ApprovalEvidence.fields (display (approvalItems a)) = true :=
    hasKeys_display nodup_approvalItems fun k => by rw [approvalItems_keys]
  have hfields : a.canonicalBody.fields? = some (display (approvalItems a)) := by
    rw [show a.canonicalBody = obj (approvalItems a) from rfl, fields_obj]
  unfold ApprovalEvidence.fromCanonicalBody
  rw [hfields, ofBody_approval]
  simp only [orRaise, ok_bind, raiseIf_of_not (show ¬ hasKeys ApprovalEvidence.fields (display (approvalItems a)) = false by
    rw [hkeys]; decide)]

end Approval

/-! ## Events -/

section Event

variable {py : Platform} {e : JournalEvent}

/-- The checks of `_decode` on the fields of an event. -/
structure Checked (e : JournalEvent) : Prop where
  sequence : e.sequence ≠ 0
  eventId : safeId "event_id" e.eventId = .ok ()
  experimentId : text "experiment_id" e.experimentId = .ok ()
  runId : e.runId.forM (text "run_id") = .ok ()
  planDigest : digestText "plan_digest" e.planDigest = .ok ()
  policyIdentity : safeId "policy_identity" e.policyIdentity = .ok ()
  approvalReference : safeId "approval_reference" e.approvalReference = .ok ()
  disposition : text "disposition" e.disposition = .ok ()
  reasons : uniqueText "reasons" e.reasons = .ok ()
  details : uniqueText "details" e.details = .ok ()
  previousDigest : e.previousDigest.forM (digestText "previous_digest") = .ok ()

/-- The event carries its digest, and its file can be written and read. -/
structure Sealed (py : Platform) (e : JournalEvent) : Prop where
  checked : Checked e
  digest : e.digest py = .ok e.contentDigest
  canonical : py.canonicalJson e.sealedBody = .ok e.sealedBody.dumps

/-- The items of an event's body. -/
def eventItems (e : JournalEvent) : List (String × Json) := e.fields ++ [("content_digest", .str e.contentDigest)]

theorem sealedBody_eq : e.sealedBody = obj (eventItems e) := rfl

theorem eventItems_keys : (eventItems e).map Prod.fst =
    ["approval_reference", "details", "disposition", "event_id", "experiment_id", "kind", "plan_digest",
      "policy_identity", "previous_digest", "reasons", "run_id", "sequence", "content_digest"] := rfl

theorem perm_eventKeys : eventKeys.Perm ((eventItems e).map Prod.fst) := by
  rw [eventItems_keys]
  decide

theorem nodup_eventItems : ((eventItems e).map Prod.fst).Nodup := by
  rw [eventItems_keys]
  decide

theorem sorted_event : Sorted e.sealedBody := by
  rw [sealedBody_eq]
  refine sorted_obj ?_
  simp only [eventItems, JournalEvent.fields, List.cons_append, List.nil_append, List.forall_mem_cons, List.not_mem_nil,
    false_imp_iff, implies_true, and_true, sorted_str, sorted_int, sorted_texts, sorted_optionalText (fun s => s)]

theorem mapM_text (l : List String) : (l.map Json.str).mapM text? = some l := texts_strings l

theorem eventKind_value (k : EventKind) : eventKindOf? k.value = some k := by
  cases k <;> decide

/-- The file of a sealed event decodes to it. -/
theorem decode_sealed (h : Sealed py e) : decode py e.sealedBody.dumps = .ok e := by
  obtain ⟨hc, hdigest, hcanonical⟩ := h
  have get {k : String} {j : Json} (i : Nat) (h : (eventItems e)[i]? = some (k, j)) :
      member k (obj (eventItems e)) = j := member_obj nodup_eventItems (List.mem_of_getElem? h)
  have hkeys : ¬ hasKeys eventKeys (display (eventItems e)) = false := by
    rw [hasKeys_display nodup_eventItems fun k => perm_eventKeys.mem_iff]
    decide
  have hloads := loads_canonicalJson sorted_event hcanonical
  generalize e.sealedBody.dumps = content at *
  unfold decode
  rw [hloads, orRaise, ok_bind, sealedBody_eq, fields_obj, orRaise, ok_bind, ← sealedBody_eq, hcanonical]
  rw [sealedBody_eq, get 5 rfl, get 9 rfl, get 1 rfl, get 11 rfl, get 3 rfl, get 4 rfl, get 10 rfl, get 6 rfl,
    get 7 rfl, get 0 rfl, get 2 rfl, get 8 rfl, get 12 rfl]
  simp only [Raised.ofOutcome, Except.mapError, ok_bind, raiseIf_of_not (not_not.mpr (rfl : content = content)),
    raiseIf_of_not hkeys, text?, Option.bind_some, eventKind_value, orRaise, tuple?, natural_int,
    raiseIf_of_not hc.sequence, textOf, hc.eventId, hc.experimentId, optionalText_ofOption, hc.runId, hc.planDigest,
    hc.policyIdentity, hc.approvalReference, hc.disposition, textsOf, mapM_text, hc.reasons, hc.details,
    hc.previousDigest, hdigest, raiseIf_of_not (not_not.mpr (rfl : e.contentDigest = e.contentDigest))]
  rfl

end Event

end ATB.Proof.Governance
