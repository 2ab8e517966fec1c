import AutomatedTradingBot.Proof.Governance.Append
import AutomatedTradingBot.Proof.Governance.Plans

/-!
# The first plan, and its holdout

* `writable_of_constructed`: the journal takes the proposals about a constructed plan;
* `accept_first_plan`: what `accept_plan` does on an empty journal;
* `authorize_first_holdout`: what `request_holdout` does on the journal after it.
-/

namespace ATB.Proof.Governance

open ATB.Governance ATB.Calls Canonical
open ATB.Governance.ResearchGovernor (HoldoutAccessRecord HoldoutRequest)

section FirstPlan

variable {py : Platform} {g : ResearchGovernor} {plan : FrozenResearchPlan} {approval : ApprovalEvidence}
  {p : Proposal} {events : List JournalEvent} {disk disk' : Disk}

/-! ## Proposals about a constructed plan -/

theorem digestText_of_digest {name domain digest : String} {body : Json} (h : py.digest domain body = .ok digest) :
    digestText name digest = .ok () := by
  rw [eq_of_digest h]
  exact digestText_digest _ _

theorem plain_of_digest {domain digest : String} {body : Json} (h : py.digest domain body = .ok digest) :
    digest ≠ "" ∧ Plain digest.toList := by
  rw [eq_of_digest h]
  exact ⟨digest_ne_empty _, plain_digest _⟩

/-- The identity of the experiment of a constructed plan. -/
theorem plain_experimentId (h : plan.Constructed py) :
    plan.experimentId.value ≠ "" ∧ Plain plan.experimentId.value.toList := by
  have hpost : plan.postInit py = .ok () := h
  obtain ⟨-, hexperiment, -⟩ := postInit_eq_ok.mp hpost
  simp only [Experiment.create, derive, bind_eq_ok, Unique.exists_iff, PUnit.default_eq_unit, pure_eq_ok] at hexperiment
  obtain ⟨-, -, -, -, _, ⟨digest, hdigest, rfl⟩, i, hmake, heq⟩ := hexperiment
  have hvalue : plan.experimentId.value = "atis:research:" ++ "experiment" ++ ":v1:" ++ digest := by
    rw [FrozenResearchPlan.experimentId, ← heq]
    exact value_of_make (congrArg Except.toOption hmake)
  rw [hvalue]
  exact ⟨append_ne_empty (by decide), plain_concat (by decide) (plain_of_digest hdigest).2⟩

/-- The journal takes a proposal about a constructed plan that passes the checks of `_append`. -/
theorem writable_of_constructed (hnfc : AsciiNormal py) (hplan : p.plan.Constructed py)
    (hexperiment : p.experimentId = p.plan.experimentId) (hrun : p.runId = none) (hcheck : p.check = .ok ())
    (hhistory : History py events)
    (hcanonical : ∀ s ∈ p.disposition :: (p.reasons ++ p.details), py.canonicalValue (.str s) = .ok ()) :
    Writable py p events := by
  have hpost : p.plan.postInit py = .ok () := hplan
  obtain ⟨-, -, -, -, -, -, -, -, -, -, -, happroval, hpolicy, -⟩ := postInit_eq_ok.mp hpost
  have hdigest := digest_of_constructed hplan
  have hid := plain_experimentId hplan
  have hevent : safeId "event_id" p.eventId = .ok () := by
    simp only [Proposal.check, bind_eq_ok, Unique.exists_iff, PUnit.default_eq_unit] at hcheck
    exact hcheck.1
  have hplain {s : String} (h : s ≠ "" ∧ Plain s.toList) : py.canonicalValue (.str s) = .ok () :=
    canonical_of_plain hnfc h.1 h.2
  have hkind : p.kind.value ≠ "" ∧ Plain p.kind.value.toList := by
    generalize p.kind = k
    revert k
    rintro (_ | _ | _ | _ | _ | _ | _ | _ | _ | _) <;> decide
  have hprevious : ∀ s ∈ (events.getLast?.map JournalEvent.contentDigest).toList, py.canonicalValue (.str s) = .ok () := by
    cases hlast : events.getLast? with
    | none => exact fun _ h => absurd h List.not_mem_nil
    | some e =>
      obtain ⟨t, ht⟩ := contentDigest_eq (hhistory.digest e (List.mem_of_getLast? hlast))
      rw [Option.map_some, ht, Option.toList_some, List.forall_mem_singleton]
      exact hplain ⟨digest_ne_empty t, plain_digest t⟩
  refine ⟨hcheck, ?_, ?_, digestText_of_digest hdigest, hpolicy,
    safeId_eq_ok.mpr (safeId_eq_ok.mp happroval), previousDigest_of_history hhistory, ?_⟩
  · rw [hexperiment]
    exact text_of_plain hid.1 hid.2
  · rw [hrun]
    rfl
  · rw [List.forall_mem_cons, List.forall_mem_append] at hcanonical
    obtain ⟨hdisposition, hreasons, hdetails⟩ := hcanonical
    simp only [textsOf, Proposal.provisional, hrun, hexperiment, List.forall_mem_append, List.forall_mem_cons, Option.map_none,
      Option.toList_none, List.not_mem_nil, false_imp_iff, implies_true, and_true]
    exact ⟨⟨⟨⟨hplain (plain_of_safeId happroval), hdisposition, hplain (plain_of_safeId hevent), hplain hid, hplain hkind,
      hplain (plain_of_digest hdigest), hplain (plain_of_safeId hpolicy)⟩, hdetails⟩, hreasons⟩, hprevious⟩

/-! ## The acceptance -/

/-- What `accept_plan` asks `_append` to add. -/
def acceptanceOf (g : ResearchGovernor) (plan : FrozenResearchPlan) (approval : ApprovalEvidence) : Proposal where
  eventId := "plan:" ++ plan.planDigest
  kind := .planAccepted
  experimentId := plan.experimentId
  runId := none
  plan := plan
  disposition := "ACCEPTED"
  reasons := []
  details := itemsOf (acceptanceDetails g plan approval)

/-- The body of a valid approval is taken. -/
theorem canonical_approval (hnfc : AsciiNormal py) (h : approval.validateFor py plan = .ok ()) :
    py.canonicalValue approval.canonicalBody = .ok () := by
  simp only [ApprovalEvidence.validateFor, bind_eq_ok, raiseIf_eq_ok, not_not] at h
  obtain ⟨rebuilt, hcreate, rfl⟩ := h
  simp only [ApprovalEvidence.create, bind_eq_ok, Unique.exists_iff, PUnit.default_eq_unit, Raised.ofOutcome, mapError_eq_ok,
    pure_eq_ok] at hcreate
  obtain ⟨-, -, -, -, -, digest, hdigest, heq⟩ := hcreate
  have hevidence : approval.evidenceDigest = digest := by rw [← heq]
  have hvalues : py.digest "ATIS-S4-08-OWNER-APPROVAL-V1" (.obj approval.values) = .ok digest := by
    rw [← heq]
    exact hdigest
  rw [Platform.digest] at hvalues
  obtain ⟨_, hcanonical, -⟩ := bind_eq_ok.mp hvalues
  have hbody := (py.canonicalJson_eq_ok.mp hcanonical).1
  have hnodup : (approval.values.map Prod.fst).Nodup := by
    rw [show approval.values.map Prod.fst = ApprovalEvidence.fields.dropLast from rfl]
    decide
  refine canonical_obj fun f hf => ?_
  rcases List.mem_append.mp hf with hf | hf
  · exact canonical_of_mem hbody hnodup hf
  · have hkey : "evidence_digest" ≠ "" ∧ Plain "evidence_digest".toList := by decide
    have hd := plain_of_digest hdigest
    rw [List.mem_singleton.mp hf, hevidence]
    exact ⟨Canonical.text_of_plain hnfc hkey.1 hkey.2, canonical_of_plain hnfc hd.1 hd.2⟩

theorem canonicalJson_plan (h : plan.Constructed py) :
    py.canonicalJson plan.canonicalBody = .ok plan.canonicalBody.dumps := by
  have hdigest := digest_of_constructed h
  rw [Platform.digest] at hdigest
  obtain ⟨_, hcanonical, -⟩ := bind_eq_ok.mp hdigest
  exact py.canonicalJson_eq_ok.mpr ⟨(py.canonicalJson_eq_ok.mp hcanonical).1, rfl⟩

theorem planDetails_eq (hnfc : AsciiNormal py) (hplan : plan.Constructed py) (h : approval.validateFor py plan = .ok ()) :
    g.planDetails py plan approval = .ok (itemsOf (acceptanceDetails g plan approval)) := by
  have happroval := py.canonicalJson_eq_ok.mpr ⟨canonical_approval hnfc h, rfl⟩
  rw [ResearchGovernor.planDetails, happroval, canonicalJson_plan hplan]
  rfl

theorem lineageOf_first (hfirst : plan.predecessorPlanDigest = none) :
    lineageOf [(plan.planDigest, plan)] plan = some [plan] := by
  rw [lineageOf, lineageFrom, if_neg (by simp), hfirst]
  rfl

/-- The acceptance of a first plan is the beginning of a history. -/
theorem replay_acceptance {e : JournalEvent} (hplan : plan.Constructed py) (hfirst : plan.predecessorPlanDigest = none)
    (hvalid : approval.validateFor py plan = .ok ())
    (he : e = { (acceptanceOf g plan approval).provisional [] with contentDigest := e.contentDigest }) :
    replayEvent py Replay.start e = .ok { Replay.start with plans := [(plan.planDigest, plan)] } := by
  have hmap : detailMap e = .ok (acceptanceDetails g plan approval) :=
    detailMap_eq (congrArg JournalEvent.details he) keys_acceptance
  have hevidence : detail "approval" (acceptanceDetails g plan approval) = String.ofList approval.canonicalBody.dumps :=
    detail_acceptance.1
  have hmode : detail "assurance_mode" (acceptanceDetails g plan approval) = g.journal.trust.assuranceMode.value :=
    detail_acceptance.2.1
  have hbody : detail "plan" (acceptanceDetails g plan approval) = String.ofList plan.canonicalBody.dumps :=
    detail_acceptance.2.2.1
  have hkind : e.kind = .planAccepted := congrArg JournalEvent.kind he
  have hshape : ¬ (e.runId ≠ none ∨ e.disposition ≠ "ACCEPTED" ∨ e.reasons ≠ []) := by
    rw [he]
    simp [Proposal.provisional, acceptanceOf]
  have hare : detailsAre ["approval", "assurance_mode", "plan", "trust_context"] (acceptanceDetails g plan approval) = true := rfl
  have hassurance : assuranceModeOf? (detail "assurance_mode" (acceptanceDetails g plan approval)) ≠ none := by
    rw [hmode]
    generalize g.journal.trust.assuranceMode = mode
    cases mode <;> decide
  have hidentity : ¬ (plan.planDigest ≠ e.planDigest ∨ plan.experimentId.value ≠ e.experimentId) := by
    rw [he]
    simp [Proposal.provisional, acceptanceOf]
  have happroval : ((approvalOfDetails (acceptanceDetails g plan approval) >>= fun a => a.validateFor py plan).mapError
      (asJournal "plan approval evidence is invalid")) = .ok () := by
    rw [approvalOfDetails_eq hevidence, ok_bind, hvalid]
    rfl
  have hnew : ¬ ∃ known ∈ Dict.get? e.planDigest Replay.start.plans, known ≠ plan := by
    rintro ⟨known, ⟨⟩, -⟩
  have hdigest : e.planDigest = plan.planDigest := congrArg JournalEvent.planDigest he
  rw [replayEvent, hmap, ok_bind, if_pos hkind, replayPlan, raiseIf_of_not hshape, ok_bind,
    raiseIf_of_not (by rw [hare]; decide), ok_bind, raiseIf_of_not hassurance, ok_bind, planOfDetails_eq hbody hplan, ok_bind,
    raiseIf_of_not hidentity, ok_bind, happroval, ok_bind, raiseIf_of_not hnew, ok_bind, checkSuccessor, hfirst, hdigest]
  rfl

/-- The texts of the details of an acceptance, given that they are in normal form. -/
theorem details_acceptance (hidentity : safeId "identity" g.journal.trust.identity = .ok ())
    (hnormal : ∀ s ∈ itemsOf (acceptanceDetails g plan approval), py.isNfc s = true) :
    ∀ s ∈ itemsOf (acceptanceDetails g plan approval), text "details" s = .ok () ∧ py.canonicalValue (.str s) = .ok () := by
  have htext : ∀ s ∈ itemsOf (acceptanceDetails g plan approval), text "details" s = .ok () := by
    have hmode : Plain ("assurance_mode=" ++ g.journal.trust.assuranceMode.value).toList := by
      generalize g.journal.trust.assuranceMode = mode
      cases mode <;> decide
    have htrust := plain_of_safeId hidentity
    simp only [itemsOf, acceptanceDetails, List.map_cons, List.map_nil, List.forall_mem_cons, List.not_mem_nil, false_imp_iff,
      implies_true, and_true]
    exact ⟨text_dumps rfl (by decide), text_of_plain (append_ne_empty (by decide)) hmode, text_dumps rfl (by decide),
      text_of_plain (append_ne_empty (by decide)) (plain_concat (by decide) htrust.2)⟩
  refine fun s hs => ⟨htext s hs, canonical_str.mpr (Canonical.text_eq_ok.mpr ?_)⟩
  obtain ⟨hne, hstrip⟩ := Governance.text_eq_ok.mp (htext s hs)
  exact ⟨hne, hstrip, hnormal s hs⟩

/-- What `accept_plan` does with a first plan on an empty journal. -/
theorem accept_first_plan (hnfc : AsciiNormal py) (hplan : plan.Constructed py) (hfirst : plan.predecessorPlanDigest = none)
    (hvalid : approval.validateFor py plan = .ok ()) (htrusted : g.journal.trust.requireApproval approval plan = .ok ())
    (hoperation : approval.operation = ResearchGovernor.requiredOperation plan)
    (hidentity : safeId "identity" g.journal.trust.identity = .ok ())
    (hnormal : ∀ s ∈ itemsOf (acceptanceDetails g plan approval), py.isNfc s = true) :
    ∃ e, Appends py (acceptanceOf g plan approval) [] e ∧
      (g.acceptPlan py plan approval).run.eval (Disk.answer py) .empty = (.ok e, linked .empty e) ∧
      recover py (linked .empty e) = .ok [e] := by
  have hdetails := details_acceptance hidentity hnormal
  have hdigest := digest_of_constructed hplan
  have hcheck : (acceptanceOf g plan approval).check = .ok () := by
    have hevent : safeId "event_id" ("plan:" ++ plan.planDigest) = .ok () := safeId_of_identity (by
      rw [eq_of_digest hdigest]
      exact isIdentity_planId _)
    have hdisposition : text "disposition" "ACCEPTED" = .ok () := text_eq_ok.mpr (by decide)
    have hnodup := nodup_itemsOf (keys_acceptance (a := String.ofList approval.canonicalBody.dumps)
      (m := g.journal.trust.assuranceMode.value) (p := String.ofList plan.canonicalBody.dumps)
      (t := g.journal.trust.identity))
    have hreasons : uniqueText "reasons" [] = .ok () := by decide
    simp only [Proposal.check, bind_eq_ok, Unique.exists_iff, PUnit.default_eq_unit]
    exact ⟨hevent, hdisposition, hreasons, uniqueText_eq_ok.mpr ⟨hnodup, fun s hs => (hdetails s hs).1⟩⟩
  have hcanonical : ∀ s ∈ "ACCEPTED" :: ([] ++ itemsOf (acceptanceDetails g plan approval)),
      py.canonicalValue (.str s) = .ok () := by
    rw [List.nil_append, List.forall_mem_cons]
    exact ⟨canonical_of_plain hnfc (by decide) (by decide), fun s hs => (hdetails s hs).2⟩
  have hwritable : Writable py (acceptanceOf g plan approval) [] :=
    writable_of_constructed hnfc hplan rfl rfl hcheck history_nil hcanonical
  obtain ⟨e, happends, hchecked⟩ := hwritable.appends hnfc (fun _ h => absurd h List.not_mem_nil) fun e he _ => by
    refine ⟨{ Replay.start with plans := [(plan.planDigest, plan)] }, ?_⟩
    rw [List.nil_append, validateSemantics, List.foldlM_cons, replay_acceptance hplan hfirst hvalid he]
    rfl
  have hempty : recover py .empty = .ok [] := rfl
  obtain ⟨happend, hrecover⟩ := eval_append hcheck hempty happends hchecked (by decide)
  refine ⟨e, happends, ?_, hrecover⟩
  rw [ResearchGovernor.acceptPlan, eval_bind_ok (eval_lift.trans (congrArg (·, _) htrusted)),
    eval_bind_ok (eval_lift.trans (congrArg (·, _) (raiseIf_of_not (not_not.mpr hoperation)))), hfirst]
  dsimp only
  rw [eval_bind_ok (eval_lift.trans (congrArg (·, _) (planDetails_eq hnfc hplan hvalid)))]
  exact happend

/-! ## The authorization -/

section Authorization

variable {r : HoldoutRequest} {acceptance : JournalEvent}

/-- The details of an authorization. -/
def requestItems (r : HoldoutRequest) : List (String × String) :=
  [("dataset", r.plan.datasetId), ("version", r.plan.datasetVersion), ("partition", r.plan.partitionRole.value),
    ("purpose", r.purpose)]

theorem keys_request : Keys (requestItems r) :=
  ⟨by simp [requestItems], by simp [requestItems], by simp [requestItems]⟩

theorem detailMap_authorization {e : JournalEvent} (h : Appends py (r.proposal .authorizedAccess []) events e) :
    detailMap e = .ok (requestItems r) := detailMap_eq ((congrArg JournalEvent.details h.made).trans rfl) keys_request

/-- The events of the plan, when its acceptance is the history. -/
theorem eval_planEvents_first (hplan : plan.Constructed py) (hfirst : plan.predecessorPlanDigest = none)
    (htrusted : g.journal.trust.requireApproval approval plan = .ok ())
    (hacceptance : Appends py (acceptanceOf g plan approval) [] acceptance) (hrecover : recover py disk = .ok [acceptance]) :
    (g.planEvents py plan).run.eval (Disk.answer py) disk = (.ok [acceptance], disk) := by
  have hdigest : acceptance.planDigest = plan.planDigest := congrArg JournalEvent.planDigest hacceptance.made
  have hhistory : (Action.history .governor).run.eval (Disk.answer py) disk = (.ok [acceptance], disk) := by
    rw [eval_history, hrecover]
  have hplans : g.acceptedPlansOf py [acceptance] = .ok [(plan.planDigest, plan)] := by
    have hstep : g.acceptedPlan py [] acceptance = .ok (Dict.set acceptance.planDigest plan []) :=
      acceptedPlan_acceptance (congrArg JournalEvent.kind hacceptance.made) (congrArg JournalEvent.details hacceptance.made)
        hplan htrusted
    rw [ResearchGovernor.acceptedPlansOf, List.foldlM_cons, hstep, hdigest]
    rfl
  have hlineage : ResearchGovernor.lineageIn [(plan.planDigest, plan)] plan = .ok [plan] := by
    have hget : Dict.get? plan.planDigest [(plan.planDigest, plan)] = some plan := Dict.get?_set_self plan.planDigest plan []
    rw [ResearchGovernor.lineageIn, raiseIf_of_not (not_not.mpr hget), ok_bind, lineageOf_first hfirst]
    rfl
  have haccepted : (g.acceptedPlans py).run.eval (Disk.answer py) disk = (.ok [(plan.planDigest, plan)], disk) := by
    rw [ResearchGovernor.acceptedPlans, eval_bind_ok hhistory, eval_lift, hplans]
  have hread : (g.lineage py plan).run.eval (Disk.answer py) disk = (.ok [plan], disk) := by
    rw [ResearchGovernor.lineage, eval_bind_ok haccepted, eval_lift, hlineage]
  rw [ResearchGovernor.planEvents, eval_bind_ok hread, eval_bind_ok hhistory, eval_pure,
    List.filter_cons_of_pos (by simp [hdigest]), List.filter_nil]

/-- What `request_holdout` does when the events of the plan allow the access. -/
theorem eval_requestHoldout {chosen : List JournalEvent} {e : JournalEvent} (hcheck : g.checkRequest py r = .ok ())
    (hchosen : (g.planEvents py r.plan).run.eval (Disk.answer py) disk = (.ok chosen, disk))
    (hdecide : r.decide chosen = (.authorizedAccess, []))
    (happend : ((r.proposal .authorizedAccess []).append py).run.eval (Disk.answer py) disk = (.ok e, disk')) :
    (g.requestHoldout py r).run.eval (Disk.answer py) disk =
      (.ok ⟨.authorizedAccess, false, e, g.journal.trust.assuranceMode⟩, disk') := by
  rw [ResearchGovernor.requestHoldout, eval_bind_ok (eval_lift.trans (congrArg (·, _) hcheck)), eval_bind_ok hchosen, hdecide]
  dsimp only
  rw [eval_bind_ok happend, eval_pure]

/-- The replay of an authorization after the acceptance of its plan. -/
theorem replay_first_authorization {r₀ : Replay} {e : JournalEvent} (hfirst : r.plan.predecessorPlanDigest = none)
    (hplans : r₀.plans = [(r.plan.planDigest, r.plan)]) (hdetails : detailMap e = .ok (requestItems r))
    (he : e = { (r.proposal .authorizedAccess []).provisional events with contentDigest := e.contentDigest }) :
    replayEvent py r₀ e = .ok { r₀ with authorizations := Dict.set e.contentDigest e r₀.authorizations } := by
  have hkind : e.kind = .holdoutAuthorized := congrArg JournalEvent.kind he
  have hdigest : e.planDigest = r.plan.planDigest := congrArg JournalEvent.planDigest he
  have hexperiment : e.experimentId = r.plan.experimentId.value := congrArg JournalEvent.experimentId he
  have hdisposition : e.disposition = "AUTHORIZED_ACCESS" := congrArg JournalEvent.disposition he
  have hrun : e.runId = none := congrArg JournalEvent.runId he
  have hget : Dict.get? e.planDigest r₀.plans = some r.plan := by
    rw [hplans, hdigest]
    exact Dict.get?_set_self r.plan.planDigest r.plan []
  have hlineage : lineageOf r₀.plans r.plan = some [r.plan] := by rw [hplans, lineageOf_first hfirst]
  have hare : detailsAre ["dataset", "partition", "purpose", "version"] (requestItems r) = true := rfl
  have hsame : ¬ (detail "dataset" (requestItems r) ≠ r.plan.datasetId ∨ detail "version" (requestItems r) ≠ r.plan.datasetVersion ∨
      detail "partition" (requestItems r) ≠ r.plan.partitionRole.value) := by
    rintro (h | h | h) <;> exact h rfl
  have hrequest : replayRequest r₀ e r.plan (requestItems r) =
      .ok { r₀ with authorizations := Dict.set e.contentDigest e r₀.authorizations } := by
    rw [replayRequest, raiseIf_of_not (by rw [hrun, hare]; decide), ok_bind, raiseIf_of_not hsame, ok_bind, hdisposition,
      show holdoutDecisionOf? "AUTHORIZED_ACCESS" = some .authorizedAccess from rfl, orRaise, ok_bind,
      raiseIf_of_not (by rw [hkind]; simp), ok_bind, if_pos hkind]
    rfl
  rw [replayEvent, hdetails, ok_bind, if_neg (by rw [hkind]; decide), hget, orRaise, ok_bind,
    raiseIf_of_not (not_not.mpr hexperiment), ok_bind, hlineage, orRaise, ok_bind, hkind]
  exact hrequest

/-- What `request_holdout` does with a valid request when the acceptance of its plan is the history. -/
theorem authorize_first_holdout (hnfc : AsciiNormal py) (hplan : r.plan.Constructed py)
    (hfirst : r.plan.predecessorPlanDigest = none) (hvalid : approval.validateFor py r.plan = .ok ())
    (htrusted : g.journal.trust.requireApproval approval r.plan = .ok ())
    (hacceptance : Appends py (acceptanceOf g r.plan approval) [] acceptance) (hrecover : recover py disk = .ok [acceptance])
    (hcheck : g.checkRequest py r = .ok ()) (hpolicy : r.valid) (hproposal : (r.proposal .authorizedAccess []).check = .ok ())
    (hpurpose : py.isNfc ("purpose=" ++ r.purpose) = true) :
    ∃ e, Appends py (r.proposal .authorizedAccess []) [acceptance] e ∧
      (g.requestHoldout py r).run.eval (Disk.answer py) disk =
        (.ok ⟨.authorizedAccess, false, e, g.journal.trust.assuranceMode⟩, linked disk e) ∧
      recover py (linked disk e) = .ok [acceptance, e] := by
  have hpost : r.plan.postInit py = .ok () := hplan
  obtain ⟨-, -, -, -, -, -, -, -, hdataset, hversion, -⟩ := postInit_eq_ok.mp hpost
  have hcanonical : ∀ s ∈ "AUTHORIZED_ACCESS" :: ([] ++ (r.proposal .authorizedAccess []).details),
      py.canonicalValue (.str s) = .ok () := by
    have hitem {lead value : String} (hlead : lead ≠ "") (hl : Plain lead.toList) (hv : Plain value.toList) :
        py.canonicalValue (.str (lead ++ value)) = .ok () :=
      canonical_of_plain hnfc (append_ne_empty hlead) (plain_concat hl hv)
    have hpartition : Plain r.plan.partitionRole.value.toList := by
      generalize r.plan.partitionRole = role
      cases role <;> decide
    simp only [Proposal.check, bind_eq_ok, Unique.exists_iff, PUnit.default_eq_unit] at hproposal
    obtain ⟨-, -, -, hdetails⟩ := hproposal
    have htext := (uniqueText_eq_ok.mp hdetails).2 ("purpose=" ++ r.purpose) (by simp [HoldoutRequest.proposal])
    obtain ⟨hne, hstrip⟩ := Governance.text_eq_ok.mp htext
    simp only [HoldoutRequest.proposal, List.nil_append, List.forall_mem_cons, List.not_mem_nil, false_imp_iff, implies_true,
      and_true]
    exact ⟨canonical_of_plain hnfc (by decide) (by decide), hitem (by decide) (by decide) (plain_of_safeId hdataset).2,
      hitem (by decide) (by decide) (plain_of_safeId hversion).2, hitem (by decide) (by decide) hpartition,
      canonical_str.mpr (Canonical.text_eq_ok.mpr ⟨hne, hstrip, hpurpose⟩)⟩
  have hhistory := history_of_recover hrecover
  have hwritable : Writable py (r.proposal .authorizedAccess []) [acceptance] :=
    writable_of_constructed hnfc hplan rfl rfl hproposal hhistory hcanonical
  have hfresh : ∀ e ∈ [acceptance], e.eventId ≠ "holdout:" ++ r.requestId := by
    rw [List.forall_mem_singleton, show acceptance.eventId = "plan:" ++ r.plan.planDigest from
      congrArg JournalEvent.eventId hacceptance.made]
    intro h
    have hchars := congrArg String.toList h
    rw [String.toList_append, String.toList_append] at hchars
    exact absurd (congrArg List.head? hchars) (by simp)
  have hreplay := replay_acceptance hplan hfirst hvalid hacceptance.made
  obtain ⟨e, happends, hchecked⟩ := hwritable.appends hnfc hfresh fun e he _ => by
    have hdetails : detailMap e = .ok (requestItems r) :=
      detailMap_eq ((congrArg JournalEvent.details he).trans rfl) keys_request
    refine ⟨{ Replay.start with plans := [(r.plan.planDigest, r.plan)], authorizations := [(e.contentDigest, e)] }, ?_⟩
    rw [validateSemantics, List.cons_append, List.foldlM_cons, hreplay, ok_bind, List.nil_append, List.foldlM_cons,
      replay_first_authorization hfirst rfl hdetails he, ok_bind, List.foldlM_nil]
    rfl
  obtain ⟨happend, hrecovered⟩ := eval_append hproposal hrecover happends hchecked (by simp)
  have hdecide : r.decide [acceptance] = (.authorizedAccess, []) := by
    have hkind : acceptance.kind = .planAccepted := congrArg JournalEvent.kind hacceptance.made
    rw [HoldoutRequest.decide, if_neg (by simp [ResearchGovernor.isAuthorization, hkind]), if_neg (not_not.mpr hpolicy)]
  exact ⟨e, happends, eval_requestHoldout hcheck (eval_planEvents_first hplan hfirst htrusted hacceptance hrecover) hdecide
    happend, hrecovered⟩

end Authorization

end FirstPlan

namespace Sample

/-- The approval of the plan. -/
def approval : ApprovalEvidence :=
  ⟨"owner", "source", "task", "S4_08_PLAN_APPROVAL", zeros, none, hypothesisId.value, experimentId.value, zeros, "dataset", "1",
    "PROTECTED_HOLDOUT", 1, "policy", "approval", zeros⟩

/-- A governor whose trust accepts everything, at a checkpoint or at none. -/
def governor (checkpoint : Option JournalCheckpoint) : ResearchGovernor where
  journal :=
    { journalIdentity := "journal"
      epoch := "epoch"
      checkpoint := checkpoint
      trust := ⟨"trust", .engineeringSimulation, fun _ _ => .ok (), fun _ => .ok ()⟩ }

/-- The text of the acceptance of the plan. -/
def mark : List Char := eventText ((acceptanceOf (governor none) plan approval).provisional [])

/-- A hash that tells the acceptance from every other text. -/
def marked : Platform := ⟨fun _ => true, fun s => if s = mark then ⟨1, by decide⟩ else ⟨0, by decide⟩⟩

theorem asciiNormal_marked : AsciiNormal marked := fun _ _ => rfl

theorem constructed_plan : plan.Constructed marked ∧ approval.validateFor marked plan = .ok () :=
  ⟨by decide +kernel, by decide +kernel⟩

def assessment (i : Fin 10) : DimensionAssessment where
  dimension := dimensions.get i
  state := .pass
  evidenceRefs := ["evidence"]
  reasons := []
  known := List.get_mem _ _
  evidenceRefs_nonempty := by decide
  evidenceRefs_nodup := by decide
  evidenceRefs_identity := by decide
  explained := fun h => absurd rfl h

def qualification (level : QualificationLevel) (predecessor : Option String) : DatasetQualification where
  qualificationId := "atis:research:dataset-qualification:v1:" ++ zeros
  datasetId := "dataset"
  datasetVersion := "1"
  manifestDigest := zeros
  provenanceDigest := zeros
  policy := ⟨"policy", "1", "evidence", by decide, by decide, by decide⟩
  level := level
  claimCeiling := level.ceiling
  assessments := (List.finRange 10).map assessment
  coverage := ⟨⟨2024, 1, 1, by decide⟩, ⟨2026, 12, 31, by decide⟩, by decide⟩
  limitations := []
  predecessorQualificationId := predecessor
  lifecycle := .current
  invalidationReasons := []
  supersededBy := none

/-- A request of the holdout of the plan. -/
def request (requestId : String) : HoldoutRequest where
  plan := plan
  qualification := qualification .g3 (some ("atis:research:dataset-qualification:v1:" ++ zeros))
  qualificationPredecessors :=
    [qualification .g1 none, qualification .g2 (some ("atis:research:dataset-qualification:v1:" ++ zeros))]
  requestId := requestId
  approval := { approval with operation := "S4_08_HOLDOUT_ACCESS" }
  purpose := "confirmation"

/-- What the checks of a request read apart from its identity. -/
theorem request_ok :
    validateQualificationChain marked (request "").qualification (request "").qualificationPredecessors = .ok () ∧
    uniqueText "details" ((request "").proposal .authorizedAccess []).details = .ok () ∧ (request "").valid :=
  ⟨by decide +kernel, by decide +kernel, by decide +kernel⟩

theorem checkRequest_ok {checkpoint : Option JournalCheckpoint} {requestId : String}
    (h : Datasets.isIdentity (Text.chars requestId) = true) :
    (governor checkpoint).checkRequest marked (request requestId) = .ok () := by
  have hpurpose : text "purpose" "confirmation" = .ok () := by decide
  have hchain := request_ok.1
  rw [ResearchGovernor.checkRequest, show (request requestId).requestId = requestId from rfl, safeId_of_identity h, ok_bind,
    show (request requestId).purpose = "confirmation" from rfl, hpurpose, ok_bind]
  exact congrArg (fun x : Except Raised Unit => x >>= fun _ => Except.ok ()) hchain

theorem check_proposal {requestId : String} (h : Datasets.isIdentity (Text.chars ("holdout:" ++ requestId)) = true) :
    ((request requestId).proposal .authorizedAccess []).check = .ok () := by
  have hdisposition : text "disposition" "AUTHORIZED_ACCESS" = .ok () := by decide
  have hreasons : uniqueText "reasons" [] = .ok () := by decide
  have hdetails := request_ok.2.1
  simp only [Proposal.check, bind_eq_ok, Unique.exists_iff, PUnit.default_eq_unit]
  exact ⟨safeId_of_identity h, hdisposition, hreasons, hdetails⟩

/-- The journal of the acceptance of the plan and of the authorization of a request. -/
structure Journaled (requestId : String) (acceptance auth : JournalEvent) : Prop where
  accepted : recover marked (linked .empty acceptance) = .ok [acceptance]
  authorized : ((governor none).requestHoldout marked (request requestId)).run.eval (Disk.answer marked)
    (linked .empty acceptance) = (.ok ⟨.authorizedAccess, false, auth, .engineeringSimulation⟩,
      linked (linked .empty acceptance) auth)
  recovered : recover marked (linked (linked .empty acceptance) auth) = .ok [acceptance, auth]
  acceptanceId : acceptance.eventId = "plan:" ++ zeros
  authId : auth.eventId = "holdout:" ++ requestId
  sequence : auth.sequence = 2
  free : ∀ e ∈ [acceptance, auth], ∀ e' ∈ [acceptance, auth],
    marked.sha256 (eventText e) = marked.sha256 (eventText e') → eventText e = eventText e'

theorem exists_journaled {requestId : String} (h : Datasets.isIdentity (Text.chars requestId) = true)
    (h' : Datasets.isIdentity (Text.chars ("holdout:" ++ requestId)) = true) :
    ∃ acceptance auth, Journaled requestId acceptance auth := by
  obtain ⟨acceptance, hacceptance, -, hrecover⟩ := accept_first_plan (g := governor none) asciiNormal_marked
    constructed_plan.1 rfl constructed_plan.2 rfl rfl (by decide) fun _ _ => rfl
  have hvalid := request_ok.2.2
  obtain ⟨auth, hauth, heval, hrecovered⟩ := authorize_first_holdout (g := governor none) (r := request requestId)
    asciiNormal_marked constructed_plan.1 rfl constructed_plan.2 rfl hacceptance hrecover (checkRequest_ok h) hvalid
    (check_proposal h') rfl
  have hmark : eventText acceptance = mark := by
    rw [hacceptance.made]
    rfl
  refine ⟨acceptance, auth, hrecover, heval, hrecovered, congrArg JournalEvent.eventId hacceptance.made,
    congrArg JournalEvent.eventId hauth.made, hauth.sequence, ?_⟩
  -- only the text of the acceptance has its hash
  have hother (e : JournalEvent) (hsame : marked.sha256 mark = marked.sha256 (eventText e)) : eventText e = mark := by
    by_contra hne
    rw [marked] at hsame
    simp only [if_pos, if_neg hne] at hsame
    exact absurd (congrArg Fin.val hsame) (by decide)
  simp only [List.forall_mem_cons, List.not_mem_nil, false_imp_iff, implies_true, and_true, hmark, true_and]
  exact ⟨fun hsame => (hother auth hsame).symm, fun hsame => hother auth hsame.symm⟩

end Sample

end ATB.Proof.Governance
