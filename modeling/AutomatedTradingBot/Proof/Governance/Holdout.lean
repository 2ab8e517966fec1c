import AutomatedTradingBot.Proof.Governance.Acceptance
import AutomatedTradingBot.Proof.Governance.Checkpoints

/-!
# Consuming an authorised holdout

* `holdouts_of_semantics`: what a replay knows of authorizations and consumptions is in the
  history;
* `of_eval_request`: a request that records an authorization adds it to the history;
* `check_consumption`: the identity of a consumption fits when that of the request is short enough;
* `consume_holdout_iff`: when an authorization can be consumed exactly once.
-/

namespace ATB.Proof.Governance

open ATB.Governance ATB.Calls Canonical
open ATB.Governance.ResearchGovernor (HoldoutAccessRecord HoldoutRequest)

section Replay

variable {py : Platform} {events : List JournalEvent} {event : JournalEvent} {r r' : Replay}
  {details : List (String × String)} {plan : FrozenResearchPlan} {lineage : List String}

/-! ## One event -/

theorem replayPlan_holdouts (h : replayPlan py r event details = .ok r') :
    r'.authorizations = r.authorizations ∧ r'.consumed = r.consumed := by
  simp only [replayPlan, bind_eq_ok, raiseIf_eq_ok, exists_const, pure_eq_ok] at h
  obtain ⟨-, -, -, _, -, -, _, -, -, _, -, rfl⟩ := h
  exact ⟨rfl, rfl⟩

theorem replayAdmission_holdouts (h : replayAdmission r event plan lineage details = .ok r') :
    r'.authorizations = r.authorizations ∧ r'.consumed = r.consumed := by
  simp only [replayAdmission, bind_eq_ok, raiseIf_eq_ok, orRaise_eq_ok, exists_const] at h
  obtain ⟨_, -, -, -, _, -, h⟩ := h
  split at h <;> simp only [bind_eq_ok, raiseIf_eq_ok, orRaise_eq_ok, exists_const, pure_eq_ok] at h
  · obtain ⟨_, -, -, _, -, -, rfl⟩ := h
    exact ⟨rfl, rfl⟩
  · obtain ⟨-, _, -, -, rfl⟩ := h
    exact ⟨rfl, rfl⟩

theorem replayTransition_holdouts (h : replayTransition r event plan details = .ok r') :
    r'.authorizations = r.authorizations ∧ r'.consumed = r.consumed := by
  simp only [replayTransition, bind_eq_ok, raiseIf_eq_ok, orRaise_eq_ok, exists_const, pure_eq_ok] at h
  obtain ⟨_, -, -, -, _, -, _, -, -, -, rfl⟩ := h
  exact ⟨rfl, rfl⟩

theorem replayContamination_holdouts (h : replayContamination r event details = .ok r') :
    r'.authorizations = r.authorizations ∧ r'.consumed = r.consumed := by
  simp only [replayContamination, bind_eq_ok, raiseIf_eq_ok, exists_const, pure_eq_ok] at h
  obtain ⟨-, rfl⟩ := h
  exact ⟨rfl, rfl⟩

theorem replayRequest_eq_ok (h : replayRequest r event plan details = .ok r') :
    r' = { r with
      authorizations :=
        if event.kind = .holdoutAuthorized then Dict.set event.contentDigest event r.authorizations
        else r.authorizations } := by
  simp only [replayRequest, bind_eq_ok, raiseIf_eq_ok, orRaise_eq_ok, exists_const, pure_eq_ok] at h
  obtain ⟨-, -, _, -, -, rfl⟩ := h
  rfl

theorem replayConsumption_eq_ok (h : replayConsumption r event details = .ok r') :
    (∃ a, Dict.get? (detail "authorization_event_digest" details) r.authorizations = some a) ∧
      r' = { r with consumed := r.consumed ++ [detail "authorization_event_digest" details] } := by
  simp only [replayConsumption, bind_eq_ok, raiseIf_eq_ok, orRaise_eq_ok, exists_const, pure_eq_ok] at h
  obtain ⟨-, _, -, a, ha, -, _, -, -, -, rfl⟩ := h
  exact ⟨⟨a, ha⟩, rfl⟩

/-- What one event of a history leaves of authorizations and consumptions. -/
theorem replayEvent_holdouts (h : replayEvent py r event = .ok r') : ∃ details, detailMap event = .ok details ∧
    ((event.kind ≠ .holdoutConsumed ∧ r'.consumed = r.consumed ∧
        (r'.authorizations = r.authorizations ∨
          r'.authorizations = Dict.set event.contentDigest event r.authorizations)) ∨
      (event.kind = .holdoutConsumed ∧ r'.authorizations = r.authorizations ∧
        r'.consumed = r.consumed ++ [detail "authorization_event_digest" details] ∧
        ∃ a, Dict.get? (detail "authorization_event_digest" details) r.authorizations = some a)) := by
  rw [replayEvent] at h
  obtain ⟨details, hdetails, h⟩ := bind_eq_ok.mp h
  refine ⟨details, hdetails, ?_⟩
  split at h
  · rename_i hkind
    obtain ⟨ha, hc⟩ := replayPlan_holdouts h
    exact Or.inl ⟨by rw [hkind]; decide, hc, Or.inl ha⟩
  · simp only [bind_eq_ok, raiseIf_eq_ok, orRaise_eq_ok, exists_const] at h
    obtain ⟨plan, -, -, lineage, -, h⟩ := h
    split at h
    case h_1 => cases h
    case h_2 hkind =>
      obtain ⟨ha, hc⟩ := replayAdmission_holdouts h
      exact Or.inl ⟨by rw [hkind]; decide, hc, Or.inl ha⟩
    case h_3 hkind | h_4 hkind | h_5 hkind | h_6 hkind =>
      obtain ⟨ha, hc⟩ := replayTransition_holdouts h
      exact Or.inl ⟨by rw [hkind]; decide, hc, Or.inl ha⟩
    case h_7 hkind | h_8 hkind =>
      cases replayRequest_eq_ok h
      refine Or.inl ⟨by rw [hkind]; decide, rfl, ?_⟩
      by_cases hk : event.kind = .holdoutAuthorized
      · exact Or.inr (if_pos hk)
      · exact Or.inl (if_neg hk)
    case h_9 hkind =>
      obtain ⟨ha, rfl⟩ := replayConsumption_eq_ok h
      exact Or.inr ⟨hkind, rfl, rfl, ha⟩
    case h_10 hkind =>
      obtain ⟨ha, hc⟩ := replayContamination_holdouts h
      exact Or.inl ⟨by rw [hkind]; decide, hc, Or.inl ha⟩

/-! ## A history -/

/-- Authorizations and consumptions are of events of the history. -/
structure Holdouts (events : List JournalEvent) (r : Replay) : Prop where
  authorized : ∀ p ∈ r.authorizations, p.2 ∈ events ∧ p.2.contentDigest = p.1
  consumed : ∀ d ∈ r.consumed, ∃ e ∈ events, e.contentDigest = d
  named : ∀ e ∈ events, e.kind = .holdoutConsumed → ∀ d, ("authorization_event_digest=" ++ d) ∈ e.details → d ∈ r.consumed

theorem holdouts_step (h : replayEvent py r event = .ok r') (hr : Holdouts events r) : Holdouts (events ++ [event]) r' := by
  have hlater : ∀ e ∈ events, e ∈ events ++ [event] := fun e he => List.mem_append_left _ he
  have hlast : event ∈ events ++ [event] := List.mem_append_right _ (List.mem_singleton_self _)
  obtain ⟨details, hdetails, ⟨hkind, hc, ha⟩ | ⟨hkind, ha, hc, a, hget⟩⟩ := replayEvent_holdouts h
  · refine ⟨fun p hp => ?_, fun d hd => ?_, fun e he hk d hd => ?_⟩
    · rcases ha with ha | ha
      · exact (hr.authorized p (ha ▸ hp)).imp_left (hlater _)
      · rw [ha] at hp
        rcases Dict.mem_set hp with rfl | hp
        · exact ⟨hlast, rfl⟩
        · exact (hr.authorized p hp).imp_left (hlater _)
    · obtain ⟨e, he, hd⟩ := hr.consumed d (hc ▸ hd)
      exact ⟨e, hlater e he, hd⟩
    · rcases List.mem_append.mp he with he | he
      · exact hc ▸ hr.named e he hk d hd
      · rw [List.mem_singleton.mp he] at hk
        exact absurd hk hkind
  · have hauthorized := hr.authorized _ (Dict.mem_of_get? hget)
    refine ⟨fun p hp => (hr.authorized p (ha ▸ hp)).imp_left (hlater _), fun d hd => ?_, fun e he hk d hd => ?_⟩
    · rw [hc, List.mem_append, List.mem_singleton] at hd
      rcases hd with hd | rfl
      · obtain ⟨e, he, hd⟩ := hr.consumed d hd
        exact ⟨e, hlater e he, hd⟩
      · exact ⟨a, hlater a hauthorized.1, hauthorized.2⟩
    · rw [hc, List.mem_append, List.mem_singleton]
      rcases List.mem_append.mp he with he | he
      · exact Or.inl (hr.named e he hk d hd)
      · rw [List.mem_singleton.mp he] at hd
        exact Or.inr (detail_of_mem hdetails (by decide) hd).symm

/-- What a replay knows of holdouts is in the history. -/
theorem holdouts_of_semantics (h : validateSemantics py events = .ok r) : Holdouts events r := by
  have hrun : ∀ {rest before : List JournalEvent} {r₀ : Replay}, Holdouts before r₀ →
      rest.foldlM (replayEvent py) r₀ = .ok r → Holdouts (before ++ rest) r := by
    intro rest
    induction rest with
    | nil =>
      rintro before r₀ hr ⟨⟩
      rwa [List.append_nil]
    | cons e rest ih =>
      intro before r₀ hr h
      obtain ⟨r₁, hstep, hrest⟩ := bind_eq_ok.mp h
      have hnext := ih (holdouts_step hstep hr) hrest
      rwa [List.append_assoc] at hnext
  exact @hrun events [] _ ⟨fun _ h => absurd h List.not_mem_nil, fun _ h => absurd h List.not_mem_nil,
    fun _ h => absurd h List.not_mem_nil⟩ h

end Replay

/-! ## The consumption -/

section Consumption

variable {py : Platform} {g : ResearchGovernor} {plan : FrozenResearchPlan} {auth : JournalEvent} {disk disk' : Disk}
  {events : List JournalEvent} {details : List (String × String)} {record : HoldoutAccessRecord}

/-- What `consume_holdout` asks `_append` to add. -/
def consumptionOf (plan : FrozenResearchPlan) (auth : JournalEvent) (details : List (String × String)) : Proposal where
  eventId := "holdout-consumption:" ++ auth.eventId
  kind := .holdoutConsumed
  experimentId := plan.experimentId
  runId := none
  plan := plan
  disposition := "CONSUMED_NO_DELIVERY"
  reasons := ["production delivery not established"]
  details := ["authorization_event_digest=" ++ auth.contentDigest, "authorization_event_id=" ++ auth.eventId,
    "dataset=" ++ detail "dataset" details, "partition=" ++ detail "partition" details,
    "version=" ++ detail "version" details]

theorem eval_consumeHoldout : (g.consumeHoldout py plan auth).run.eval (Disk.answer py) disk = (.ok record, disk') ↔
    ∃ events details event, recover py disk = .ok events ∧ g.checkConsumption plan auth events = .ok () ∧
      detailMap auth = .ok details ∧
      ((consumptionOf plan auth details).append py).run.eval (Disk.answer py) disk = (.ok event, disk') ∧
      record = ⟨.authorizedAccess, false, event, g.journal.trust.assuranceMode⟩ := by
  rw [ResearchGovernor.consumeHoldout]
  simp only [eval_bind_eq_ok, eval_history, eval_lift_eq_ok, eval_pure, Prod.mk.injEq, Except.ok.injEq]
  constructor
  · rintro ⟨events, _, ⟨hrecover, rfl⟩, ⟨⟩, _, ⟨hcheck, rfl⟩, details, _, ⟨hdetails, rfl⟩, event, _, happend, rfl, rfl⟩
    exact ⟨events, details, event, hrecover, hcheck, hdetails, happend, rfl⟩
  · rintro ⟨events, details, event, hrecover, hcheck, hdetails, happend, rfl⟩
    exact ⟨events, _, ⟨hrecover, rfl⟩, (), _, ⟨hcheck, rfl⟩, details, _, ⟨hdetails, rfl⟩, event, _, happend, rfl, rfl⟩

/-- The digest of the authorization stands in a consumption of the history. -/
abbrev Named (auth : JournalEvent) (events : List JournalEvent) : Prop :=
  ∃ e ∈ events, e.kind = .holdoutConsumed ∧ ("authorization_event_digest=" ++ auth.contentDigest) ∈ e.details

/-- An authorization that was consumed is refused. -/
theorem eval_consumeHoldout_of_named (h : recover py disk = .ok events) (hnamed : Named auth events) :
    (g.consumeHoldout py plan auth).run.eval (Disk.answer py) disk =
      (.error (.governance "holdout authorization already consumed"), disk) := by
  have hhistory : (Action.history .governor).run.eval (Disk.answer py) disk = (.ok events, disk) := by rw [eval_history, h]
  have hcheck : g.checkConsumption plan auth events = .error (.governance "holdout authorization already consumed") := by
    rw [ResearchGovernor.checkConsumption, raiseIf_of hnamed]
    rfl
  rw [ResearchGovernor.consumeHoldout, eval_bind_ok hhistory,
    eval_bind_error (eval_lift.trans (congrArg (·, disk) hcheck))]

/-- A governor that was opened with a trusted checkpoint at exactly the event. -/
structure ReopenedAt (g : ResearchGovernor) (e : JournalEvent) (checkpoint : JournalCheckpoint) : Prop
    extends OpenedAt g.journal checkpoint where
  sequence : checkpoint.acceptedSequence = e.sequence
  terminal : checkpoint.terminalDigest = some e.contentDigest

/-- The last event of a history can be consumed when it is an authorization that no consumption names. -/
theorem checkConsumption_ok {checkpoint : JournalCheckpoint} (hreopened : ReopenedAt g auth checkpoint)
    (hsequence : auth.sequence = events.length + 1) (hkind : auth.kind = .holdoutAuthorized)
    (hdisposition : auth.disposition = HoldoutDecision.authorizedAccess.value) (hplan : auth.planDigest = plan.planDigest)
    (hnamed : ¬ Named auth (events ++ [auth])) : g.checkConsumption plan auth (events ++ [auth]) = .ok () := by
  have hmem : auth ∈ events ++ [auth] := List.mem_append_right _ (List.mem_singleton_self _)
  have hlength : checkpoint.acceptedSequence = (events ++ [auth]).length := by
    rw [hreopened.sequence, hsequence, List.length_append, List.length_singleton]
  have ht : Trusted checkpoint (events ++ [auth]) := by
    refine ⟨le_of_eq hlength, ?_⟩
    rw [hreopened.sequence, hsequence, if_neg (Nat.succ_ne_zero _), Nat.add_sub_cancel, List.getElem?_concat_length,
      hreopened.terminal]
    rfl
  have hstate : g.journal.historyTrustState (events ++ [auth]) = .ok .checkpointedHistory :=
    (historyTrustState_of_trusted hreopened.toOpenedAt ht).trans (congrArg Except.ok (if_pos hlength))
  have htrusted : g.journal.requireCheckpointed (events ++ [auth]) = .ok () := by
    rw [ResearchJournal.requireCheckpointed, hstate, ok_bind]
    exact raiseIf_of_not (by decide)
  rw [ResearchGovernor.checkConsumption, raiseIf_of_not hnamed, ok_bind,
    raiseIf_of_not (not_or.mpr ⟨not_not.mpr hkind, not_or.mpr ⟨not_not.mpr hdisposition,
      not_or.mpr ⟨not_not.mpr hplan, not_not.mpr hmem⟩⟩⟩), ok_bind, htrusted, ok_bind]
  exact raiseIf_of_not (not_not.mpr ⟨checkpoint, hreopened.given, hreopened.sequence, hreopened.terminal⟩)

end Consumption

/-! ## The request -/

section Request

variable {py : Platform} {g : ResearchGovernor} {r : HoldoutRequest} {auth : JournalEvent} {disk disk' : Disk}
  {events : List JournalEvent} {record : HoldoutAccessRecord}

/-- The lineage of a plan begins with the plans that were collected before. -/
theorem prefix_lineageFrom {plans : List (String × FrozenResearchPlan)} {rounds : Nat} {result lineage : List FrozenResearchPlan}
    {cursor : Option FrozenResearchPlan} (h : lineageFrom plans rounds result cursor = some lineage) : result <+: lineage := by
  induction rounds generalizing result cursor with
  | zero =>
    cases cursor with
    | none => cases h; exact List.prefix_refl _
    | some cursor => cases h
  | succ rounds ih =>
    cases cursor with
    | none => cases h; exact List.prefix_refl _
    | some cursor =>
      rw [lineageFrom] at h
      split at h
      · cases h
      · exact (List.prefix_append _ _).trans (ih h)

theorem mem_lineageOf {plans : List (String × FrozenResearchPlan)} {plan : FrozenResearchPlan} {lineage : List FrozenResearchPlan}
    (h : lineageOf plans plan = some lineage) : plan ∈ lineage := by
  rw [lineageOf, lineageFrom, if_neg (by simp)] at h
  exact (prefix_lineageFrom h).subset (by simp)

/-- The events of a plan hold those of the history that name the plan itself. -/
theorem eval_planEvents {plan : FrozenResearchPlan} {chosen : List JournalEvent}
    (heval : (g.planEvents py plan).run.eval (Disk.answer py) disk = (.ok chosen, disk')) :
    disk' = disk ∧ ∃ events, recover py disk = .ok events ∧ ∀ e ∈ events, e.planDigest = plan.planDigest → e ∈ chosen := by
  simp only [ResearchGovernor.planEvents, ResearchGovernor.lineage, ResearchGovernor.acceptedPlans, eval_bind_eq_ok,
    eval_history, eval_lift_eq_ok, eval_pure, Prod.mk.injEq, Except.ok.injEq] at heval
  obtain ⟨lineage, _, ⟨plans, _, ⟨_, _, ⟨-, rfl⟩, -, rfl⟩, hlineage, rfl⟩, events, _, ⟨hrecover, rfl⟩, rfl, rfl⟩ := heval
  refine ⟨rfl, events, hrecover, fun e he hplan => ?_⟩
  simp only [ResearchGovernor.lineageIn, bind_eq_ok, raiseIf_eq_ok, orRaise_eq_ok, exists_const] at hlineage
  rw [List.mem_filter, decide_eq_true_eq, hplan]
  exact ⟨he, List.mem_map_of_mem (mem_lineageOf hlineage.2)⟩

/-- A request that records an authorization adds it to the history. -/
theorem of_eval_request (h : (g.requestHoldout py r).run.eval (Disk.answer py) disk = (.ok record, disk'))
    (hauthorized : record.decision = .authorizedAccess) : (r.proposal .authorizedAccess []).check = .ok () ∧
      ∃ events, recover py disk = .ok events ∧ Appends py (r.proposal .authorizedAccess []) events record.event ∧
        recover py disk' = .ok (events ++ [record.event]) := by
  rw [ResearchGovernor.requestHoldout] at h
  obtain ⟨⟨⟩, s, h₁, h⟩ := eval_bind_eq_ok.mp h
  obtain ⟨-, rfl⟩ := eval_lift_eq_ok.mp h₁
  obtain ⟨chosen, s, h₂, h⟩ := eval_bind_eq_ok.mp h
  have hdecide : r.decide chosen = (record.decision, (r.decide chosen).2) ∧
      ∃ event, ((r.proposal record.decision (r.decide chosen).2).append py).run.eval (Disk.answer py) s = (.ok event, disk') ∧
        record.event = event := by
    generalize hd : r.decide chosen = decided at h
    obtain ⟨decision, reasons⟩ := decided
    obtain ⟨event, s', happend, hrecord⟩ := eval_bind_eq_ok.mp h
    obtain ⟨he, rfl⟩ := Prod.mk.inj (eval_pure.symm.trans hrecord)
    cases he
    exact ⟨rfl, event, happend, rfl⟩
  obtain ⟨hdecide, event, happend, rfl⟩ := hdecide
  rw [hauthorized] at hdecide happend
  obtain ⟨rfl, known, hknown, hchosen⟩ := eval_planEvents h₂
  -- the decision is made on a history without an authorization of the dataset
  have hdecided : (¬ ∃ e ∈ chosen, ResearchGovernor.isAuthorization r.plan e) ∧ (r.decide chosen).2 = [] := by
    rw [HoldoutRequest.decide] at hdecide ⊢
    split at hdecide
    · cases congrArg Prod.fst hdecide
    · split at hdecide
      · cases congrArg Prod.fst hdecide
      · rename_i hnone hvalid
        exact ⟨hnone, by rw [if_neg hnone, if_neg hvalid]⟩
  rw [hdecided.2] at happend
  obtain ⟨hcheck, events, hrecover, ⟨hmem, -, hsame, -⟩ | ⟨happends, -, hlinked⟩⟩ := of_eval_append happend
  · cases hknown.symm.trans hrecover
    have hkind : record.event.kind = .holdoutAuthorized := congrArg JournalEvent.kind hsame
    have hdetails : record.event.details = (r.proposal .authorizedAccess []).details := congrArg JournalEvent.details hsame
    have hplan : record.event.planDigest = r.plan.planDigest := congrArg JournalEvent.planDigest hsame
    refine absurd ⟨record.event, hchosen _ hmem hplan, hkind, ?_⟩ hdecided.1
    rw [hdetails]
    exact List.mem_cons_self
  · exact ⟨hcheck, events, hrecover, happends, hlinked⟩

end Request

/-! ## After an authorization -/

section Authorized

variable {py : Platform} {r : HoldoutRequest} {auth : JournalEvent} {events : List JournalEvent}

/-- The items of the details of a consumption. -/
def consumptionItems (r : HoldoutRequest) (auth : JournalEvent) : List (String × String) :=
  [("authorization_event_digest", auth.contentDigest), ("authorization_event_id", auth.eventId),
    ("dataset", r.plan.datasetId), ("partition", r.plan.partitionRole.value), ("version", r.plan.datasetVersion)]

theorem details_consumption : (consumptionOf r.plan auth (requestItems r)).details = itemsOf (consumptionItems r auth) := rfl

theorem details_consumption' : (consumptionOf r.plan auth (requestItems r)).details =
    ["authorization_event_digest=" ++ auth.contentDigest, "authorization_event_id=" ++ auth.eventId,
      "dataset=" ++ r.plan.datasetId, "partition=" ++ r.plan.partitionRole.value, "version=" ++ r.plan.datasetVersion] := rfl

theorem keys_consumption : Keys (consumptionItems r auth) :=
  ⟨by simp [consumptionItems], by simp [consumptionItems], by simp [consumptionItems]⟩

/-- The prefix that a consumption puts before the identity of its authorization leaves room for 227
characters of the request. -/
theorem identity_consumption {request : String} (h : Datasets.isIdentity (Text.chars ("holdout:" ++ request)) = true) :
    Datasets.isIdentity (Text.chars ("holdout-consumption:" ++ ("holdout:" ++ request))) = true ↔
      (Text.chars request).length ≤ 227 := by
  have hchars : Text.chars ("holdout-consumption:" ++ ("holdout:" ++ request)) =
      'h' :: ("oldout-consumption:holdout:".toList ++ request.toList) := by
    simp only [Text.chars_eq, String.toList_append]
    rfl
  have hrequest : ∀ c ∈ request.toList, Datasets.isIdChar c = true := fun c hc =>
    isIdChar_of_identity h c (by
      rw [Text.chars_eq, String.toList_append]
      exact List.mem_append_right _ hc)
  have hlead : ∀ c ∈ "oldout-consumption:holdout:".toList, Datasets.isIdChar c = true :=
    List.all_eq_true.mp (by decide)
  have hlength : "oldout-consumption:holdout:".toList.length = 27 := by decide
  rw [hchars, Datasets.isIdentity, Text.chars_eq]
  simp only [Bool.and_eq_true, List.all_eq_true, decide_eq_true_eq, List.length_append, hlength]
  constructor
  · rintro ⟨-, hle⟩
    omega
  · intro hle
    refine ⟨⟨by decide, fun c hc => ?_⟩, by omega⟩
    rcases List.mem_append.mp hc with hc | hc
    · exact hlead c hc
    · exact hrequest c hc

/-- What the replay of an authorization leaves: its plan is accepted, and it is known by its digest. -/
theorem replay_authorization {r₀ r₁ : Replay} (hkind : auth.kind = .holdoutAuthorized)
    (h : replayEvent py r₀ auth = .ok r₁) :
    (∃ plan lineage, Dict.get? auth.planDigest r₀.plans = some plan ∧ auth.experimentId = plan.experimentId.value ∧
      lineageOf r₀.plans plan = some lineage) ∧
      r₁ = { r₀ with authorizations := Dict.set auth.contentDigest auth r₀.authorizations } := by
  rw [replayEvent] at h
  obtain ⟨details, -, h⟩ := bind_eq_ok.mp h
  rw [if_neg (by rw [hkind]; decide)] at h
  simp only [bind_eq_ok, raiseIf_eq_ok, orRaise_eq_ok, exists_const, not_not] at h
  obtain ⟨plan, hplan, hexperiment, lineage, hlineage, h⟩ := h
  refine ⟨⟨plan, lineage, hplan, hexperiment, hlineage⟩, ?_⟩
  rw [hkind] at h
  dsimp only at h
  have hr := replayRequest_eq_ok h
  rwa [if_pos hkind] at hr

/-- A consumption that names a known authorization, which was not consumed. -/
theorem replayConsumption_ok {r₁ : Replay} {cons : JournalEvent} (hrun : cons.runId = none)
    (hdisposition : cons.disposition = "CONSUMED_NO_DELIVERY") (hreasons : cons.reasons = ["production delivery not established"])
    (hknown : Dict.get? auth.contentDigest r₁.authorizations = some auth) (hplan : auth.planDigest = cons.planDigest)
    (hexperiment : auth.experimentId = cons.experimentId) (hauth : detailMap auth = .ok (requestItems r))
    (hdigest : auth.digest py = .ok auth.contentDigest) (hconsumed : auth.contentDigest ∉ r₁.consumed) :
    replayConsumption r₁ cons (consumptionItems r auth) = .ok { r₁ with consumed := r₁.consumed ++ [auth.contentDigest] } := by
  have hare : detailsAre ["authorization_event_digest", "authorization_event_id", "dataset", "partition", "version"]
      (consumptionItems r auth) = true := rfl
  have hname : detail "authorization_event_digest" (consumptionItems r auth) = auth.contentDigest := rfl
  have hid : detail "authorization_event_id" (consumptionItems r auth) = auth.eventId := rfl
  have hsame : ¬ ∃ name ∈ ["dataset", "partition", "version"],
      detail name (consumptionItems r auth) ≠ detail name (requestItems r) := by
    simp only [List.mem_cons, List.not_mem_nil, or_false, exists_eq_or_imp, exists_eq_left, not_or, not_not]
    exact ⟨rfl, rfl, rfl⟩
  obtain ⟨t, ht⟩ := contentDigest_eq hdigest
  have htext : digestText "authorization_event_digest" auth.contentDigest = .ok () := by
    rw [ht]
    exact digestText_digest _ t
  rw [replayConsumption, raiseIf_of_not (by rw [hrun, hare, hdisposition, hreasons]; simp), ok_bind]
  dsimp only
  rw [hname, htext, ok_bind, hknown, orRaise, ok_bind, hid,
    raiseIf_of_not (not_or.mpr ⟨not_not.mpr rfl, not_or.mpr ⟨not_not.mpr hplan, not_not.mpr hexperiment⟩⟩), ok_bind, hauth,
    ok_bind, raiseIf_of_not hsame, ok_bind, raiseIf_of_not hconsumed]
  rfl

/-- The replay of a consumption after its authorization. -/
theorem replay_consumption {r₀ r₁ : Replay} {cons : JournalEvent} (happends : Appends py (r.proposal .authorizedAccess []) events auth)
    (h : replayEvent py r₀ auth = .ok r₁) (hconsumed : auth.contentDigest ∉ r₁.consumed)
    (hcons : cons = { (consumptionOf r.plan auth (requestItems r)).provisional (events ++ [auth]) with
      contentDigest := cons.contentDigest }) :
    replayEvent py r₁ cons = .ok { r₁ with consumed := r₁.consumed ++ [auth.contentDigest] } := by
  have hplan : auth.planDigest = cons.planDigest := (congrArg JournalEvent.planDigest happends.made).trans
    (congrArg JournalEvent.planDigest hcons).symm
  have hexperiment : auth.experimentId = cons.experimentId := (congrArg JournalEvent.experimentId happends.made).trans
    (congrArg JournalEvent.experimentId hcons).symm
  have hkind : cons.kind = .holdoutConsumed := congrArg JournalEvent.kind hcons
  have hdetails : detailMap cons = .ok (consumptionItems r auth) :=
    detailMap_eq (congrArg JournalEvent.details hcons) keys_consumption
  have hauth := detailMap_authorization happends
  obtain ⟨⟨plan, lineage, hget, hsame, hlineage⟩, rfl⟩ := replay_authorization
    (congrArg JournalEvent.kind happends.made) h
  have hlast := replayConsumption_ok (congrArg JournalEvent.runId hcons) (congrArg JournalEvent.disposition hcons)
    (congrArg JournalEvent.reasons hcons) (Dict.get?_set_self auth.contentDigest auth r₀.authorizations) hplan hexperiment
    hauth happends.digest hconsumed
  rw [replayEvent, hdetails, ok_bind, if_neg (by rw [hkind]; decide), ← hplan, hget, orRaise, ok_bind, ← hexperiment,
    raiseIf_of_not (not_not.mpr hsame), ok_bind, hlineage, orRaise, ok_bind, hkind]
  exact hlast

/-- The replay of a history, and of the authorization at its end. -/
theorem exists_replay {r₁ : Replay} (h : validateSemantics py (events ++ [auth]) = .ok r₁) :
    ∃ r₀, validateSemantics py events = .ok r₀ ∧ replayEvent py r₀ auth = .ok r₁ := by
  rw [validateSemantics, List.foldlM_append] at h
  obtain ⟨r₀, hr₀, h⟩ := bind_eq_ok.mp h
  obtain ⟨r, hr, ⟨⟩⟩ := bind_eq_ok.mp h
  exact ⟨r₀, hr₀, hr⟩

/-- Nothing before the authorization has its digest, so nothing consumes it. -/
theorem not_consumed {r₁ : Replay} (happends : Appends py (r.proposal .authorizedAccess []) events auth)
    (hhistory : History py (events ++ [auth])) (hfree : CollisionFree py (events ++ [auth]) (events ++ [auth]))
    (h : validateSemantics py (events ++ [auth]) = .ok r₁) : auth.contentDigest ∉ r₁.consumed := by
  intro hin
  obtain ⟨r₀, hr₀, hauth⟩ := exists_replay h
  obtain ⟨-, rfl⟩ := replay_authorization (congrArg JournalEvent.kind happends.made) hauth
  obtain ⟨e, he, hdigest⟩ := (holdouts_of_semantics hr₀).consumed _ hin
  have hlast : auth ∈ events ++ [auth] := List.mem_append_right _ (List.mem_singleton_self _)
  obtain rfl : e = auth := tagsTell_of_collisionFree hhistory hhistory hfree e (List.mem_append_left _ he) auth hlast hdigest
  exact happends.fresh e he (congrArg JournalEvent.eventId happends.made)

theorem not_named (happends : Appends py (r.proposal .authorizedAccess []) events auth)
    (hhistory : History py (events ++ [auth])) (hfree : CollisionFree py (events ++ [auth]) (events ++ [auth])) :
    ¬ Named auth (events ++ [auth]) := by
  rintro ⟨e, he, hkind, hitem⟩
  obtain ⟨r₁, hr₁⟩ := happends.semantics
  exact not_consumed happends hhistory hfree hr₁ ((holdouts_of_semantics hr₁).named e he hkind _ hitem)

theorem textsOf_consumption : textsOf ((consumptionOf r.plan auth (requestItems r)).provisional (events ++ [auth])) =
    [r.plan.ownerApprovalReference, "CONSUMED_NO_DELIVERY", "holdout-consumption:" ++ auth.eventId,
      r.plan.experimentId.value, "HOLDOUT_CONSUMED", r.plan.planDigest, r.plan.policyIdentity,
      "authorization_event_digest=" ++ auth.contentDigest, "authorization_event_id=" ++ auth.eventId,
      "dataset=" ++ r.plan.datasetId, "partition=" ++ r.plan.partitionRole.value, "version=" ++ r.plan.datasetVersion,
      "production delivery not established", auth.contentDigest] := by
  have hlast : (events ++ [auth]).getLast?.map JournalEvent.contentDigest = some auth.contentDigest := by
    rw [List.getLast?_concat, Option.map_some]
  rw [textsOf, Proposal.provisional, hlast]
  rfl

/-- The texts of a consumption are taken. -/
theorem canonical_consumption (hnfc : AsciiNormal py) (happends : Appends py (r.proposal .authorizedAccess []) events auth)
    (hid : Datasets.isIdentity (Text.chars ("holdout-consumption:" ++ auth.eventId)) = true) :
    ∀ s ∈ textsOf ((consumptionOf r.plan auth (requestItems r)).provisional (events ++ [auth])),
      py.canonicalValue (.str s) = .ok () := by
  obtain ⟨t, ht⟩ := contentDigest_eq happends.digest
  have hbody : py.canonicalValue (.obj auth.fields) = .ok () := by
    have hdigest := happends.digest
    rw [JournalEvent.digest, Raised.ofOutcome, mapError_eq_ok, Platform.digest] at hdigest
    obtain ⟨_, hcanonical, -⟩ := bind_eq_ok.mp hdigest
    exact (py.canonicalJson_eq_ok.mp hcanonical).1
  have hrequest : ∀ s ∈ textsOf ((r.proposal .authorizedAccess []).provisional events), py.canonicalValue (.str s) = .ok () :=
    (congrArg textsOf happends.made).trans rfl ▸ (canonical_fields hnfc).mp hbody
  have hauthId : Plain auth.eventId.toList ∧ Plain auth.contentDigest.toList := by
    have hplain := plain_of_identity hid
    rw [Text.chars_eq, String.toList_append, plain_append] at hplain
    refine ⟨hplain.2, ?_⟩
    rw [ht]
    exact plain_digest t
  -- the texts that the authorization does not have
  have hplain {s : String} (hne : s ≠ "") (h : Plain s.toList) : py.canonicalValue (.str s) = .ok () :=
    canonical_of_plain hnfc hne h
  have hitem {lead value : String} (hlead : lead ≠ "") (hl : Plain lead.toList) (hv : Plain value.toList) :
      py.canonicalValue (.str (lead ++ value)) = .ok () := hplain (append_ne_empty hlead) (plain_concat hl hv)
  have hascii : "production delivery not established".toList.all (fun c => decide (c.toNat < 128)) = true := by decide
  have hreason : py.canonicalValue (.str "production delivery not established") = .ok () :=
    canonical_str.mpr (Canonical.text_eq_ok.mpr ⟨by decide, by decide, hnfc _ fun c hc =>
      of_decide_eq_true (List.all_eq_true.mp hascii c hc)⟩)
  simp only [textsOf, HoldoutRequest.proposal, Proposal.provisional, List.forall_mem_cons, List.forall_mem_append] at hrequest
  obtain ⟨⟨⟨⟨⟨happroval, -, -, hexperiment, -, hdigest, hpolicy, -⟩, hdataset, hversion, hpartition, -⟩, -⟩, -⟩, -⟩ := hrequest
  have hdisposition : py.canonicalValue (.str "CONSUMED_NO_DELIVERY") = .ok () := hplain (by decide) (by decide)
  have hkind : py.canonicalValue (.str "HOLDOUT_CONSUMED") = .ok () := hplain (by decide) (by decide)
  have hevent : py.canonicalValue (.str ("holdout-consumption:" ++ auth.eventId)) = .ok () :=
    hitem (by decide) (by decide) hauthId.1
  have hnamed : py.canonicalValue (.str ("authorization_event_digest=" ++ auth.contentDigest)) = .ok () :=
    hitem (by decide) (by decide) hauthId.2
  have hnamed' : py.canonicalValue (.str ("authorization_event_id=" ++ auth.eventId)) = .ok () :=
    hitem (by decide) (by decide) hauthId.1
  have hprevious : py.canonicalValue (.str auth.contentDigest) = .ok () := by
    rw [ht]
    exact hplain (digest_ne_empty t) (plain_digest t)
  rw [textsOf_consumption]
  simp only [List.forall_mem_cons, List.not_mem_nil, false_imp_iff, implies_true, and_true]
  exact ⟨happroval, hdisposition, hevent, hexperiment, hkind, hdigest, hpolicy, hnamed, hnamed', hdataset, hpartition,
    hversion, hreason, hprevious⟩

/-- What the arguments of a consumption go through. -/
theorem check_consumption (happends : Appends py (r.proposal .authorizedAccess []) events auth)
    (hcheck : (r.proposal .authorizedAccess []).check = .ok ()) :
    (consumptionOf r.plan auth (requestItems r)).check = .ok () ↔ (Text.chars r.requestId).length ≤ 227 := by
  have hid : auth.eventId = "holdout:" ++ r.requestId := congrArg JournalEvent.eventId happends.made
  simp only [Proposal.check, bind_eq_ok, Unique.exists_iff, PUnit.default_eq_unit] at hcheck ⊢
  obtain ⟨hevent, -, -, hdetails⟩ := hcheck
  have hrequest : Datasets.isIdentity (Text.chars ("holdout:" ++ r.requestId)) = true := (safeId_eq_ok.mp hevent).2
  rw [← identity_consumption hrequest, ← hid]
  constructor
  · rintro ⟨hsafe, -⟩
    exact (safeId_eq_ok.mp hsafe).2
  · intro hidentity
    obtain ⟨t, ht⟩ := contentDigest_eq happends.digest
    have hplain : Plain auth.eventId.toList := by
      rw [hid]
      exact (plain_of_safeId hevent).2
    have hitem {lead value : String} (hlead : lead ≠ "") (hl : Plain lead.toList) (hv : Plain value.toList) :
        text "details" (lead ++ value) = .ok () := text_of_plain (append_ne_empty hlead) (plain_concat hl hv)
    have hgiven : ∀ v ∈ (r.proposal .authorizedAccess []).details, text "details" v = .ok () := (uniqueText_eq_ok.mp hdetails).2
    simp only [HoldoutRequest.proposal, List.forall_mem_cons, List.not_mem_nil, false_imp_iff, implies_true, and_true] at hgiven
    obtain ⟨hdataset, hversion, hpartition, -⟩ := hgiven
    have hdisposition : text "disposition" "CONSUMED_NO_DELIVERY" = .ok () := text_eq_ok.mpr (by decide)
    have hreasons : uniqueText "reasons" ["production delivery not established"] = .ok () := by decide
    refine ⟨safeId_of_identity hidentity, hdisposition, hreasons,
      uniqueText_eq_ok.mpr ⟨nodup_itemsOf keys_consumption, ?_⟩⟩
    · rw [details_consumption']
      simp only [List.forall_mem_cons, List.not_mem_nil, false_imp_iff, implies_true, and_true]
      refine ⟨hitem (by decide) (by decide) ?_, hitem (by decide) (by decide) hplain, hdataset, hpartition, hversion⟩
      rw [ht]
      exact plain_digest t

/-- The event that a consumption adds. -/
theorem exists_consumption (hnfc : AsciiNormal py) (happends : Appends py (r.proposal .authorizedAccess []) events auth)
    (hcheck : (r.proposal .authorizedAccess []).check = .ok ()) (hhistory : History py (events ++ [auth]))
    (hfree : CollisionFree py (events ++ [auth]) (events ++ [auth])) (hlength : (Text.chars r.requestId).length ≤ 227)
    (hfresh : "holdout-consumption:" ++ auth.eventId ∉ (events ++ [auth]).map JournalEvent.eventId) :
    ∃ cons, Appends py (consumptionOf r.plan auth (requestItems r)) (events ++ [auth]) cons ∧ Checked cons := by
  have hcheck' := (check_consumption happends hcheck).mpr hlength
  have hid : Datasets.isIdentity (Text.chars ("holdout-consumption:" ++ auth.eventId)) = true := by
    simp only [Proposal.check, bind_eq_ok, Unique.exists_iff, PUnit.default_eq_unit] at hcheck'
    exact (safeId_eq_ok.mp hcheck'.1).2
  have hcanonical := canonical_consumption hnfc happends hid
  obtain ⟨r₁, hr₁⟩ := happends.semantics
  obtain ⟨r₀, -, hauth⟩ := exists_replay hr₁
  have hlast : auth ∈ events ++ [auth] := List.mem_append_right _ (List.mem_singleton_self _)
  have hauthChecked := hhistory.checked auth hlast
  have hexperiment : text "experiment_id" r.plan.experimentId.value = .ok () := by
    have h := hauthChecked.experimentId
    rwa [show auth.experimentId = r.plan.experimentId.value from congrArg JournalEvent.experimentId happends.made] at h
  have hplan : digestText "plan_digest" r.plan.planDigest = .ok () := by
    have h := hauthChecked.planDigest
    rwa [show auth.planDigest = r.plan.planDigest from congrArg JournalEvent.planDigest happends.made] at h
  have hpolicy : safeId "policy_identity" r.plan.policyIdentity = .ok () := by
    have h := hauthChecked.policyIdentity
    rwa [show auth.policyIdentity = r.plan.policyIdentity from congrArg JournalEvent.policyIdentity happends.made] at h
  have happroval : safeId "approval_reference" r.plan.ownerApprovalReference = .ok () := by
    have h := hauthChecked.approvalReference
    rwa [show auth.approvalReference = r.plan.ownerApprovalReference from
      congrArg JournalEvent.approvalReference happends.made] at h
  have hwritable : Writable py (consumptionOf r.plan auth (requestItems r)) (events ++ [auth]) :=
    ⟨hcheck', hexperiment, rfl, hplan, hpolicy, happroval, previousDigest_of_history hhistory, hcanonical⟩
  refine hwritable.appends hnfc (fun e he h => hfresh (List.mem_map.mpr ⟨e, he, h⟩)) fun cons hmade _ => ?_
  have hreplay := replay_consumption happends hauth (not_consumed happends hhistory hfree hr₁) hmade
  refine ⟨{ r₁ with consumed := r₁.consumed ++ [auth.contentDigest] }, ?_⟩
  rw [validateSemantics, List.foldlM_append, show (events ++ [auth]).foldlM (replayEvent py) Replay.start = .ok r₁ from hr₁,
    ok_bind, List.foldlM_cons, hreplay]
  rfl

end Authorized

/-- The authorization is consumed exactly once: it is accepted, the journal recovers, and any journal
that goes on from there refuses it. -/
def ConsumedOnce (py : Platform) (g : ResearchGovernor) (plan : FrozenResearchPlan) (auth : JournalEvent) (disk : Disk) :
    Prop :=
  ∃ record disk' events', (g.consumeHoldout py plan auth).run.eval (Disk.answer py) disk = (.ok record, disk') ∧
    recover py disk' = .ok events' ∧ ∀ (g' : ResearchGovernor) (later : Disk) (events'' : List JournalEvent),
      recover py later = .ok events'' → events' <+: events'' →
        (g'.consumeHoldout py plan auth).run.eval (Disk.answer py) later =
          (.error (.governance "holdout authorization already consumed"), later)

/-- What a consumption has gone through, of an authorization at the end of its history. -/
theorem of_consumedOnce {py : Platform} {g : ResearchGovernor} {r : HoldoutRequest} {auth : JournalEvent} {disk : Disk}
    {events : List JournalEvent} (hcheck : (r.proposal .authorizedAccess []).check = .ok ())
    (happends : Appends py (r.proposal .authorizedAccess []) events auth) (hrecover : recover py disk = .ok (events ++ [auth]))
    (hfree : CollisionFree py (events ++ [auth]) (events ++ [auth])) (h : ConsumedOnce py g r.plan auth disk) :
    (Text.chars r.requestId).length ≤ 227 ∧ (events ++ [auth]).length + 1 < 10 ^ 8 ∧
      "holdout-consumption:" ++ auth.eventId ∉ (events ++ [auth]).map JournalEvent.eventId := by
  have hhistory := history_of_recover hrecover
  obtain ⟨consumed, disk', events', heval, hrecovered, -⟩ := h
  obtain ⟨read, details, event, hread, hconsumption, hdetails, happend, -⟩ := eval_consumeHoldout.mp heval
  cases hrecover.symm.trans hread
  cases (detailMap_authorization happends).symm.trans hdetails
  obtain ⟨hcheck', read, hread, hcase⟩ := of_eval_append happend
  cases hrecover.symm.trans hread
  refine ⟨(check_consumption happends hcheck).mp hcheck', ?_⟩
  rcases hcase with ⟨hmem, -, hsame, -⟩ | ⟨happends', -, hlinked⟩
  · refine absurd ⟨event, hmem, congrArg JournalEvent.kind hsame, ?_⟩ (not_named happends hhistory hfree)
    rw [show event.details = (consumptionOf r.plan auth (requestItems r)).details from congrArg JournalEvent.details hsame]
    exact List.mem_cons_self
  · refine ⟨?_, fun hin => ?_⟩
    · have hroom := recover_room hlinked
      rwa [List.length_append, List.length_singleton] at hroom
    · obtain ⟨e, he, hsame⟩ := List.mem_map.mp hin
      exact happends'.fresh e he hsame

/-- An authorised holdout can be consumed when the prefixed identity still fits, the journal has room
for its record, and no event has the identity of the consumption. -/
theorem consume_holdout_iff (py : Platform) (hnfc : AsciiNormal py) (g g' : ResearchGovernor) (r : HoldoutRequest)
    (disk disk' : Disk) (record : HoldoutAccessRecord) (checkpoint : JournalCheckpoint) (events : List JournalEvent)
    (hrequest : (g.requestHoldout py r).run.eval (Disk.answer py) disk = (.ok record, disk'))
    (hauthorized : record.decision = .authorizedAccess) (hreopened : ReopenedAt g' record.event checkpoint)
    (hrecover : recover py disk' = .ok events) (hfree : CollisionFree py events events) :
    ConsumedOnce py g' r.plan record.event disk' ↔
      (Text.chars r.requestId).length ≤ 227 ∧ events.length + 1 < 10 ^ 8 ∧
        "holdout-consumption:" ++ ("holdout:" ++ r.requestId) ∉ events.map JournalEvent.eventId := by
  obtain ⟨hcheck, before, -, happends, hlinked⟩ := of_eval_request hrequest hauthorized
  cases hrecover.symm.trans hlinked
  generalize record.event = auth at *
  have hid : auth.eventId = "holdout:" ++ r.requestId := congrArg JournalEvent.eventId happends.made
  have hhistory := history_of_recover hrecover
  have hdetails := detailMap_authorization happends
  rw [← hid]
  constructor
  · exact of_consumedOnce hcheck happends hrecover hfree
  · rintro ⟨hlength, hroom, hfresh⟩
    obtain ⟨cons, happends', hchecked⟩ := exists_consumption hnfc happends hcheck hhistory hfree hlength hfresh
    rw [List.length_append, List.length_singleton] at hroom
    obtain ⟨happend, hrecovered⟩ := eval_append ((check_consumption happends hcheck).mpr hlength) hrecover happends' hchecked
      (by rwa [List.length_append, List.length_singleton])
    refine ⟨_, linked disk' cons, _, eval_consumeHoldout.mpr ⟨_, requestItems r, cons, hrecover, ?_, hdetails, happend, rfl⟩,
      hrecovered, fun g'' later events'' hlater hprefix => eval_consumeHoldout_of_named hlater ⟨cons, ?_, ?_, ?_⟩⟩
    · exact checkConsumption_ok hreopened happends.sequence (congrArg JournalEvent.kind happends.made)
        (congrArg JournalEvent.disposition happends.made) (congrArg JournalEvent.planDigest happends.made)
        (not_named happends hhistory hfree)
    · exact hprefix.subset (List.mem_append_right _ (List.mem_singleton_self _))
    · exact congrArg JournalEvent.kind happends'.made
    · rw [show cons.details = (consumptionOf r.plan auth (requestItems r)).details from
        congrArg JournalEvent.details happends'.made]
      exact List.mem_cons_self

namespace Sample

/-- A governor reopened at an event. -/
theorem reopenedAt (e : JournalEvent) : ReopenedAt (governor (some (checkpointAt e))) e (checkpointAt e) :=
  ⟨⟨rfl, rfl, rfl, rfl, rfl⟩, rfl, rfl⟩

/-- A canonical identity of `n` characters. -/
def repeated (n : Nat) : String := String.ofList (List.replicate n 'r')

theorem length_repeated (n : Nat) : (Text.chars (repeated n)).length = n := by
  rw [Text.chars_eq, repeated, String.toList_ofList, List.length_replicate]

theorem isIdentity_repeated {n : Nat} (hpos : 0 < n) (hn : n ≤ 247) : Datasets.isIdentity (Text.chars (repeated n)) = true ∧
    Datasets.isIdentity (Text.chars ("holdout:" ++ repeated n)) = true := by
  have hchars : Text.chars (repeated n) = List.replicate n 'r' := by rw [Text.chars_eq, repeated, String.toList_ofList]
  have hall (n : Nat) : (List.replicate n 'r').all Datasets.isIdChar = true :=
    List.all_eq_true.mpr fun c hc => List.eq_of_mem_replicate hc ▸ by decide
  have hlead : Text.chars ("holdout:" ++ repeated n) = 'h' :: ("oldout:".toList ++ List.replicate n 'r') := by
    rw [← hchars, Text.chars_eq, Text.chars_eq, String.toList_append]
    rfl
  have hlength : "oldout:".toList.length = 7 := by decide
  constructor
  · obtain ⟨n, rfl⟩ := Nat.exists_eq_succ_of_ne_zero hpos.ne'
    rw [hchars, List.replicate_succ, Datasets.isIdentity, hall, List.length_replicate, decide_eq_true (by omega)]
    decide
  · rw [hlead, Datasets.isIdentity, List.all_append, hall, List.length_append, hlength, List.length_replicate,
      decide_eq_true (by omega)]
    decide

end Sample

theorem consume_holdout_iff_sample : ∃ (disk disk' : Disk) (record : HoldoutAccessRecord) (checkpoint : JournalCheckpoint),
    ((Sample.governor none).requestHoldout Sample.marked (Sample.request "h")).run.eval (Disk.answer Sample.marked) disk =
      (.ok record, disk') ∧ record.decision = .authorizedAccess ∧
    ConsumedOnce Sample.marked (Sample.governor (some checkpoint)) Sample.plan record.event disk' := by
  obtain ⟨acceptance, auth, h⟩ := @Sample.exists_journaled "h" (by decide) (by decide)
  refine ⟨_, _, _, Sample.checkpointAt auth, h.authorized, rfl, ?_⟩
  refine (consume_holdout_iff Sample.marked Sample.asciiNormal_marked (Sample.governor none) _ (Sample.request "h") _ _ _ _ _
    h.authorized rfl (Sample.reopenedAt auth) h.recovered h.free).mpr ⟨by decide, by simp, ?_⟩
  rw [List.map_cons, List.map_cons, List.map_nil, h.acceptanceId, h.authId]
  decide

/-- A request of 228 characters is authorised, and the authorization can never be consumed. -/
theorem long_request_not_consumed : ¬ ∀ (py : Platform) (g g' : ResearchGovernor) (r : HoldoutRequest) (disk disk' : Disk)
    (record : HoldoutAccessRecord) (checkpoint : JournalCheckpoint) (events : List JournalEvent), AsciiNormal py →
    (g.requestHoldout py r).run.eval (Disk.answer py) disk = (.ok record, disk') → record.decision = .authorizedAccess →
    ReopenedAt g' record.event checkpoint → recover py disk' = .ok events → CollisionFree py events events →
      ConsumedOnce py g' r.plan record.event disk' := by
  intro hclaim
  obtain ⟨hid, hid'⟩ := Sample.isIdentity_repeated (n := 228) (by decide) (by decide)
  obtain ⟨acceptance, auth, h⟩ := Sample.exists_journaled hid hid'
  have hconsumed := hclaim _ _ _ _ _ _ _ _ _ Sample.asciiNormal_marked h.authorized rfl (Sample.reopenedAt auth) h.recovered h.free
  obtain ⟨hcheck, before, hbefore, happends, hlinked⟩ := of_eval_request h.authorized rfl
  cases h.accepted.symm.trans hbefore
  have hlength := (of_consumedOnce hcheck happends hlinked h.free hconsumed).1
  exact absurd ((Sample.length_repeated 228).symm.le.trans hlength) (by decide)

end ATB.Proof.Governance
