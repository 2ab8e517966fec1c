import AutomatedTradingBot.Proof.Governance.Codec

/-!
# Operations alone, and the details of events

* `eval_bind_eq_ok`: a step of an operation that returned, while nobody else writes;
* `detailMap_eq`: the details of an event whose items are keys and values;
* `detail_of_mem`: the value that an item gives to its key;
* `acceptedPlan_acceptance`: the plan that the acceptance of a plan is read back as.
-/

namespace ATB.Proof.Governance

open ATB.Governance ATB.Calls

/-! ## Operations alone -/

section Alone

variable {S α β : Type} {answer : S → (c : Call) → Reply c × S} {s s' : S} {x : Action α} {f : α → Action β}

theorem eval_bind_ok {a : α} (h : x.run.eval answer s = (.ok a, s')) :
    (x >>= f).run.eval answer s = (f a).run.eval answer s' := by
  change ((x.run >>= ExceptT.bindCont f) : Program Call Reply _).eval answer s = _
  rw [Program.eval_bind, h]
  rfl

theorem eval_bind_error {e : Raised} (h : x.run.eval answer s = (.error e, s')) :
    (x >>= f).run.eval answer s = (.error e, s') := by
  change ((x.run >>= ExceptT.bindCont f) : Program Call Reply _).eval answer s = _
  rw [Program.eval_bind, h]
  rfl

/-- A step that returned, and what follows it. -/
theorem eval_bind_eq_ok {b : β} {t : S} : (x >>= f).run.eval answer s = (.ok b, t) ↔
    ∃ a s', x.run.eval answer s = (.ok a, s') ∧ (f a).run.eval answer s' = (.ok b, t) := by
  cases h : x.run.eval answer s with
  | mk outcome u =>
    cases outcome with
    | error e =>
      rw [eval_bind_error h]
      constructor
      · intro h
        cases h
      · rintro ⟨_, _, ⟨⟩, -⟩
    | ok a =>
      rw [eval_bind_ok h]
      constructor
      · exact fun hf => ⟨a, u, rfl, hf⟩
      · rintro ⟨_, _, ⟨⟩, hf⟩
        exact hf

theorem eval_lift {y : Except Raised α} : (Action.lift y).run.eval answer s = (y, s) := rfl

theorem eval_lift_eq_ok {y : Except Raised α} {a : α} :
    (Action.lift y).run.eval answer s = (.ok a, s') ↔ y = .ok a ∧ s = s' := Prod.mk.injEq _ _ _ _ ▸ Iff.rfl

theorem eval_pure {a : α} : (pure a : Action α).run.eval answer s = (.ok a, s) := rfl

end Alone

/-! ## Details -/

theorem span_append {k v : List Char} {c : Char} (h : c ∉ k) : (k ++ c :: v).span (· ≠ c) = (k, c :: v) := by
  have hk : ∀ d ∈ k, decide (d ≠ c) = true := fun d hd => decide_eq_true fun e => h (e ▸ hd)
  rw [List.span_eq_takeWhile_dropWhile, List.takeWhile_append_of_pos hk, List.dropWhile_append_of_pos hk,
    List.takeWhile_cons_of_neg (by simp), List.dropWhile_cons_of_neg (by simp), List.append_nil]

/-- An item reads back as its key and its value. -/
theorem partition_item {k v : String} (h : '=' ∉ k.toList) : partition? (k ++ "=" ++ v) = some (k, v) := by
  have hchars : Text.chars (k ++ "=" ++ v) = k.toList ++ '=' :: v.toList := by
    rw [Text.chars_eq, String.toList_append, String.toList_append, List.append_assoc]
    rfl
  rw [partition?, hchars, span_append h]
  simp only [String.ofList_toList]

/-- The details of a list of items. -/
def itemsOf (pairs : List (String × String)) : List String := pairs.map fun p => p.1 ++ "=" ++ p.2

/-- The keys that details may have. -/
structure Keys (pairs : List (String × String)) : Prop where
  nodup : (pairs.map Prod.fst).Nodup
  nonempty : ∀ p ∈ pairs, p.1 ≠ ""
  plain : ∀ p ∈ pairs, '=' ∉ p.1.toList

theorem nodup_itemsOf {pairs : List (String × String)} (h : Keys pairs) : (itemsOf pairs).Nodup := by
  refine List.Nodup.map_on (fun p hp q hq e => ?_) (List.Nodup.of_map _ h.nodup)
  have hitem := partition_item (v := p.2) (h.plain p hp)
  rw [e, partition_item (h.plain q hq)] at hitem
  exact (Option.some.inj hitem).symm

/-- `_detail_map` of the items. -/
theorem foldlM_addDetail {pairs before : List (String × String)} (h : Keys (before ++ pairs)) :
    (itemsOf pairs).foldlM addDetail before = .ok (before ++ pairs) := by
  induction pairs generalizing before with
  | nil => rw [List.append_nil]; rfl
  | cons p pairs ih =>
    have hmem : p ∈ before ++ p :: pairs := List.mem_append_right _ List.mem_cons_self
    have hfresh : p.1 ∉ before.map Prod.fst := by
      have hnodup := h.nodup
      rw [List.map_append, List.map_cons] at hnodup
      exact fun hin => (List.nodup_append.mp hnodup).2.2 _ hin _ List.mem_cons_self rfl
    have hstep : addDetail before (p.1 ++ "=" ++ p.2) = .ok (before ++ [p]) := by
      rw [addDetail, partition_item (h.plain p hmem), orRaise, ok_bind, raiseIf_of_not]
      · rfl
      · rw [Dict.get?_eq_none.mpr hfresh]
        simpa using h.nonempty p hmem
    rw [itemsOf, List.map_cons, List.foldlM_cons, hstep, ok_bind]
    have hrest : Keys ((before ++ [p]) ++ pairs) := by rwa [List.append_assoc]
    rw [show (before ++ p :: pairs) = (before ++ [p]) ++ pairs by rw [List.append_assoc]; rfl]
    exact ih hrest

theorem detailMap_eq {e : JournalEvent} {pairs : List (String × String)} (he : e.details = itemsOf pairs)
    (h : Keys pairs) : detailMap e = .ok pairs := by
  rw [detailMap, he]
  exact foldlM_addDetail h

/-- Every item is kept under its key. -/
theorem mem_of_foldlM_addDetail {items : List String} {before after : List (String × String)}
    (h : items.foldlM addDetail before = .ok after) (hn : (before.map Prod.fst).Nodup) :
    (after.map Prod.fst).Nodup ∧ (∀ p ∈ before, p ∈ after) ∧ ∀ item ∈ items, ∃ p ∈ after, partition? item = some p := by
  induction items generalizing before with
  | nil =>
    cases h
    exact ⟨hn, fun _ hp => hp, fun _ h => absurd h List.not_mem_nil⟩
  | cons item items ih =>
    obtain ⟨middle, hstep, hrest⟩ := bind_eq_ok.mp h
    simp only [addDetail, bind_eq_ok, orRaise_eq_ok, raiseIf_eq_ok, exists_const, pure_eq_ok, not_or] at hstep
    obtain ⟨pair, hpair, ⟨-, hfresh⟩, rfl⟩ := hstep
    have hkey : pair.1 ∉ before.map Prod.fst := Dict.get?_eq_none.mp (by simpa using hfresh)
    have hn' : ((before ++ [pair]).map Prod.fst).Nodup := by
      rw [List.map_append, List.map_singleton]
      exact List.nodup_append.mpr ⟨hn, List.nodup_singleton _, fun x hx y hy e => by
        rw [List.mem_singleton.mp hy] at e
        exact hkey (e ▸ hx)⟩
    obtain ⟨hnodup, hkept, hitems⟩ := ih hrest hn'
    refine ⟨hnodup, fun p hp => hkept p (List.mem_append_left _ hp), fun x hx => ?_⟩
    rcases List.mem_cons.mp hx with rfl | hx
    · exact ⟨pair, hkept pair (List.mem_append_right _ (List.mem_singleton_self _)), hpair⟩
    · exact hitems x hx

/-- An item gives its value to its key. -/
theorem detail_of_mem {e : JournalEvent} {details : List (String × String)} {k v : String} (h : detailMap e = .ok details)
    (hk : '=' ∉ k.toList) (hmem : k ++ "=" ++ v ∈ e.details) : detail k details = v := by
  obtain ⟨hnodup, -, hitems⟩ := mem_of_foldlM_addDetail h List.nodup_nil
  obtain ⟨p, hp, hpair⟩ := hitems _ hmem
  rw [partition_item hk, Option.some_inj] at hpair
  subst hpair
  rw [detail, Dict.get?_of_mem hnodup hp, Option.getD_some]

/-! ## Acceptances -/

section Acceptance

variable {py : Platform} {details : List (String × String)} {plan : FrozenResearchPlan} {approval : ApprovalEvidence}

theorem planOfDetails_eq (h : detail "plan" details = String.ofList plan.canonicalBody.dumps)
    (hplan : plan.Constructed py) : planOfDetails py details = .ok plan := by
  rw [planOfDetails, h, Text.chars_eq, String.toList_ofList, Json.loads_dumps sorted_plan, orRaise, ok_bind,
    fromCanonicalBody_plan hplan]

theorem approvalOfDetails_eq (h : detail "approval" details = String.ofList approval.canonicalBody.dumps) :
    approvalOfDetails details = .ok approval := by
  rw [approvalOfDetails, h, Text.chars_eq, String.toList_ofList, Json.loads_dumps sorted_approval, orRaise, ok_bind,
    fromCanonicalBody_approval]

/-- The details of the acceptance of a plan. -/
def acceptanceDetails (g : ResearchGovernor) (plan : FrozenResearchPlan) (approval : ApprovalEvidence) :
    List (String × String) :=
  [("approval", String.ofList approval.canonicalBody.dumps), ("assurance_mode", g.journal.trust.assuranceMode.value),
    ("plan", String.ofList plan.canonicalBody.dumps), ("trust_context", g.journal.trust.identity)]

section Details

variable {a m p t : String}

theorem keys_acceptance : Keys [("approval", a), ("assurance_mode", m), ("plan", p), ("trust_context", t)] where
  nodup := by simp
  nonempty := by simp
  plain := by simp

theorem detail_acceptance :
    detail "approval" [("approval", a), ("assurance_mode", m), ("plan", p), ("trust_context", t)] = a ∧
    detail "assurance_mode" [("approval", a), ("assurance_mode", m), ("plan", p), ("trust_context", t)] = m ∧
    detail "plan" [("approval", a), ("assurance_mode", m), ("plan", p), ("trust_context", t)] = p ∧
    detail "trust_context" [("approval", a), ("assurance_mode", m), ("plan", p), ("trust_context", t)] = t :=
  ⟨rfl, rfl, rfl, rfl⟩

end Details

/-- The acceptance of a plan that was constructed reads back as the plan. -/
theorem acceptedPlan_acceptance {g : ResearchGovernor} {e : JournalEvent} {plans : List (String × FrozenResearchPlan)}
    (hkind : e.kind = .planAccepted) (hdetails : e.details = itemsOf (acceptanceDetails g plan approval))
    (hplan : plan.Constructed py) (happroval : g.journal.trust.requireApproval approval plan = .ok ()) :
    g.acceptedPlan py plans e = .ok (Dict.set e.planDigest plan plans) := by
  have hmap : detailMap e = .ok (acceptanceDetails g plan approval) := detailMap_eq hdetails keys_acceptance
  obtain ⟨hevidence, hmode, hbody, htrust⟩ := detail_acceptance (a := String.ofList approval.canonicalBody.dumps)
    (m := g.journal.trust.assuranceMode.value) (p := String.ofList plan.canonicalBody.dumps)
    (t := g.journal.trust.identity)
  rw [ResearchGovernor.acceptedPlan, if_neg (not_not.mpr hkind), hmap, ok_bind, acceptanceDetails,
    raiseIf_of_not (not_not.mpr hmode), ok_bind, raiseIf_of_not (not_not.mpr htrust), ok_bind,
    planOfDetails_eq hbody hplan, ok_bind, approvalOfDetails_eq hevidence, ok_bind, happroval, ok_bind]
  rfl

end Acceptance

end ATB.Proof.Governance
