import AutomatedTradingBot.Proof.Governance.Events
import AutomatedTradingBot.Proof.Governance.Records

/-!
# Appending to the journal alone

* `of_eval_append`: what `_append` has gone through when it returns;
* `eval_append`: `_append` of an event that nothing stands against;
* `Writable.appends`: the event of a proposal that the journal takes.
-/

namespace ATB.Proof.Governance

open ATB.Governance ATB.Calls Canonical

variable {py : Platform} {p : Proposal} {disk disk' : Disk} {events : List JournalEvent} {event : JournalEvent}

theorem eval_history {caller : Caller} :
    (Action.history caller).run.eval (Disk.answer py) disk = (recover py disk, disk) := rfl

/-- Nothing stands under the next number. -/
theorem number_free (h : recover py disk = .ok events) :
    (disk.entries.any fun e => e.name = Journal.recordName (events.length + 1)) = false := by
  obtain ⟨hnumbered, hlength⟩ := recover_numbered h
  rw [List.any_eq_false]
  intro e he hname
  obtain ⟨n, -, hn, hname'⟩ := Journal.name_of_numbered hnumbered he
  have hnumber := Journal.recordName_injective (hname'.symm.trans (of_decide_eq_true hname))
  omega

/-- The file is linked, and the temporary file is gone. -/
theorem eval_publish {content : List Char} (h : recover py disk = .ok events) (hsequence : event.sequence = events.length + 1) :
    (Action.publish event content).run.eval (Disk.answer py) disk =
      (.ok true, { disk with entries := disk.entries ++ [entryOf event content] }) := by
  have hfree : ¬ (disk.entries.any fun e => e.name = Journal.recordName event.sequence) = true := by
    rw [hsequence, number_free h]
    decide
  have hlink : Disk.answer py { disk with staged := disk.staged + 1 } (.link event content) =
      (true, { entries := disk.entries ++ [entryOf event content], staged := disk.staged + 1 }) := if_neg hfree
  change Program.eval (Disk.answer py) (.call (.link event content) fun linked => .call .discard fun _ =>
    .ret (Except.ok linked : Except Raised Bool)) { disk with staged := disk.staged + 1 } = _
  rw [Program.eval, hlink]
  rfl

/-- The event goes after the history. -/
structure Appends (py : Platform) (p : Proposal) (events : List JournalEvent) (event : JournalEvent) : Prop where
  fresh : ∀ e ∈ events, e.eventId ≠ p.eventId
  made : event = { p.provisional events with contentDigest := event.contentDigest }
  digest : event.digest py = .ok event.contentDigest
  semantics : ∃ r, validateSemantics py (events ++ [event]) = .ok r
  canonical : py.canonicalJson event.sealedBody = .ok event.sealedBody.dumps

theorem Appends.sequence (h : Appends py p events event) : event.sequence = events.length + 1 :=
  congrArg JournalEvent.sequence h.made

theorem appends_of_sealed {content : List Char} (hfresh : ∀ e ∈ events, e.eventId ≠ p.eventId)
    (h : p.sealed py events = .ok (event, content)) : Appends py p events event ∧ content = event.sealedBody.dumps := by
  simp only [Proposal.sealed, bind_eq_ok, pure_eq_ok, Raised.ofOutcome, mapError_eq_ok] at h
  obtain ⟨digest, hdigest, r, hr, text, htext, he⟩ := h
  cases he
  have hdumps := (py.canonicalJson_eq_ok.mp htext).2
  exact ⟨⟨hfresh, rfl, hdigest, ⟨r, hr⟩, hdumps ▸ htext⟩, hdumps.symm⟩

theorem Appends.sealed (h : Appends py p events event) : p.sealed py events = .ok (event, event.sealedBody.dumps) := by
  have hdigest : (p.provisional events).digest py = .ok event.contentDigest := by
    have hd := h.digest
    rwa [h.made] at hd
  obtain ⟨r, hr⟩ := h.semantics
  have hevent := h.made
  rw [Proposal.sealed, hdigest, ok_bind]
  dsimp only
  rw [← hevent, hr, ok_bind, Raised.ofOutcome, h.canonical]
  rfl

/-- What `_append` has gone through when it returns. -/
theorem of_eval_append (h : (p.append py).run.eval (Disk.answer py) disk = (.ok event, disk')) :
    p.check = .ok () ∧ ∃ events, recover py disk = .ok events ∧
      ((event ∈ events ∧ event.eventId = p.eventId ∧ p.sameSemantic event ∧ disk' = disk) ∨
        (Appends py p events event ∧ disk' = linked disk event ∧ recover py disk' = .ok (events ++ [event]))) := by
  rw [Proposal.append] at h
  obtain ⟨⟨⟩, s, h₁, h⟩ := eval_bind_eq_ok.mp h
  obtain ⟨hcheck, rfl⟩ := eval_lift_eq_ok.mp h₁
  obtain ⟨events, s, h₂, h⟩ := eval_bind_eq_ok.mp h
  rw [eval_history] at h₂
  obtain ⟨hrecover, rfl⟩ := Prod.mk.inj h₂
  refine ⟨hcheck, events, hrecover, ?_⟩
  split at h
  · rename_i existing hfind
    obtain ⟨⟨⟩, s, h₃, h⟩ := eval_bind_eq_ok.mp h
    obtain ⟨hsame, rfl⟩ := eval_lift_eq_ok.mp h₃
    obtain ⟨he, rfl⟩ := Prod.mk.inj (eval_pure.symm.trans h)
    cases he
    have hid := List.find?_some hfind
    exact Or.inl ⟨List.mem_of_find?_eq_some hfind, of_decide_eq_true hid, not_not.mp (raiseIf_eq_ok.mp hsame), rfl⟩
  · rename_i hfind
    have hfresh : ∀ e ∈ events, e.eventId ≠ p.eventId := fun e he => by simpa using List.find?_eq_none.mp hfind e he
    obtain ⟨⟨event', content⟩, s, h₃, h⟩ := eval_bind_eq_ok.mp h
    obtain ⟨hsealed, rfl⟩ := eval_lift_eq_ok.mp h₃
    obtain ⟨happends, hcontent⟩ := appends_of_sealed hfresh hsealed
    dsimp only at h
    rw [eval_bind_ok (eval_publish hrecover happends.sequence), hcontent, ← linked] at h
    obtain ⟨⟨⟩, s, h₄, h⟩ := eval_bind_eq_ok.mp h
    obtain ⟨-, rfl⟩ := eval_lift_eq_ok.mp h₄
    obtain ⟨recovered, s, h₅, h⟩ := eval_bind_eq_ok.mp h
    rw [eval_history] at h₅
    obtain ⟨hlinked, rfl⟩ := Prod.mk.inj h₅
    obtain ⟨⟨⟩, s, h₆, h⟩ := eval_bind_eq_ok.mp h
    obtain ⟨hsame, rfl⟩ := eval_lift_eq_ok.mp h₆
    obtain ⟨he, rfl⟩ := Prod.mk.inj (eval_pure.symm.trans h)
    cases he
    obtain ⟨e', rfl⟩ := eq_concat_of_recover_linked hrecover happends.sequence hlinked
    have hlast := not_not.mp (raiseIf_eq_ok.mp hsame)
    rw [happends.sequence, Nat.add_sub_cancel, List.getElem?_concat_length, Option.some_inj] at hlast
    subst hlast
    exact Or.inr ⟨happends, rfl, hlinked⟩

/-- The history and the directory after an event that nothing stands against. -/
theorem eval_append (hcheck : p.check = .ok ()) (h : recover py disk = .ok events) (happends : Appends py p events event)
    (hchecked : Checked event) (hroom : events.length + 1 < 10 ^ 8) :
    (p.append py).run.eval (Disk.answer py) disk = (.ok event, linked disk event) ∧
      recover py (linked disk event) = .ok (events ++ [event]) := by
  obtain ⟨r, hr⟩ := happends.semantics
  have hfresh : event.eventId ∉ events.map JournalEvent.eventId := fun hin => by
    obtain ⟨e, he, hid⟩ := List.mem_map.mp hin
    exact happends.fresh e he (hid.trans (congrArg JournalEvent.eventId happends.made))
  have hlinked := recover_linked h ⟨hchecked, happends.digest, happends.canonical⟩ happends.sequence
    (congrArg JournalEvent.previousDigest happends.made) hfresh hroom hr
  refine ⟨?_, hlinked⟩
  have hfind : (events.find? fun existing => existing.eventId = p.eventId) = none :=
    List.find?_eq_none.mpr fun e he => by simpa using happends.fresh e he
  have hhistory : (Action.history .append).run.eval (Disk.answer py) disk = (.ok events, disk) := by rw [eval_history, h]
  have hrecovered : (Action.history .append).run.eval (Disk.answer py) (linked disk event) =
      (.ok (events ++ [event]), linked disk event) := by rw [eval_history, hlinked]
  have hlast : (events ++ [event])[event.sequence - 1]? = some event := by
    rw [happends.sequence, Nat.add_sub_cancel, List.getElem?_concat_length]
  rw [Proposal.append, eval_bind_ok (eval_lift.trans (congrArg (·, disk) hcheck)), eval_bind_ok hhistory, hfind]
  dsimp only
  rw [eval_bind_ok (eval_lift.trans (congrArg (·, disk) happends.sealed))]
  dsimp only
  rw [eval_bind_ok (eval_publish h happends.sequence),
    eval_bind_ok (eval_lift.trans (congrArg (·, _) (raiseIf_of_not (by decide)))), ← linked, eval_bind_ok hrecovered,
    eval_bind_ok (eval_lift.trans (congrArg (·, _) (raiseIf_of_not (not_not.mpr hlast)))), eval_pure]

/-! ## What the journal takes -/

/-- What `_append` and `_decode` check of a proposal, whatever its history means. -/
structure Writable (py : Platform) (p : Proposal) (events : List JournalEvent) : Prop where
  check : p.check = .ok ()
  experimentId : text "experiment_id" p.experimentId.value = .ok ()
  runId : (p.runId.map ResearchRunId.value).forM (text "run_id") = .ok ()
  planDigest : digestText "plan_digest" p.plan.planDigest = .ok ()
  policyIdentity : safeId "policy_identity" p.plan.policyIdentity = .ok ()
  approvalReference : safeId "approval_reference" p.plan.ownerApprovalReference = .ok ()
  previousDigest : (events.getLast?.map JournalEvent.contentDigest).forM (digestText "previous_digest") = .ok ()
  canonical : ∀ s ∈ textsOf (p.provisional events), py.canonicalValue (.str s) = .ok ()

/-- The digest of an event is a digest. -/
theorem contentDigest_eq {e : JournalEvent} (h : e.digest py = .ok e.contentDigest) :
    ∃ t, e.contentDigest = "sha256:" ++ py.hexdigest t := by
  rw [JournalEvent.digest, Raised.ofOutcome, mapError_eq_ok] at h
  exact ⟨_, eq_of_digest h⟩

theorem previousDigest_of_history (h : History py events) :
    (events.getLast?.map JournalEvent.contentDigest).forM (digestText "previous_digest") = .ok () := by
  cases hlast : events.getLast? with
  | none => rfl
  | some e =>
    obtain ⟨t, ht⟩ := contentDigest_eq (h.digest e (List.mem_of_getLast? hlast))
    rw [Option.map_some, ht]
    exact digestText_digest _ t

/-- The event of a proposal that the journal takes, given that its history means something. -/
theorem Writable.appends (h : Writable py p events) (hnfc : AsciiNormal py) (hfresh : ∀ e ∈ events, e.eventId ≠ p.eventId)
    (hsemantics : ∀ e : JournalEvent, e = { p.provisional events with contentDigest := e.contentDigest } →
      e.digest py = .ok e.contentDigest → ∃ r, validateSemantics py (events ++ [e]) = .ok r) :
    ∃ e, Appends py p events e ∧ Checked e := by
  obtain ⟨t, hdigest, hsealed⟩ := exists_digest hnfc h.canonical
  have hcheck := h.check
  simp only [Proposal.check, bind_eq_ok, Unique.exists_iff, PUnit.default_eq_unit] at hcheck
  obtain ⟨hevent, hdisposition, hreasons, hdetails⟩ := hcheck
  exact ⟨{ p.provisional events with contentDigest := "sha256:" ++ py.hexdigest t },
    ⟨hfresh, rfl, hdigest, hsemantics _ rfl hdigest, hsealed⟩,
    ⟨Nat.succ_ne_zero _, hevent, h.experimentId, h.runId, h.planDigest, h.policyIdentity, h.approvalReference, hdisposition,
      hreasons, hdetails, h.previousDigest⟩⟩

end ATB.Proof.Governance
