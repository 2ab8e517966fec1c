import AutomatedTradingBot.Proof.Governance.Acceptance

/-!
# Checkpoints detect rewrites

A checkpoint names one digest, at one place. Whoever holds two histories that it does not
find invalid holds the same events up to that place.

* `trusted_of_state`: what a history that is not invalid has gone through;
* `checkpoints_detect_rewrites`: two such histories agree up to the accepted sequence.
-/

namespace ATB.Proof.Governance

open ATB.Governance HashChain

section Checkpoints

variable {py : Platform} {j : ResearchJournal} {checkpoint : JournalCheckpoint} {events events' : List JournalEvent}

/-- The history carries the digest of the checkpoint at its place. -/
structure Trusted (checkpoint : JournalCheckpoint) (events : List JournalEvent) : Prop where
  long : checkpoint.acceptedSequence ≤ events.length
  terminal : (if checkpoint.acceptedSequence = 0 then none
    else events[checkpoint.acceptedSequence - 1]?.map JournalEvent.contentDigest) = checkpoint.terminalDigest

theorem trusted_of_state {s : HistoryTrustState} (hcheckpoint : j.checkpoint = some checkpoint)
    (h : j.historyTrustState events = .ok s) (hvalid : s ≠ .invalidHistory) :
    Trusted checkpoint events ∧ (s = .checkpointedHistory ↔ checkpoint.acceptedSequence = events.length) := by
  rw [ResearchJournal.historyTrustState, hcheckpoint] at h
  dsimp only at h
  split at h
  · cases h
    exact absurd rfl hvalid
  · cases h
  · rename_i hcheck
    cases h
    simp only [ResearchJournal.checkCheckpoint, bind_eq_ok, raiseIf_eq_ok, exists_const, not_lt, not_not] at hcheck
    obtain ⟨⟨⟩, -, -, -, hlong, hterminal⟩ := hcheck
    refine ⟨⟨hlong, hterminal⟩, ?_⟩
    split
    · exact iff_of_true rfl ‹_›
    · exact iff_of_false (by decide) ‹_›

/-- The journal was opened with the checkpoint, which the trust context takes. -/
structure OpenedAt (j : ResearchJournal) (checkpoint : JournalCheckpoint) : Prop where
  given : j.checkpoint = some checkpoint
  trusted : j.trust.requireCheckpoint checkpoint = .ok ()
  journal : checkpoint.journalIdentity = j.journalIdentity
  epoch : checkpoint.epoch = j.epoch
  establishment : checkpoint.establishmentIdentity = j.trust.identity

/-- The state of a history that carries the digest of the checkpoint. -/
theorem historyTrustState_of_trusted (h : OpenedAt j checkpoint) (ht : Trusted checkpoint events) :
    j.historyTrustState events =
      .ok (if checkpoint.acceptedSequence = events.length then .checkpointedHistory else .uncheckpointedTail) := by
  have hcheck : j.checkCheckpoint checkpoint events = .ok () := by
    have hlong := ht.long
    rw [ResearchJournal.checkCheckpoint, h.trusted, ok_bind,
      raiseIf_of_not (not_or.mpr ⟨not_not.mpr h.journal, not_not.mpr h.epoch⟩), ok_bind,
      raiseIf_of_not (not_not.mpr h.establishment), ok_bind, raiseIf_of_not (by omega), ok_bind]
    exact raiseIf_of_not (not_not.mpr ht.terminal)
  rw [ResearchJournal.historyTrustState, h.given]
  dsimp only
  rw [hcheck]

/-- No text of an event of the one history collides with one of the other. -/
def CollisionFree (py : Platform) (events events' : List JournalEvent) : Prop :=
  ∀ e ∈ events, ∀ e' ∈ events', py.sha256 (eventText e) = py.sha256 (eventText e') → eventText e = eventText e'

theorem tagsTell_of_collisionFree (h : History py events) (h' : History py events') (hfree : CollisionFree py events events') :
    TagsTell JournalEvent.contentDigest events events' := fun e he e' he' =>
  event_eq_of_digest (h.digest e he) (h'.digest e' he') (hfree e he e' he')

/-- Histories that carry the digest of one checkpoint agree up to its place. -/
theorem take_eq_of_trusted (h : History py events) (h' : History py events') (hfree : CollisionFree py events events')
    (ht : Trusted checkpoint events) (ht' : Trusted checkpoint events') :
    events.take checkpoint.acceptedSequence = events'.take checkpoint.acceptedSequence := by
  have hterminal := ht.terminal.trans ht'.terminal.symm
  have hlong := ht.long
  have hlong' := ht'.long
  cases hn : checkpoint.acceptedSequence with
  | zero => rfl
  | succ n =>
    rw [hn] at hterminal hlong hlong'
    rw [if_neg (Nat.succ_ne_zero n), if_neg (Nat.succ_ne_zero n), Nat.succ_sub_one,
      List.getElem?_eq_getElem (by omega : n < events.length), List.getElem?_eq_getElem (by omega : n < events'.length),
      Option.map_some, Option.map_some] at hterminal
    exact h.linked.take_eq h'.linked (tagsTell_of_collisionFree h h' hfree) (by omega) (by omega)
      (Option.some.inj hterminal)

end Checkpoints

/-- Two journals that recover, of which neither is invalid under the same checkpoint, hold the
same events up to the accepted sequence, and the same history where both are checkpointed. -/
theorem checkpoints_detect_rewrites (py : Platform) (j j' : ResearchJournal) (checkpoint : JournalCheckpoint)
    (disk disk' : Disk) (events events' : List JournalEvent) (s s' : HistoryTrustState)
    (hcheckpoint : j.checkpoint = some checkpoint) (hcheckpoint' : j'.checkpoint = some checkpoint)
    (hrecover : recover py disk = .ok events) (hrecover' : recover py disk' = .ok events')
    (hfree : CollisionFree py events events')
    (hstate : j.historyTrustState events = .ok s) (hstate' : j'.historyTrustState events' = .ok s')
    (hvalid : s ≠ .invalidHistory) (hvalid' : s' ≠ .invalidHistory) :
    checkpoint.acceptedSequence ≤ events.length ∧ checkpoint.acceptedSequence ≤ events'.length ∧
      events.take checkpoint.acceptedSequence = events'.take checkpoint.acceptedSequence ∧
      (s = .checkpointedHistory → s' = .checkpointedHistory → events = events') := by
  obtain ⟨ht, hwhole⟩ := trusted_of_state hcheckpoint hstate hvalid
  obtain ⟨ht', hwhole'⟩ := trusted_of_state hcheckpoint' hstate' hvalid'
  have htake := take_eq_of_trusted (history_of_recover hrecover) (history_of_recover hrecover') hfree ht ht'
  refine ⟨ht.long, ht'.long, htake, fun hs hs' => ?_⟩
  have hlength := hwhole.mp hs
  have hlength' := hwhole'.mp hs'
  rwa [hlength, List.take_length, ← hlength, hlength', List.take_length] at htake

namespace Sample

/-- A checkpoint at an event. -/
def checkpointAt (e : JournalEvent) : JournalCheckpoint :=
  ⟨"journal", "epoch", e.sequence, some e.contentDigest, "trust", zeros⟩

end Sample

theorem checkpoints_detect_rewrites_sample : ∃ acceptance auth : JournalEvent,
    recover Sample.marked (linked .empty acceptance) = .ok [acceptance] ∧
    recover Sample.marked (linked (linked .empty acceptance) auth) = .ok [acceptance, auth] ∧
    [acceptance].take 1 = [acceptance, auth].take 1 := by
  obtain ⟨acceptance, auth, h⟩ := @Sample.exists_journaled "h" (by decide) (by decide)
  have hsequence : acceptance.sequence = 1 := (history_of_recover h.accepted).numbered 0 Nat.zero_lt_one
  have hopened : OpenedAt (Sample.governor (some (Sample.checkpointAt acceptance))).journal (Sample.checkpointAt acceptance) :=
    ⟨rfl, rfl, rfl, rfl, rfl⟩
  have hplace : (Sample.checkpointAt acceptance).acceptedSequence = 1 := hsequence
  have ht {rest : List JournalEvent} : Trusted (Sample.checkpointAt acceptance) (acceptance :: rest) :=
    ⟨by rw [hplace, List.length_cons]; omega, by rw [hplace]; rfl⟩
  have hfree : CollisionFree Sample.marked [acceptance] [acceptance, auth] := fun e he =>
    h.free e (List.mem_singleton.mp he ▸ List.mem_cons_self)
  have hdetect := checkpoints_detect_rewrites Sample.marked _ _ _ _ _ _ _ _ _ hopened.given hopened.given h.accepted
    h.recovered hfree (historyTrustState_of_trusted hopened ht) (historyTrustState_of_trusted hopened ht)
    (by split <;> decide) (by split <;> decide)
  rw [hplace] at hdetect
  exact ⟨acceptance, auth, h.accepted, h.recovered, hdetect.2.2.1⟩

end ATB.Proof.Governance
