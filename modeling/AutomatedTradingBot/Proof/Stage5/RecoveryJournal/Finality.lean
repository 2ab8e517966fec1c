import AutomatedTradingBot.Proof.Stage5.RecoveryJournal.Calls

/-!
# What becomes of an attempt

Statements about every run of the journal, by any number of threads, with faults and
restarts at any point.

* `uncertain_effect_kept`: an uncertain attempt is settled by an acknowledgement or
  by an authenticated terminal, as long as nothing that presumes that there was no
  effect is recorded over `EFFECT_POSSIBLE`;
* `recovered_final`: a recovered outcome stays, or a conflict is retained, as long
  as nothing but a terminal is recorded over it;
* `conflict_absorbing`: an attempt with a retained conflict stays held, and nothing
  requalifies exposure any more.
-/

namespace ATB.Proof.RecoveryJournal

open ATB.Stage5 ATB.Trace

section

variable {ι : Type}

def stateOf (w : World ι) (k : Key) : Option RecoveryState := (status (rows w) k).map Prod.fst

/-- The attempt is in the set of unresolved attempts: `transaction_uncertain`. -/
def Uncertain (w : World ι) (k : Key) : Prop := ∃ s, status (rows w) k = some (s, true)

theorem stateOf_eq_some {w : World ι} {k : Key} {s : RecoveryState} :
    stateOf w k = some s ↔ ∃ u, status (rows w) k = some (s, u) := by
  simp [stateOf, Option.map_eq_some_iff]

/-- The next step of the event is this transaction. -/
def Takes (w : World ι) (e : Event ι) (tx : Tx) : Prop :=
  ∃ t now fault rest, e = .work t now fault ∧ w.threads t = .commit tx :: rest

/-- An attempt is uncertain exactly in the states that require recovery. -/
def Marked (w : World ι) : Prop := ∀ k s u, status (rows w) k = some (s, u) → u = s.requiresRecovery

end

variable {ι : Type} [DecidableEq ι] {py : Platform} {w w' : World ι} {e : Event ι}

theorem marked_step (h : w.step py e = some w') (hm : Marked w) : Marked w' := by
  intro k s u hs
  rcases step_move h k with ⟨he, -⟩ | ⟨t, now, fault, tx, rest, -, -, hmove⟩
  · exact hm k s u (he ▸ hs)
  · have hnew : ∀ s' u', status (rows w') k = some (s', u') → u' = s'.requiresRecovery → u = s.requiresRecovery := by
      intro s' u' hs' hu
      rw [hs'] at hs
      cases hs
      exact hu
    cases hmove with
    | same he _ => exact hm k s u (he ▸ hs)
    | recordIntent _ hs' _ => exact hnew _ _ hs' rfl
    | prepare _ hs' _ => exact hnew _ _ hs' rfl
    | markEffectPossible _ _ hs' _ => exact hnew _ _ hs' rfl
    | hold _ _ _ hs' _ => exact hnew _ _ hs' rfl
    | conflict _ _ _ _ hs' _ => exact hnew _ _ hs' rfl
    | forget _ p _ _ _ s' hs' hr _ => exact hnew _ _ hs' (by rcases hr with rfl | rfl <;> rfl)
    | resolved committed _ _ _ _ hs' _ => exact hnew _ _ hs' (by cases committed <;> rfl)
    | terminal o _ _ _ _ _ hs' _ => exact hnew _ _ hs' (by cases o <;> rfl)

theorem marked_run {consumed : List Receipt} {es : List (Event ι)}
    (h : run (World.step py) (World.init consumed) es = some w) : Marked w :=
  run_invariant Marked (fun _ _ _ h => marked_step h) h (fun _ _ _ h => by cases h)

/-! ## A journal -/

namespace Sample

/-- The synthetic authority of the tests. -/
def policy : TrustPolicy :=
  { installationId := "SYNTHETIC-INSTALLATION-1", issuerIdentity := "SYNTHETIC-RECOVERY-AUTHORITY",
    deploymentIdentity := "Q05-ISOLATED", recipient := "SOE-01-RECOVERY-JOURNAL", policyVersion := 1,
    issuerEpoch := 1, rsaExponent := 65537, maxFutureSkewNs := 1000000000,
    rsaModulus :=
      0x85b22da1033e13dd47e64a8fb101e9af089dc7d6cd06b4821b056f394ab1df92 * 2 ^ 768 +
      0x5377d57f54f0dcdb5334a3da5949560631e77deddb8bfa1377da0743a3e8fefe * 2 ^ 512 +
      0x3deb5ab0931d1827cf9accede46e0b59cdeea9f852428c559fc9a6450ecf2194 * 2 ^ 256 +
      0x98eac2f0353fb5dcaaa0aca27c55a10455ffa9985f455e6478b9a2f84d9f6043 }

/-- SHA-256 of the texts of the sample, by their lengths. -/
def digests : List (Nat × Nat) :=
  [(437, 0xc37c2d3ba98fc34fd12b362f5cfa195f0acf6b3169e7042faf415de9df74efca),
   (454, 0x41875d21201c62e31d4128c7a32ac446dc4a850642f57af58e767a8457242d73),
   (552, 0xd86f71e9eb8eab6d7f752fed17ff58d2cc23b141e7c46801172abeac85fb877c)]

def platform : Platform where
  isNfc _ := true
  sha256 text := ⟨((digests.find? fun d => d.1 = text.length).map Prod.snd).getD 0 % 2 ^ 256,
    Nat.mod_lt _ (Nat.two_pow_pos 256)⟩

def bootstrap : Receipt :=
  { receiptType := .bootstrap, installationId := policy.installationId, storeChallenge := "challenge-1",
    operationId := none, requestDigest := none, issuerIdentity := policy.issuerIdentity,
    deploymentIdentity := policy.deploymentIdentity, recipient := policy.recipient, policyVersion := 1,
    issuerEpoch := 1, terminalOutcome := none, validFromNs := 0, validUntilNs := 1000000000, nonce := "BOOTSTRAP-1",
    attemptId := none, g00Sequence := none,
    signature :=
      "55ec6e6e0b6ec551b536a233d6bcad5f514fdb7ac03c83148c58715e4bd8e780" ++
      "61f1d74989fdf8b1ee9fa5df2d1ea165da56ebbd2aed736ed341dbd61cf52ba7" ++
      "13e7125bd11ca2b32c607e35d8f826dbba5336943ef7073be3c1fb46ea2729ae" ++
      "1a9c2e6ceefd94720a3a5015af3303f902076f8eb744e6bd487a875f61e900ad" }

def terminal : Receipt :=
  { bootstrap with
    receiptType := .terminal, operationId := some "OP-1", requestDigest := some "digest-1",
    attemptId := some "ATTEMPT-1", g00Sequence := some "10", terminalOutcome := some .denied, nonce := "TERMINAL-1",
    signature :=
      "76414280090e63916bacc4537183c911daae835470002065f75d1b28c102bab5" ++
      "7d44b256ea4921f0095e5b7e775ec97b48b4f1581de06f2c9294b7bf538a2b5e" ++
      "acaf40031b8efb89928ec03d680598b3121f680c00220fd90c5ae0be7432b198" ++
      "e11ce5de8f5c17cf1206a9f86cae504bbbac90d618b41af32a96cdd03dd461b4" }

def key : Key := ⟨"OP-1", "ATTEMPT-1"⟩

def steps (n : Nat) : List (Event Unit) := List.replicate n (.work () 5 .none)

def opened : List (Event Unit) := .reopen () (some policy) "challenge-1" :: steps 7

/-- The attempt is recorded and dispatched. -/
def dispatched : List (Event Unit) :=
  opened ++ .call () (.recordIntent key "digest-1" "10") :: steps 1 ++ .call () (.markEffectPossible key) :: steps 1

def resolved : Operation := .resolved key true (.obj [("status", .str "COMMITTED")]) "ACKNOWLEDGED"

def acknowledged : List (Event Unit) := dispatched ++ .call () resolved :: steps 1

/-- A terminal of the other outcome arrives. -/
def contradicted : List (Event Unit) := .call () (.resolveAuthenticatedTerminal key "digest-1" terminal) :: steps 3

/-- The transaction is neither a hold nor a failure. -/
def plain : List Work → Bool
  | .commit (.capacityDenied _) :: _ | .commit (.failedBeforeEffect ..) :: _ => false
  | .commit (.hold ..) :: _ | .commit (.unresolved ..) :: _ => false
  | _ => true

theorem not_takes {w : World Unit} {e : Event Unit} {tx : Tx} (hp : plain (w.threads ()) = true)
    (htx : plain [.commit tx] = false) : ¬ Takes w e tx := by
  rintro ⟨⟨⟩, now, fault, rest, -, ht⟩
  rw [ht] at hp
  cases tx <;> simp [plain] at hp htx

end Sample

/-! ## Uncertain effects -/

/-- The step records, over `EFFECT_POSSIBLE`, that there was no effect. -/
def Forgets (w : World ι) (e : Event ι) : Prop :=
  ∃ k, stateOf w k = some .effectPossible ∧ (Takes w e (.capacityDenied k) ∨ ∃ x, Takes w e (.failedBeforeEffect k x))

/-- The step is the transaction of `resolved`, or records a terminal whose receipt names the
attempt and has been accepted and consumed by the journal's authority. -/
def Settles (py : Platform) (w : World ι) (e : Event ι) (k : Key) : Prop :=
  (∃ c j x, Takes w e (.resolved k c j x)) ∨
    ∃ d g o r, Takes w e (.recordTerminal k d g o r) ∧ Names k d g o r ∧ Authenticated py w .terminal r

theorem effectPossible_of_not_held {s : RecoveryState} (h : s.requiresRecovery = true) (h' : s.held = false) :
    s = .effectPossible := by
  revert h h'
  cases s <;> decide

omit [DecidableEq ι] in
/-- A terminal is recorded only with authenticated evidence. -/
theorem authenticated_of_takes {k : Key} {d g : String} {o : TerminalOutcome} {r : Receipt} (hi : Inv py w)
    (h : Takes w e (.recordTerminal k d g o r)) : Names k d g o r ∧ Authenticated py w .terminal r := by
  obtain ⟨t, now, fault, rest, -, ht⟩ := h
  have hs := hi.shape t
  rw [ht] at hs
  cases hs with
  | plain hp => exact (hp _ (List.mem_cons_self ..)).elim
  | recordTerminal hn ha => exact ⟨hn, ha⟩

/-- In every run that never records over `EFFECT_POSSIBLE` that there was no effect, an attempt
in `EFFECT_POSSIBLE` is among the unresolved attempts, and a step takes an attempt out of them
only as `resolved` or as an authenticated recovery terminal. -/
theorem uncertain_effect_kept {consumed : List Receipt} {es : List (Event ι)}
    (h : run (World.step py) (World.init consumed) es = some w)
    (hc : Along (World.step py) (fun w e => ¬ Forgets w e) (World.init consumed) (es ++ [e]))
    (h' : w.step py e = some w') (k : Key) :
    (stateOf w k = some .effectPossible → Uncertain w k) ∧
      (Uncertain w k → ¬ Uncertain w' k → Settles py w e k) := by
  have hnot : ¬ Forgets w e := ((along_append h).mp hc).2.1
  have hmarked := marked_run h
  constructor
  · intro hs
    obtain ⟨u, hu⟩ := stateOf_eq_some.mp hs
    obtain rfl := hmarked k _ u hu
    exact ⟨_, hu⟩
  · rintro ⟨s, hs⟩ hleft
    rcases step_move h' k with ⟨he, -⟩ | ⟨t, now, fault, tx, rest, rfl, ht, hmove⟩
    · exact absurd ⟨s, he.trans hs⟩ hleft
    · have htakes : Takes w (.work t now fault) tx := ⟨t, now, fault, rest, rfl, ht⟩
      cases hmove with
      | same he _ => exact absurd ⟨s, he.trans hs⟩ hleft
      | recordIntent hs₀ _ _ => exact absurd (hs₀.symm.trans hs) (by simp)
      | prepare hs₀ _ _ => exact absurd (hs₀.symm.trans hs) (by simp)
      | markEffectPossible _ _ hs' _ => exact absurd ⟨_, hs'⟩ hleft
      | hold _ _ _ hs' _ => exact absurd ⟨_, hs'⟩ hleft
      | conflict _ _ _ _ hs' _ => exact absurd ⟨_, hs'⟩ hleft
      | resolved committed htx _ _ _ _ _ =>
        obtain ⟨j, x, rfl⟩ := htx
        exact .inl ⟨committed, j, x, htakes⟩
      | terminal o htx _ _ _ _ _ _ =>
        obtain ⟨d, g, r, rfl⟩ := htx
        exact .inr ⟨d, g, o, r, htakes, authenticated_of_takes (inv_run h) htakes⟩
      | forget htx p hp hheld _ _ _ _ _ =>
        -- the guard refuses a held attempt, and an uncertain one that is not held is in `EFFECT_POSSIBLE`
        rw [hp] at hs
        cases hs
        have hstate := effectPossible_of_not_held (hmarked k s true hp).symm hheld
        refine absurd ⟨k, stateOf_eq_some.mpr ⟨true, hstate ▸ hp⟩, ?_⟩ hnot
        rcases htx with rfl | ⟨x, rfl⟩
        · exact .inl htakes
        · exact .inr ⟨x, htakes⟩

open Sample in
/-- An acknowledgement settles the dispatched attempt. -/
theorem uncertain_effect_kept_sample : ∃ w w' : World Unit,
    run (World.step platform) (World.init []) (dispatched ++ [.call () resolved]) = some w ∧
      w.step platform (.work () 5 .none) = some w' ∧ Uncertain w key ∧ ¬ Uncertain w' key ∧
      Settles platform w (.work () 5 .none) key := by
  have hrun : ((run (World.step platform) (World.init []) (dispatched ++ [.call () resolved])).any fun w =>
      status (rows w) key = some (.effectPossible, true) && (w.step platform (.work () 5 .none)).any fun w' =>
        status (rows w') key = some (.recoveredCommitted, false)) = true := by decide +kernel
  have halong : Along (World.step platform) (fun w _ => plain (w.threads ()) = true) (World.init [])
      ((dispatched ++ [.call () resolved]) ++ [.work () 5 .none]) := by decide +kernel
  obtain ⟨w, hw, hw'⟩ := (Option.any_eq_true _ _).mp hrun
  obtain ⟨hs, hw'⟩ := Bool.and_eq_true_iff.mp hw'
  obtain ⟨w', hstep, hs'⟩ := (Option.any_eq_true _ _).mp hw'
  have hu : Uncertain w key := ⟨_, of_decide_eq_true hs⟩
  have hu' : ¬ Uncertain w' key := by
    rintro ⟨s, h⟩
    cases h.symm.trans (of_decide_eq_true hs')
  refine ⟨w, w', hw, hstep, hu, hu', (uncertain_effect_kept hw (halong.mono ?_) hstep key).2 hu hu'⟩
  rintro w e hp ⟨k, -, h | ⟨x, h⟩⟩
  · exact not_takes hp rfl h
  · exact not_takes hp rfl h

open Sample in
/-- `failed_before_effect` is accepted over `EFFECT_POSSIBLE`, and the attempt is no longer uncertain. -/
theorem uncertain_effect_forgotten : ∃ w w' : World Unit,
    run (World.step platform) (World.init []) (dispatched ++ [.call () (.failedBeforeEffect key "CONNECTION_LOST")]) =
        some w ∧
      w.step platform (.work () 5 .none) = some w' ∧ stateOf w key = some .effectPossible ∧ Uncertain w key ∧
      ¬ Uncertain w' key ∧ ¬ Settles platform w (.work () 5 .none) key := by
  have hrun : ((run (World.step platform) (World.init [])
      (dispatched ++ [.call () (.failedBeforeEffect key "CONNECTION_LOST")])).any fun w =>
      (status (rows w) key = some (.effectPossible, true) && !plain (w.threads ())) &&
        (w.step platform (.work () 5 .none)).any fun w' =>
          status (rows w') key = some (.failedBeforeEffect, false)) = true := by decide +kernel
  obtain ⟨w, hw, hw'⟩ := (Option.any_eq_true _ _).mp hrun
  obtain ⟨hs, hw'⟩ := Bool.and_eq_true_iff.mp hw'
  obtain ⟨hs, hp⟩ := Bool.and_eq_true_iff.mp hs
  obtain ⟨w', hstep, hs'⟩ := (Option.any_eq_true _ _).mp hw'
  have hstatus := of_decide_eq_true hs
  refine ⟨w, w', hw, hstep, stateOf_eq_some.mpr ⟨_, hstatus⟩, ⟨_, hstatus⟩, ?_, ?_⟩
  · rintro ⟨s, h⟩
    cases h.symm.trans (of_decide_eq_true hs')
  · rintro (⟨c, j, x, ⟨⟩, now, fault, rest, -, ht⟩ | ⟨d, g, o, r, ⟨⟨⟩, now, fault, rest, -, ht⟩, -⟩)
    · simp [ht, plain] at hp
    · simp [ht, plain] at hp

/-! ## Recovered outcomes -/

/-- The step records something other than a terminal over a recovered outcome. -/
def Overwrites (w : World ι) (e : Event ι) : Prop :=
  ∃ k s, stateOf w k = some s ∧ s.recovered = true ∧
    (Takes w e (.capacityDenied k) ∨
      ∃ x, Takes w e (.hold k x) ∨ Takes w e (.unresolved k x) ∨ Takes w e (.failedBeforeEffect k x))

/-- A recovered outcome stays, or a conflict is retained for it. -/
theorem recovered_step (h : w.step py e = some w') (hno : ¬ Overwrites w e) {k : Key} {s : RecoveryState}
    (hr : s.recovered = true) (hs : stateOf w k = some s ∨ (rows w).hasConflict k = true) :
    stateOf w' k = some s ∨ (rows w').hasConflict k = true := by
  rcases hs with hs | hc
  · obtain ⟨u, hu⟩ := stateOf_eq_some.mp hs
    rcases step_move h k with ⟨he, -⟩ | ⟨t, now, fault, tx, rest, rfl, ht, hmove⟩
    · exact .inl (stateOf_eq_some.mpr ⟨u, he.trans hu⟩)
    have htakes : Takes w (.work t now fault) tx := ⟨t, now, fault, rest, rfl, ht⟩
    have hprior : ∀ {p}, status (rows w) k = some p → p.1 = s := by
      intro p hp
      rw [hu] at hp
      cases hp
      rfl
    cases hmove with
    | same he _ => exact .inl (stateOf_eq_some.mpr ⟨u, he.trans hu⟩)
    | recordIntent hs₀ _ _ => exact absurd (hs₀.symm.trans hu) (by simp)
    | prepare hs₀ _ _ => exact absurd (hs₀.symm.trans hu) (by simp)
    | markEffectPossible _ hs₀ _ _ => exact absurd hr (by rw [← hprior hs₀]; simp [RecoveryState.recovered])
    | resolved _ _ _ hs₀ _ _ _ => exact absurd hr (by rw [← hprior hs₀]; simp [RecoveryState.recovered])
    | terminal _ _ p hs₀ hp _ _ _ =>
      rw [hprior hs₀] at hp
      exact absurd hr (by rcases hp with rfl | rfl <;> simp [RecoveryState.recovered])
    | conflict _ _ _ _ _ hc => exact .inr hc
    | hold htx _ _ _ _ =>
      refine absurd ⟨k, s, hs, hr, .inr ?_⟩ hno
      obtain ⟨x, rfl | rfl⟩ := htx
      · exact ⟨x, .inl htakes⟩
      · exact ⟨x, .inr (.inl htakes)⟩
    | forget htx _ _ _ _ _ _ _ _ =>
      refine absurd ⟨k, s, hs, hr, ?_⟩ hno
      rcases htx with rfl | ⟨x, rfl⟩
      · exact .inl htakes
      · exact .inr ⟨x, .inr (.inr htakes)⟩
  · exact .inr (conflict_step h hc)

/-- In every run that records nothing but terminals over a recovered outcome, an attempt that
has been recorded with a recovered outcome keeps it, unless a terminal conflict is retained
for it. -/
theorem recovered_final {consumed : List Receipt} {es es' : List (Event ι)}
    (h : run (World.step py) (World.init consumed) es = some w)
    (hc : Along (World.step py) (fun w e => ¬ Overwrites w e) (World.init consumed) (es ++ es'))
    (h' : run (World.step py) w es' = some w') {k : Key} {s : RecoveryState} (hs : stateOf w k = some s)
    (hr : s.recovered = true) :
    stateOf w' k = some s ∨ (rows w').hasConflict k = true :=
  run_invariant_along (fun x => stateOf x k = some s ∨ (rows x).hasConflict k = true)
    (fun _ _ _ hx hno hi => recovered_step hx hno hr hi) h' ((along_append h).mp hc).2 (.inl hs)

namespace Sample

/-- An operator's hold, and then the terminal `DENIED`. -/
def overturned : List (Event Unit) := .call () (.hold key "OPERATOR") :: steps 1 ++ contradicted

/-- The runs of the samples, which begin alike. -/
theorem runs_ok : ((run (World.step platform) (World.init []) acknowledged).any fun w =>
      (stateOf w key = some .recoveredCommitted && (run (World.step platform) w contradicted).any fun w' =>
        stateOf w' key = some .ambiguousHold && (rows w').hasConflict key) &&
      (run (World.step platform) w overturned).any fun w' =>
        stateOf w' key = some .recoveredDenied && !(rows w').hasConflict key) = true ∧
    Along (World.step platform) (fun w _ => plain (w.threads ()) = true) (World.init []) (acknowledged ++ contradicted) := by
  decide +kernel

/-- A terminal `DENIED` arrives for an attempt that was acknowledged as `COMMITTED`. -/
theorem contradicted_run : ∃ w w' : World Unit, run (World.step platform) (World.init []) acknowledged = some w ∧
    run (World.step platform) w contradicted = some w' ∧ stateOf w key = some .recoveredCommitted ∧
    stateOf w' key = some .ambiguousHold ∧ (rows w').hasConflict key = true := by
  obtain ⟨w, hw, h⟩ := (Option.any_eq_true _ _).mp runs_ok.1
  obtain ⟨hw', -⟩ := Bool.and_eq_true_iff.mp h
  obtain ⟨hs, hw'⟩ := Bool.and_eq_true_iff.mp hw'
  obtain ⟨w', hstep, hs'⟩ := (Option.any_eq_true _ _).mp hw'
  obtain ⟨hs', hc⟩ := Bool.and_eq_true_iff.mp hs'
  exact ⟨w, w', hw, hstep, of_decide_eq_true hs, of_decide_eq_true hs', hc⟩

end Sample

open Sample in
/-- A terminal of the other outcome leaves a retained conflict. -/
theorem recovered_final_sample : ∃ w w' : World Unit,
    run (World.step platform) (World.init []) acknowledged = some w ∧
      run (World.step platform) w contradicted = some w' ∧ stateOf w' key ≠ some .recoveredCommitted ∧
      (stateOf w' key = some .recoveredCommitted ∨ (rows w').hasConflict key = true) := by
  obtain ⟨w, w', hw, hw', hs, hs', -⟩ := contradicted_run
  refine ⟨w, w', hw, hw', by rw [hs']; decide, recovered_final hw (runs_ok.2.mono ?_) hw' hs rfl⟩
  rintro w e hp ⟨k, s, -, -, h | ⟨x, h | h | h⟩⟩
  all_goals exact not_takes hp rfl h

open Sample in
/-- A hold is accepted over `RECOVERED_COMMITTED`, and then a terminal `DENIED` without a conflict. -/
theorem recovered_overturned : ∃ w w' : World Unit,
    run (World.step platform) (World.init []) acknowledged = some w ∧
      run (World.step platform) w (.call () (.hold key "OPERATOR") :: steps 1 ++ contradicted) = some w' ∧
      stateOf w key = some .recoveredCommitted ∧ stateOf w' key = some .recoveredDenied ∧
      (rows w').hasConflict key = false := by
  obtain ⟨w, hw, h⟩ := (Option.any_eq_true _ _).mp runs_ok.1
  obtain ⟨hs, hw'⟩ := Bool.and_eq_true_iff.mp h
  obtain ⟨hs, -⟩ := Bool.and_eq_true_iff.mp hs
  obtain ⟨w', hstep, hs'⟩ := (Option.any_eq_true _ _).mp hw'
  obtain ⟨hs', hc⟩ := Bool.and_eq_true_iff.mp hs'
  exact ⟨w, w', hw, hstep, of_decide_eq_true hs, of_decide_eq_true hs', by simpa using hc⟩

/-! ## Retained conflicts -/

/-- Every attempt with a retained conflict is held and uncertain. -/
def Held (w : World ι) : Prop := ∀ k, (rows w).hasConflict k = true → status (rows w) k = some (.ambiguousHold, true)

theorem held_step (h : w.step py e = some w') (hh : Held w) : Held w' := by
  intro k hc'
  rcases step_move h k with ⟨he, hc⟩ | ⟨t, now, fault, tx, rest, -, -, hmove⟩
  · exact he.trans (hh k (hc ▸ hc'))
  cases hmove with
  | same he hc => exact he.trans (hh k (hc ▸ hc'))
  | recordIntent hs _ hc => exact absurd ((hh k (hc ▸ hc')).symm.trans hs) (by simp)
  | prepare hs _ hc => exact absurd ((hh k (hc ▸ hc')).symm.trans hs) (by simp)
  | markEffectPossible _ hs _ hc => exact absurd ((hh k (hc ▸ hc')).symm.trans hs) (by simp)
  | hold _ _ _ hs' _ => exact hs'
  | resolved _ _ _ _ hn _ hc => exact absurd (hc.symm.trans hc') (by simp [hn])
  | forget _ _ _ _ hn _ _ _ hc => exact absurd (hc.symm.trans hc') (by simp [hn])
  | terminal _ _ _ _ _ hn _ hc => exact absurd (hc.symm.trans hc') (by simp [hn])
  | conflict _ _ _ _ hs' _ => exact hs'

theorem held_run {consumed : List Receipt} {es : List (Event ι)}
    (h : run (World.step py) (World.init consumed) es = some w) : Held w :=
  run_invariant Held (fun _ _ _ h => held_step h) h (fun _ h => by cases h)

omit [DecidableEq ι] in
theorem unresolved_of_held {k : Key} (h : status (rows w) k = some (.ambiguousHold, true)) :
    (rows w).unresolved? ≠ none := by
  intro hn
  obtain ⟨r, hr, he⟩ := Option.map_eq_some_iff.mp h
  have hreq := unresolved?_eq_none.mp hn r (List.mem_of_find?_eq_some hr)
  rw [(Prod.mk.inj he).1] at hreq
  cases hreq

/-- In every run: once a conflict is retained for an attempt, it stays retained, the attempt
stays in `AMBIGUOUS_HOLD` and among the unresolved attempts, and no call of
`requalify_exposure` or `authorize_bootstrap` gets past its evaluation any more, so that none
succeeds that had not passed it before; with one caller at a time, none succeeds at all. -/
theorem conflict_absorbing {consumed : List Receipt} {es es' : List (Event ι)} {k : Key}
    (h : run (World.step py) (World.init consumed) es = some w) (hc : (rows w).hasConflict k = true)
    (h' : run (World.step py) w es' = some w') :
    ((rows w').hasConflict k = true ∧ stateOf w' k = some .ambiguousHold ∧ Uncertain w' k ∧
      (rows w').unresolved? ≠ none) ∧
    (∀ t, ¬ Opens (w.threads t) → ¬ Opens (w'.threads t)) ∧
    ((∀ t u : ι, t = u) → ∀ t, ¬ Opens (w'.threads t)) := by
  have hunresolved : ∀ {x : World ι}, Held x → (rows x).hasConflict k = true → (rows x).unresolved? ≠ none :=
    fun hh hc => unresolved_of_held (hh k hc)
  have hconflict : (rows w').hasConflict k = true :=
    run_invariant (fun x => (rows x).hasConflict k = true) (fun _ _ _ h hc => conflict_step h hc) h' hc
  have hrun : run (World.step py) (World.init consumed) (es ++ es') = some w' := run_append.mpr ⟨w, h, h'⟩
  have hheld := held_run hrun k hconflict
  refine ⟨⟨hconflict, stateOf_eq_some.mpr ⟨_, hheld⟩, ⟨_, hheld⟩, unresolved_of_held hheld⟩, ?_, ?_⟩
  · intro t ht
    refine (run_invariant (fun x => (Held x ∧ (rows x).hasConflict k = true) ∧ ¬ Opens (x.threads t)) ?_ h'
      ⟨⟨held_run h, hc⟩, ht⟩).2
    rintro x e x' hx ⟨⟨hh, hc⟩, hno⟩
    refine ⟨⟨held_step hx hh, conflict_step hx hc⟩, fun ho => ?_⟩
    rcases step_opens hx ho with ho | hn
    · exact hno ho
    · exact hunresolved hh hc hn
  · intro hseq t ho
    exact unresolved_of_held hheld (quiet_run hseq hrun ho)

open Sample in
/-- The conflict of the sample survives every later operation. -/
theorem conflict_absorbing_sample : ∃ w : World Unit,
    run (World.step platform) (World.init []) (acknowledged ++ contradicted) = some w ∧
      (rows w).hasConflict key = true ∧
      ∀ es' w', run (World.step platform) w es' = some w' →
        stateOf w' key = some .ambiguousHold ∧ ∀ t, ¬ Opens (w'.threads t) := by
  obtain ⟨w₀, w, hw₀, hw, -, -, hc⟩ := contradicted_run
  have hrun := run_append.mpr ⟨w₀, hw₀, hw⟩
  refine ⟨w, hrun, hc, fun es' w' h' => ?_⟩
  have h := conflict_absorbing hrun hc h'
  exact ⟨h.1.2.1, h.2.2 fun _ _ => rfl⟩

end ATB.Proof.RecoveryJournal
