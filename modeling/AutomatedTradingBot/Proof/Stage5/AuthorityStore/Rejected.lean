import AutomatedTradingBot.Proof.Stage5.AuthorityStore.Rollback

/-!
# What a rejected publication leaves

* `publish_rejected`: a new command whose successor is refused leaves it pending;
* `publish_known`: a command that the database has is answered without a write;
* `rejected_publish`: a rejected publication leaves the store alone exactly when the
  command itself is what is refused.
-/

namespace ATB.Proof.AuthorityStore

open ATB.Durable ATB.Stage5.AuthorityStore

variable {env : Environment} {s t : Store} {c p r d : String} {x : AuthorityState}

/-- The operation raises, and the anchor, the pending successor and the database are as they were. -/
def RaisesAlone {α : Type} (x : Durable.Operation Store StoreError α) (s : Store) : Prop :=
  ∃ e, x.run s none = (.error (.raised e), s)

/-- `commit_successor` refuses the successor. -/
def Refused (env : Environment) (s : Store) (c p : String) (x : AuthorityState) (r : String) : Prop :=
  ∀ db, commitSuccessor env s.database.state.stateDigest c p x r s.database ≠ .ok db

/-- A pending successor that has no text is not read back. -/
theorem announce_empty (hp : s.authorityPending = none) (m : String) :
    ∃ e, Ends (announce "" m) s (.error (.raised e)) { s with authorityPending := some "" } := by
  have hw : Ends (writePending "") s (.ok ()) { s with authorityPending := some "" } := by
    unfold writePending
    refine Ends.get ?_
    refine (Ends.check (readPending_eq_ok.mpr ⟨by rw [hp]; simp, hp.symm⟩)).bind ?_
    exact (Ends.check (raiseIf_of_not (by simp))).bind (Ends.write _ _)
  have hread : readPending { s with authorityPending := some "" } =
      .error (.authorityService ("protected witness " ++ "AuthorityPending" ++ " is invalid")) := rfl
  refine ⟨.authorityService ("protected witness " ++ "AuthorityPending" ++ " is invalid"), ?_⟩
  unfold announce
  refine hw.bind ?_
  refine Ends.get ?_
  exact Ends.stop (Ends.raised hread)

/-- The pending successor is written before the successor is checked. -/
theorem publish_rejected_ends (hv : s.database.state.verify env = .ok ()) (ho : reportsOperational s = true)
    (hn : Dict.get? c s.database.commands = none) (hc : Refused env s c p x r) :
    ∃ e, Ends (publish env c p x r) s (.error (.raised e)) { s with authorityPending := some x.stateDigest } := by
  obtain ⟨-, -, hp⟩ := reportsOperational_iff.mp ho
  by_cases hd : x.stateDigest = ""
  · obtain ⟨e, hannounce⟩ := announce_empty hp "pending witness readback failed"
    refine ⟨e, publish_ends hv ho hn ?_⟩
    unfold publishNew
    rw [hd]
    exact Ends.stop hannounce
  · cases hy : commitSuccessor env s.database.state.stateDigest c p x r s.database with
    | ok db => exact absurd hy (hc db)
    | error e =>
      refine ⟨e, publish_ends hv ho hn ?_⟩
      unfold publishNew commit
      refine (announce_ends hp hd _).bind ?_
      exact Ends.stop (Ends.get (Ends.stop (Ends.raised hy)))

theorem publish_rejected (hv : s.database.state.verify env = .ok ()) (ho : reportsOperational s = true)
    (hn : Dict.get? c s.database.commands = none) (hc : Refused env s c p x r) :
    ∃ e, (publish env c p x r).run s none = (.error (.raised e), { s with authorityPending := some x.stateDigest }) := by
  obtain ⟨e, h⟩ := publish_rejected_ends hv ho hn hc
  exact ⟨e, h.run⟩

/-- What is stored for the command is all that a publication of it looks at. -/
theorem publish_known (hv : s.database.state.verify env = .ok ()) (ho : reportsOperational s = true)
    (hn : Dict.get? c s.database.commands ≠ none) :
    (∃ e, commandResult env s.database c p s.database.state.stateDigest = .error e ∧
      (publish env c p x r).run s none = (.error (.raised e), s)) ∨
    ∃ result, commandResult env s.database c p s.database.state.stateDigest = .ok (some result) ∧
      (publish env c p x r).run s none = (.ok result, s) := by
  cases hx : commandResult env s.database c p s.database.state.stateDigest with
  | error e =>
    refine .inl ⟨e, rfl, Ends.run ?_⟩
    unfold publish
    refine (operationalState_ends hv ho).bind ?_
    exact Ends.get (Ends.stop (Ends.raised hx))
  | ok prior =>
    cases prior with
    | none => exact absurd (commandResult_eq_none hx) hn
    | some result =>
      refine .inr ⟨result, rfl, Ends.run ?_⟩
      unfold publish
      refine (operationalState_ends hv ho).bind ?_
      refine Ends.get ?_
      exact (Ends.check hx).bind (Ends.pure _ _)

/-- While a successor is pending the store is not operational, -/
theorem operationalState_pending (hp : s.authorityPending = some d) :
    ∃ e, Ends (operationalState env) s (.error (.raised e)) s := by
  unfold operationalState
  cases hread : Stage5.AuthorityStore.read env s.database with
  | error e => exact ⟨e, Ends.get (Ends.stop (Ends.raised hread))⟩
  | ok state =>
    cases hanchor : readAnchor s with
    | error e => exact ⟨e, Ends.get ((Ends.check hread).bind (Ends.stop (Ends.raised hanchor)))⟩
    | ok anchor =>
      cases hpending : readPending s with
      | error e => exact ⟨e, Ends.get ((Ends.check hread).bind ((Ends.check hanchor).bind (Ends.stop (Ends.raised hpending))))⟩
      | ok pending =>
        have hsome : pending = some d := (readPending_eq_ok.mp hpending).2.trans hp
        have hclosed : (classifyRecovery anchor pending state.stateDigest).operational = false := by
          rw [Bool.eq_false_iff, ne_eq, operational_iff, hsome]
          exact fun h => nomatch h.2
        refine ⟨.authorityService ("authority witness is not operational: " ++
            (classifyRecovery anchor pending state.stateDigest).disposition.value),
          Ends.get ((Ends.check hread).bind ((Ends.check hanchor).bind ((Ends.check hpending).bind ?_)))⟩
        exact Ends.stop (Ends.raised (raiseIf_of hclosed))

/-- so every publication is refused, and changes nothing. -/
theorem publish_pending (hp : s.authorityPending = some d) : RaisesAlone (publish env c p x r) s := by
  obtain ⟨e, h⟩ : ∃ e, Ends (operationalState env) s (.error (.raised e)) s := operationalState_pending hp
  exact ⟨e, (Ends.stop h).run⟩

/-- A rejected publication leaves the store as it was exactly when what is stored for its command is refused. With a new
command it leaves the successor pending: the store is not operational, and it refuses every later publication. -/
theorem rejected_publish (hv : s.database.state.verify env = .ok ()) (ho : reportsOperational s = true)
    (hc : Refused env s c p x r) :
    (RaisesAlone (publish env c p x r) s ↔
      ∃ e, commandResult env s.database c p s.database.state.stateDigest = .error e) ∧
    (Dict.get? c s.database.commands = none →
      reportsOperational ((publish env c p x r).run s none).2 = false ∧
        ∀ c' p' x' r', RaisesAlone (publish env c' p' x' r') ((publish env c p x r).run s none).2) := by
  by_cases hn : Dict.get? c s.database.commands = none
  · obtain ⟨e, hrun⟩ := publish_rejected hv ho hn hc
    have hresult : commandResult env s.database c p s.database.state.stateDigest = .ok none := by rw [commandResult, hn]
    refine ⟨⟨?_, ?_⟩, fun _ => ?_⟩
    · rintro ⟨e', hrun'⟩
      obtain ⟨-, -, hp⟩ := reportsOperational_iff.mp ho
      have hsame := congrArg (fun t => t.2.authorityPending) (hrun.symm.trans hrun')
      rw [hp] at hsame
      cases hsame
    · rintro ⟨e', he'⟩
      rw [hresult] at he'
      cases he'
    · rw [hrun]
      exact ⟨not_operational_of_pending rfl, fun _ _ _ _ => publish_pending rfl⟩
  · refine ⟨?_, fun h => absurd h hn⟩
    rcases publish_known (x := x) (r := r) hv ho hn with ⟨e, he, hrun⟩ | ⟨result, hresult, hrun⟩
    · exact ⟨fun _ => ⟨e, he⟩, fun _ => ⟨e, hrun⟩⟩
    · refine ⟨?_, ?_⟩
      · rintro ⟨e, hrun'⟩
        cases (congrArg Prod.fst (hrun.symm.trans hrun') : (Except.ok result : Except (Stop StoreError) String) = _)
      · rintro ⟨e, he⟩
        rw [hresult] at he
        cases he

theorem refused_self (r : String) : Refused env s c p s.database.state r := by
  intro db h
  have hsequence := (commitSuccessor_spec h).2.2.1
  omega

theorem rejected_publish_sample :
    RaisesAlone (publish Sample.environment "c1" "other" Sample.second "") (Sample.settled Sample.secondDatabase) ∧
    ∀ c' p' x' r', RaisesAlone (publish Sample.environment c' p' x' r')
      ((publish Sample.environment "c02" "payload" Sample.second "").run (Sample.settled Sample.secondDatabase) none).2 := by
  have hop : reportsOperational (Sample.settled Sample.secondDatabase) = true := Sample.settled_operational (by decide)
  have hrefused : ∀ c p, Refused Sample.environment (Sample.settled Sample.secondDatabase) c p Sample.second "" :=
    fun c p => refused_self (s := Sample.settled Sample.secondDatabase) ""
  have hconflict : commandResult Sample.environment Sample.secondDatabase "c1" "other" Sample.second.stateDigest =
      .error (.authorityService "command ID reused with conflicting payload") := by decide +kernel
  exact ⟨(rejected_publish (s := Sample.settled Sample.secondDatabase) Sample.second_verify hop (hrefused _ _)).1.mpr
      ⟨_, hconflict⟩,
    ((rejected_publish (s := Sample.settled Sample.secondDatabase) Sample.second_verify hop (hrefused _ _)).2 (by decide)).2⟩

/-- The state of the store as its own successor. -/
theorem rejected_publish_pending :
    ¬ ∀ (env : Environment) (s : Store) (c p : String) (x : AuthorityState) (r : String),
      s.database.state.verify env = .ok () → reportsOperational s = true → Refused env s c p x r →
      RaisesAlone (publish env c p x r) s ∧ reportsOperational ((publish env c p x r).run s none).2 = true := by
  intro hall
  have hop : reportsOperational (Sample.settled Sample.firstDatabase) = true := Sample.settled_operational (by decide)
  have hrefused : Refused Sample.environment (Sample.settled Sample.firstDatabase) "c1" "payload" Sample.first "" :=
    refused_self (s := Sample.settled Sample.firstDatabase) ""
  obtain ⟨-, hstill⟩ := hall _ (Sample.settled Sample.firstDatabase) _ _ _ _ Sample.first_verify hop hrefused
  obtain ⟨e, hrun⟩ := publish_rejected (s := Sample.settled Sample.firstDatabase) Sample.first_verify hop rfl hrefused
  rw [hrun, not_operational_of_pending rfl] at hstill
  cases hstill

end ATB.Proof.AuthorityStore
