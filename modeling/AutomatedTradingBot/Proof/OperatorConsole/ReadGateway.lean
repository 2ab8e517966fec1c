import AutomatedTradingBot.Proof.OperatorConsole.Codec
import AutomatedTradingBot.Source.OperatorConsole.ReadGateway

/-!
# The read gateway of the operator console

* `gatewayResponse_ok`: a response is made, and is bounded;
* `project_ok`: what the reader did is never a denial, and only a valid snapshot is shown;
* `read_gateway`: reading always returns a bounded response, a denial is the same for
  every reader, and an observation is shown to a current principal that holds the
  permission.
-/

namespace ATB.Proof.OperatorConsole

open ATB.OperatorConsole

variable {py : Platform} {t : Timestamp}

/-- The response is of at most the limit. -/
def Bounded (r : GatewayResponse) : Prop := ∃ bytes, r.canonicalBytes = .ok bytes ∧ bytes.length ≤ maxResponseBytes

def limitExceeded : GatewayResponse := ⟨.unknown, ["RESPONSE_LIMIT_EXCEEDED"], none⟩

theorem limitExceeded_bounded : Bounded limitExceeded := by
  have hlength : (limitExceeded.canonicalBytes.toOption.map fun bytes => decide (bytes.length ≤ maxResponseBytes)) =
      some true := by decide +kernel
  obtain ⟨bytes, hbytes, hle⟩ := Option.map_eq_some_iff.mp hlength
  exact ⟨bytes, ok_of_toOption hbytes, of_decide_eq_true hle⟩

/-- A response is made of an observation that can be written, and is bounded. -/
theorem gatewayResponse_ok (state : GatewayState) (reasons : List String) {observation : Option GatewayObservation}
    (h : ∀ o ∈ observation, ∃ j, performanceMapping o.performance = .ok j) :
    ∃ r, gatewayResponse state reasons observation = .ok r ∧ Bounded r ∧
      (r = ⟨state, reasons, observation⟩ ∨ r = limitExceeded) := by
  obtain ⟨bytes, hbytes⟩ : ∃ bytes, (⟨state, reasons, observation⟩ : GatewayResponse).canonicalBytes = .ok bytes := by
    cases observation with
    | none => exact ⟨_, rfl⟩
    | some o =>
      obtain ⟨j, hj⟩ := h o rfl
      obtain ⟨m, hm⟩ : ∃ m, o.asMapping = .ok m := ⟨_, bind_eq_ok.mpr ⟨j, hj, rfl⟩⟩
      exact ⟨_, bind_eq_ok.mpr ⟨_, bind_eq_ok.mpr ⟨m, hm, rfl⟩, rfl⟩⟩
  unfold gatewayResponse
  simp only [hbytes]
  by_cases hsize : maxResponseBytes < bytes.length
  · exact ⟨limitExceeded, if_pos hsize, limitExceeded_bounded, .inr rfl⟩
  · exact ⟨_, if_neg hsize, ⟨bytes, hbytes, Nat.le_of_not_lt hsize⟩, .inl rfl⟩

/-- A response without an observation. -/
theorem gatewayResponse_none (state : GatewayState) (reasons : List String) :
    ∃ r, gatewayResponse state reasons none = .ok r ∧ Bounded r ∧ (r.state = state ∨ r.state = .unknown) ∧
      r.observation = none := by
  obtain ⟨r, hr, hbounded, rfl | rfl⟩ := @gatewayResponse_ok state reasons none
    fun _ h => (by cases h)
  · exact ⟨_, hr, hbounded, .inl rfl, rfl⟩
  · exact ⟨_, hr, hbounded, .inr rfl, rfl⟩

/-- What is shown of what the reader did: a snapshot that is valid. -/
def Shows (py : Platform) (t : Timestamp) (current : ReadCurrent) (o : GatewayObservation) : Prop :=
  ∃ result snapshot, current = .result result ∧ result.snapshot = .snapshot snapshot ∧
    validateSnapshot py snapshot t = .ok () ∧ o = gatewayObservation snapshot

/-- A response to a principal that may read. -/
structure Projects (py : Platform) (t : Timestamp) (current : ReadCurrent) (r : GatewayResponse) : Prop where
  bounded : Bounded r
  state : r.state ≠ .accessDenied
  shows : ∀ o, r.observation = some o → Shows py t current o

theorem projects_none {current : ReadCurrent} (state : GatewayState) (reasons : List String) (h : state ≠ .accessDenied) :
    ∃ r, gatewayResponse state reasons none = .ok r ∧ Projects py t current r := by
  obtain ⟨r, hr, hbounded, hstate, hnone⟩ := gatewayResponse_none state reasons
  refine ⟨r, hr, hbounded, ?_, fun o ho => ?_⟩
  · rcases hstate with hstate | hstate
    · rw [hstate]
      exact h
    · rw [hstate]
      decide
  · rw [hnone] at ho
    cases ho

theorem validatedSnapshot_ok {field : SnapshotField} {s : ReconciliationSnapshot}
    (h : validatedSnapshot py t field = .ok s) : field = .snapshot s ∧ validateSnapshot py s t = .ok () := by
  cases field with
  | absent => cases h
  | foreign => cases h
  | snapshot value =>
    obtain ⟨⟨⟩, hvalid, hs⟩ := bind_eq_ok.mp h
    obtain rfl := pure_eq_ok.mp hs
    exact ⟨rfl, hvalid⟩

variable (py t) in
theorem project_ok (current : ReadCurrent) : ∃ r, project py t current = .ok r ∧ Projects py t current r := by
  cases current with
  | raised => exact projects_none _ _ (by decide)
  | foreign => exact projects_none _ _ (by decide)
  | result result =>
    unfold project
    dsimp only
    split
    · exact projects_none _ _ (by decide)
    · exact projects_none _ _ (by decide)
    · split
      · exact projects_none _ _ (by decide)
      · rename_i snapshot hsnapshot
        obtain ⟨hfield, hvalid⟩ := validatedSnapshot_ok hsnapshot
        split
        · exact projects_none _ _ (by decide)
        · split
          · exact projects_none _ _ (by decide)
          · obtain ⟨r, hr, hbounded, rfl | rfl⟩ := @gatewayResponse_ok .unknown (safeReasons result)
              (some (gatewayObservation snapshot)) fun o ho => by
                cases ho
                exact ⟨_, performanceMapping_of_complete (validateSnapshot_eq_ok.mp hvalid).performance⟩
            · refine ⟨_, hr, hbounded, by rintro ⟨⟩, fun o ho => ?_⟩
              cases ho
              exact ⟨result, snapshot, rfl, hfield, hvalid, rfl⟩
            · exact ⟨_, hr, hbounded, by decide, fun o ho => (by cases ho)⟩
    · exact projects_none _ _ (by decide)

/-- The principal is current and holds the permission. -/
structure MayRead (t : Timestamp) (asserted : Asserted) (p : AuthenticatedPrincipal) : Prop where
  asserted : asserted = .principal p
  authenticated : p.authenticatedAtUtc.value ≤ t.value
  expires : t.value < p.expiresAtUtc.value
  permission : requiredPermission ∈ p.permissions

theorem validatedPrincipal_ok {asserted : Asserted} {p : AuthenticatedPrincipal}
    (h : validatedPrincipal t asserted = .ok p) :
    asserted = .principal p ∧ p.authenticatedAtUtc.value ≤ t.value ∧ t.value < p.expiresAtUtc.value := by
  cases asserted with
  | raised refusal => cases h
  | foreign => cases h
  | principal value =>
    simp only [validatedPrincipal, bind_eq_ok, raiseIf_eq_ok, exists_const, pure_eq_ok, not_or] at h
    obtain ⟨-, -, -, ⟨hauthenticated, hexpires⟩, rfl⟩ := h
    exact ⟨rfl, Datetime.not_lt.mp hauthenticated, Datetime.not_le.mp hexpires⟩

/-- A reading is denied whatever the reader does, or is of what the reader does. -/
theorem read_cases {Credential : Type} (authenticate : Credential → Timestamp → Asserted) (credential : Credential)
    (time : Option Timestamp) :
    (∃ r, Bounded r ∧ r.observation = none ∧ ∀ reader, ReadGateway.read py ⟨authenticate, reader⟩ credential time = .ok r) ∨
    ∃ t p, time = some t ∧ MayRead t (authenticate credential t) p ∧
      ∀ reader, ReadGateway.read py ⟨authenticate, reader⟩ credential time = project py t (reader t) := by
  have denied (reason : String) (h : ∀ reader, ReadGateway.read py ⟨authenticate, reader⟩ credential time =
      gatewayResponse .accessDenied [reason] none) : ∃ r, Bounded r ∧ r.observation = none ∧
        ∀ reader, ReadGateway.read py ⟨authenticate, reader⟩ credential time = .ok r := by
    obtain ⟨r, hr, hbounded, -, hnone⟩ := gatewayResponse_none .accessDenied [reason]
    exact ⟨r, hbounded, hnone, fun reader => (h reader).trans hr⟩
  cases time with
  | none => exact .inl (denied _ fun _ => rfl)
  | some t =>
    cases hp : validatedPrincipal t (authenticate credential t) with
    | error refusal =>
      left
      cases refusal with
      | required => exact denied "AUTHENTICATION_REQUIRED" fun reader => by simp only [ReadGateway.read, hp]
      | unavailable => exact denied "AUTHENTICATION_UNAVAILABLE" fun reader => by simp only [ReadGateway.read, hp]
    | ok p =>
      by_cases hpermission : requiredPermission ∈ p.permissions
      · obtain ⟨hasserted, hauthenticated, hexpires⟩ := validatedPrincipal_ok hp
        refine .inr ⟨t, p, rfl, ⟨hasserted, hauthenticated, hexpires, hpermission⟩, fun reader => ?_⟩
        simp only [ReadGateway.read, hp, hpermission, not_true_eq_false, if_false]
      · refine .inl (denied "PERMISSION_DENIED" fun reader => ?_)
        simp only [ReadGateway.read, hp, hpermission, not_false_eq_true, if_true]

end ATB.Proof.OperatorConsole
