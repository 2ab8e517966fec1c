import AutomatedTradingBot.Source.OperatorConsole.Snapshot

/-!
# The read gateway of the operator console

`reconciliation/operator_console_read_gateway.py`. What the authentication boundary and
the reader do is data of a call: they raise, or they return a value. `foreign` stands for
a value of another type than the one that is asked for, and for one with a field of
another type than its class declares: the checks of its type raise what the gateway
catches. A text that is no text is `none`.
-/

namespace ATB.OperatorConsole

open Stage5 (dumpsAscii)

def gatewaySchemaVersion : String := "ATIS-OC-RECONCILIATION-READ-GATEWAY-V1"
def requiredPermission : String := "reconciliation.observation.read"
def maxResponseBytes : Nat := 65536
def maxPermissions : Nat := 32
def maxPermissionChars : Nat := 96
def maxReasons : Nat := 8

/-- `_SAFE_SOURCE_REASONS`. -/
def safeSourceReasons : List String :=
  ["CURRENT_POINTER_MISSING", "PERSISTED_SNAPSHOT_UNTRUSTED", "FRESHNESS_UNVERIFIED", "PRODUCER_UNAVAILABLE",
    "TRUST_NOT_ESTABLISHED", "SOURCE_NOT_AUTHORISED", "ADAPTER_DISABLED"]

/-- `GatewayState`. -/
inductive GatewayState where
  | accessDenied
  | unknown
  | unavailable
deriving DecidableEq

def GatewayState.value : GatewayState → String
  | .accessDenied => "ACCESS_DENIED"
  | .unknown => "UNKNOWN"
  | .unavailable => "UNAVAILABLE"

/-! ## Principals -/

/-- A letter or digit of ASCII. -/
def isAlphanumeric (c : Char) : Bool := c.isAlpha || c.isDigit

/-- `_PRINCIPAL_ID.fullmatch(value)`. -/
def isPrincipalId (value : String) : Bool :=
  match Text.chars value with
  | [] => false
  | c :: s => isAlphanumeric c && decide (s.length ≤ 127) &&
    s.all fun c => isAlphanumeric c || decide (c ∈ ['.', '_', ':', '@', '/', '-'])

/-- `_PERMISSION.fullmatch(value)`. -/
def isPermission (value : String) : Bool :=
  match Text.chars value with
  | [] => false
  | c :: s => c.isLower && decide (s.length ≤ 95) &&
    s.all fun c => c.isLower || c.isDigit || decide (c ∈ ['.', '_', ':', '-'])

/-- `AuthenticatedPrincipal`. -/
structure AuthenticatedPrincipal where
  principalId : String
  permissions : List String
  authenticatedAtUtc : Timestamp
  expiresAtUtc : Timestamp

/-- What the gateway catches in turn: the listed classes, or any other exception. -/
inductive Refusal where
  | required
  | unavailable
deriving DecidableEq

/-- What `authenticate` does. -/
inductive Asserted where
  | raised (refusal : Refusal)
  | foreign
  | principal (value : AuthenticatedPrincipal)

/-- `_validated_principal`, after the types of the fields. -/
def validatedPrincipal (evaluated : Timestamp) : Asserted → Except Refusal AuthenticatedPrincipal
  | .raised refusal => .error refusal
  | .foreign => .error .required
  | .principal value => do
    raiseIf (isPrincipalId value.principalId = false) .required
    raiseIf (maxPermissions < value.permissions.length) .required
    raiseIf (∃ permission ∈ value.permissions,
        maxPermissionChars < (Text.chars permission).length ∨ isPermission permission = false) .required
    raiseIf (evaluated.value < value.authenticatedAtUtc.value ∨ value.expiresAtUtc.value ≤ evaluated.value) .required
    return value

/-! ## What the reader returns -/

/-- `AdapterReadState`. -/
inductive AdapterReadState where
  | available
  | unknown
  | unavailable
deriving DecidableEq

/-- The field `snapshot` of a result. -/
inductive SnapshotField where
  | absent
  | foreign
  | snapshot (value : ReconciliationSnapshot)

/-- `SnapshotReadResult`: `none` stands for a state that is no member, reasons that are no tuple, and a reason that is no
text. -/
structure SnapshotReadResult where
  state : Option AdapterReadState
  snapshot : SnapshotField
  reasons : Option (List (Option String))

/-- What `read_current` does. -/
inductive ReadCurrent where
  | raised
  | foreign
  | result (value : SnapshotReadResult)

def untrusted : List String := ["SOURCE_RESULT_UNTRUSTED"]

/-- `_safe_reasons`. -/
def safeReasons (result : SnapshotReadResult) : List String :=
  match result.reasons with
  | none => untrusted
  | some reasons =>
    if maxReasons < reasons.length then untrusted
    else match reasons.mapM id with
      | none => untrusted
      | some texts =>
        let safe := texts.filter fun reason => decide (reason ∈ safeSourceReasons)
        if safe.length = texts.length then safe else untrusted

/-! ## Responses -/

/-- `GatewayObservation`. -/
structure GatewayObservation where
  observationSchemaVersion : String
  observationId : String
  reconciliationState : String
  discrepancyCodes : List String
  observedAtUtc : String
  producedAtUtc : String
  freshnessState : String
  simulationOnly : Bool
  tradingAuthority : String
  performance : Option PerformanceSnapshot
deriving DecidableEq

/-- `GatewayObservation.as_mapping`. -/
def GatewayObservation.asMapping (o : GatewayObservation) : Except SnapshotError Json := do
  let performance ← performanceMapping o.performance
  return .obj
    [("discrepancy_codes", .arr (o.discrepancyCodes.map .str)), ("freshness_state", .str o.freshnessState),
      ("observation_id", .str o.observationId), ("observed_at_utc", .str o.observedAtUtc), ("performance", performance),
      ("produced_at_utc", .str o.producedAtUtc), ("reconciliation_state", .str o.reconciliationState),
      ("schema_version", .str o.observationSchemaVersion), ("simulation_only", .bool o.simulationOnly),
      ("trading_authority", .str o.tradingAuthority)]

/-- `GatewayResponse`. -/
structure GatewayResponse where
  state : GatewayState
  reasons : List String
  observation : Option GatewayObservation
deriving DecidableEq

namespace GatewayResponse

/-- `as_mapping`. -/
def asMapping (r : GatewayResponse) : Except SnapshotError Json := do
  let observation ← match r.observation with
    | none => .ok .null
    | some observation => observation.asMapping
  return .obj [("gateway_schema_version", .str gatewaySchemaVersion), ("observation", observation),
    ("reasons", .arr (r.reasons.map .str)), ("state", .str r.state.value)]

/-- `canonical_bytes`. -/
def canonicalBytes (r : GatewayResponse) : Except SnapshotError Bytes := do
  return dumpsAscii (← r.asMapping)

end GatewayResponse

/-- `_observation`. -/
def gatewayObservation (s : ReconciliationSnapshot) : GatewayObservation :=
  ⟨s.schemaVersion, s.observationId, enumValue reconciliationStates s.reconciliationState,
    s.discrepancyCodes.map (enumValue discrepancyCodes), utcText s.observedAtUtc, utcText s.producedAtUtc,
    enumValue freshnessStates s.freshnessState, s.simulationOnly, s.tradingAuthority, s.performance⟩

/-- `_response`. -/
def gatewayResponse (state : GatewayState) (reasons : List String) (observation : Option GatewayObservation) :
    Except SnapshotError GatewayResponse := do
  let response : GatewayResponse := ⟨state, reasons, observation⟩
  let bytes ← response.canonicalBytes
  if maxResponseBytes < bytes.length then return ⟨.unknown, ["RESPONSE_LIMIT_EXCEEDED"], none⟩
  return response

/-! ## Reading -/

/-- The snapshot of a result: none, or one that `validate_snapshot` returns. -/
def validatedSnapshot (py : Platform) (evaluated : Timestamp) : SnapshotField → Except SnapshotError ReconciliationSnapshot
  | .snapshot value => do
    validateSnapshot py value evaluated
    return value
  | _ => .error (.validation "unsupported snapshot type")

/-- `read`, on what the reader did. -/
def project (py : Platform) (evaluated : Timestamp) : ReadCurrent → Except SnapshotError GatewayResponse
  | .raised => gatewayResponse .unknown ["STORAGE_READ_FAILED"] none
  | .foreign => gatewayResponse .unknown untrusted none
  | .result result =>
    let reasons := safeReasons result
    match result.state, result.snapshot with
    | some .unavailable, _ => gatewayResponse .unavailable reasons none
    | some .unknown, .absent => gatewayResponse .unknown reasons none
    | some .unknown, field =>
      match validatedSnapshot py evaluated field with
      | .error _ => gatewayResponse .unknown untrusted none
      | .ok snapshot =>
        if reasons ≠ ["FRESHNESS_UNVERIFIED"] then gatewayResponse .unknown untrusted none
        else if snapshot.simulationOnly ≠ true ∨ snapshot.tradingAuthority ≠ noTradingAuthority ∨
            enumValue freshnessStates snapshot.freshnessState ≠ "UNVERIFIED" then
          gatewayResponse .unknown untrusted none
        else gatewayResponse .unknown reasons (some (gatewayObservation snapshot))
    | _, _ => gatewayResponse .unknown untrusted none

/-- `OperatorConsoleReadGateway`, over the credentials of its boundary. -/
structure ReadGateway (Credential : Type) where
  authenticate : Credential → Timestamp → Asserted
  readCurrent : Timestamp → ReadCurrent

/-- `read`; `none` stands for a time that is no `Timestamp`. -/
def ReadGateway.read {Credential : Type} (py : Platform) (gateway : ReadGateway Credential) (credential : Credential)
    (evaluatedAtUtc : Option Timestamp) : Except SnapshotError GatewayResponse :=
  match evaluatedAtUtc with
  | none => gatewayResponse .accessDenied ["AUTHENTICATION_REQUIRED"] none
  | some evaluated =>
    match validatedPrincipal evaluated (gateway.authenticate credential evaluated) with
    | .error .required => gatewayResponse .accessDenied ["AUTHENTICATION_REQUIRED"] none
    | .error .unavailable => gatewayResponse .accessDenied ["AUTHENTICATION_UNAVAILABLE"] none
    | .ok principal =>
      if requiredPermission ∉ principal.permissions then gatewayResponse .accessDenied ["PERMISSION_DENIED"] none
      else project py evaluated (gateway.readCurrent evaluated)

end ATB.OperatorConsole
