import AutomatedTradingBot.Source.Stage5.SigningKeys

/-!
# The authority service

`AuthorityService` of `stage5/authority_service/service.py`: `admit` signs an envelope
for the state that the admission witness yields, and `consumption_fence` checks a
signed admission against the state that the consumption witness holds. The envelope
is that of `protocol.py`.

Signer, verifier and clock are parameters, and so is what the snapshot source
resolves at the moment of a call. `OverflowError` and the errors of the snapshot source
are errors of the service here.
-/

namespace ATB.Stage5.AuthorityStore

open ATB.Durable

/-- `PROTOCOL`. -/
def serviceProtocol : String := "ATIS_STAGE5_AUTHORITY_SERVICE_V1"

structure AdmissionEnvelope where
  serviceIdentity : String
  deploymentIdentity : String
  authorityDomainIdentity : String
  signingKeyId : String
  signingKeyVersion : Int
  signingKeyStatus : String
  storeEpoch : String
  authorityId : String
  authorityHead : String
  authorityGeneration : Int
  authorityStatus : String
  authorityValidFrom : String
  authorityExpiresAt : String
  providerDescriptorDigest : String
  providerImplementationIdentity : String
  snapshotId : String
  snapshotDigest : String
  snapshotVersion : Int
  snapshotExpiresAt : String
  currency : String
  portfolioId : String
  runScope : String
  operationPurpose : String
  policyId : String
  policyVersion : Int
  admissionId : String
  requestNonce : String
  admittedAt : String
  validUntil : String
  protocol : String := serviceProtocol
deriving DecidableEq

structure AuthoritativeSnapshotRecord where
  snapshotId : String
  snapshotDigest : String
  snapshotVersion : Int
  expiresAt : String
  portfolioId : String
  runScope : String
  operationPurpose : String
  currency : String
  providerDescriptorDigest : String
  providerImplementationIdentity : String
  policyId : String
  policyVersion : Int
deriving DecidableEq

structure RuntimeAdmissionRequest where
  portfolioId : String
  runScope : String
  operationPurpose : String
  expectedDomainIdentity : String
  requestNonce : String
deriving DecidableEq

structure SignedAdmission where
  envelope : AdmissionEnvelope
  signature : List UInt8
deriving DecidableEq

/-- What a service is deployed with. -/
structure ServiceConfiguration where
  serviceIdentity : String
  deploymentIdentity : String
  signerKeyId : String
  signerKeyVersion : Int
  signAdmission : AdmissionEnvelope → List UInt8
  /-- `_admission_verifier`, which a service may lack. -/
  verifyAdmission : Option (SignedAdmission → Bool)

/-! ## Times -/

/-- The day after. -/
def nextDay (year month day : Nat) : Nat × Nat × Nat :=
  if day < daysInMonth year month then (year, month, day + 1)
  else if month < 12 then (year, month + 1, 1)
  else (year + 1, 1, 1)

/-- `t + timedelta(minutes=n)` within a day, nothing past the year 9999. -/
def plusMinutes (t : Datetime) (n : Nat) : Option Datetime :=
  let total := t.hour * 60 + t.minute + n
  let (year, month, day) := if total < 1440 then (t.year, t.month, t.day) else nextDay t.year t.month t.day
  if h : RealTime year month day (total % 1440 / 60) (total % 60) t.second t.microsecond then
    some ⟨year, month, day, total % 1440 / 60, total % 60, t.second, t.microsecond, h⟩
  else none

variable (env : Environment)

/-- `_utc`. -/
def utc (value name : String) : Except StoreError Datetime := do
  let parsed ← orRaise (.authorityService (name ++ " is not a timestamp")) (env.fromisoformat value)
  orRaise (.authorityService (name ++ " must be canonical UTC")) parsed

/-! ## Envelopes -/

/-- The fields of an envelope that must be texts, with their names. -/
def AdmissionEnvelope.texts (e : AdmissionEnvelope) : List (String × String) :=
  [("service_identity", e.serviceIdentity), ("deployment_identity", e.deploymentIdentity),
   ("authority_domain_identity", e.authorityDomainIdentity), ("signing_key_id", e.signingKeyId),
   ("signing_key_status", e.signingKeyStatus), ("store_epoch", e.storeEpoch), ("authority_id", e.authorityId),
   ("authority_head", e.authorityHead), ("authority_status", e.authorityStatus),
   ("authority_valid_from", e.authorityValidFrom), ("authority_expires_at", e.authorityExpiresAt),
   ("provider_descriptor_digest", e.providerDescriptorDigest),
   ("provider_implementation_identity", e.providerImplementationIdentity), ("snapshot_id", e.snapshotId),
   ("snapshot_digest", e.snapshotDigest), ("currency", e.currency), ("portfolio_id", e.portfolioId),
   ("run_scope", e.runScope), ("operation_purpose", e.operationPurpose), ("policy_id", e.policyId),
   ("admission_id", e.admissionId), ("request_nonce", e.requestNonce)]

/-- `AdmissionEnvelope.__post_init__`. -/
def AdmissionEnvelope.postInit (e : AdmissionEnvelope) : Except StoreError Unit := do
  e.texts.forM fun field =>
    raiseIf (¬ Text.nonblank field.2) (.authorityService (field.1 ++ " must be non-empty text"))
  raiseIf (e.protocol ≠ serviceProtocol) (.authorityService "unsupported admission protocol")
  raiseIf (e.signingKeyVersion < 1 ∨ e.authorityGeneration < 1 ∨ e.policyVersion < 1)
    (.authorityService "invalid key or authority generation")
  raiseIf (e.signingKeyStatus ≠ "SIGN_CURRENT") (.authorityService "admission signing key is not current")
  raiseIf (e.authorityStatus ≠ "ACTIVE") (.authorityService "admission authority is not active")
  raiseIf (e.snapshotVersion < 0) (.authorityService "invalid snapshot version")
  let admitted ← utc env e.admittedAt "admitted_at"
  let validUntil ← utc env e.validUntil "valid_until"
  let snapshotExpiresAt ← utc env e.snapshotExpiresAt "snapshot_expires_at"
  let authorityValidFrom ← utc env e.authorityValidFrom "authority_valid_from"
  let authorityExpiresAt ← utc env e.authorityExpiresAt "authority_expires_at"
  raiseIf (¬ (authorityValidFrom ≤ admitted ∧ admitted < authorityExpiresAt))
    (.authorityService "admission authority validity is inconsistent")
  raiseIf (validUntil ≤ admitted) (.authorityService "admission validity is empty")
  raiseIf (snapshotExpiresAt ≤ admitted ∨ snapshotExpiresAt < validUntil)
    (.authorityService "admission exceeds snapshot currentness")

/-! ## Admission -/

/-- A call of `admit`: the request, the time of the clock, the snapshot that the source resolves, and `uuid4()`. -/
structure AdmitCall where
  request : RuntimeAdmissionRequest
  now : Datetime
  snapshot : Option AuthoritativeSnapshotRecord
  admissionId : String

/-- The snapshot is that of the request and of the authority. -/
def snapshotMatches (snapshot : AuthoritativeSnapshotRecord) (request : RuntimeAdmissionRequest) (state : AuthorityState) : Bool :=
  snapshot.portfolioId = request.portfolioId ∧ snapshot.runScope = request.runScope ∧
    snapshot.operationPurpose = request.operationPurpose ∧ snapshot.currency = state.currency ∧
    snapshot.providerDescriptorDigest = state.providerDescriptorDigest ∧
    snapshot.providerImplementationIdentity = state.providerImplementationIdentity ∧
    snapshot.policyId = state.policyId ∧ snapshot.policyVersion = state.policyVersion

/-- What `admit` does while the admission witness holds `state`. -/
def admitUnder (cfg : ServiceConfiguration) (c : AdmitCall) (state : AuthorityState) : Except StoreError SignedAdmission := do
  state.verify env
  requireSigningKey state cfg.signerKeyId cfg.signerKeyVersion
  raiseIf (c.request.expectedDomainIdentity ≠ state.domainIdentity) (.authorityService "foreign authority domain")
  let snapshot ← orRaise (.authorityService "snapshot source failed") c.snapshot
  raiseIf (snapshotMatches snapshot c.request state = false) (.authorityService "authoritative snapshot provenance mismatch")
  let stale := StoreError.authorityService "authoritative snapshot is stale"
  let expiry ← orRaise stale (env.fromisoformat snapshot.expiresAt)
  let expiry ← orRaise stale expiry
  raiseIf (expiry ≤ c.now) stale
  let later ← orRaise (.authorityService "date value out of range") (plusMinutes c.now 5)
  let validUntil := if expiry < later then expiry else later
  let envelope : AdmissionEnvelope :=
    { serviceIdentity := cfg.serviceIdentity, deploymentIdentity := cfg.deploymentIdentity,
      authorityDomainIdentity := state.domainIdentity, signingKeyId := cfg.signerKeyId,
      signingKeyVersion := cfg.signerKeyVersion, signingKeyStatus := "SIGN_CURRENT", storeEpoch := state.storeEpoch,
      authorityId := state.authorityId, authorityHead := state.authorityHead,
      authorityGeneration := state.authorityGeneration, authorityStatus := state.authorityStatus.value,
      authorityValidFrom := state.authorityValidFrom, authorityExpiresAt := state.authorityExpiresAt,
      providerDescriptorDigest := state.providerDescriptorDigest,
      providerImplementationIdentity := state.providerImplementationIdentity, snapshotId := snapshot.snapshotId,
      snapshotDigest := snapshot.snapshotDigest, snapshotVersion := snapshot.snapshotVersion,
      snapshotExpiresAt := snapshot.expiresAt, currency := snapshot.currency, portfolioId := c.request.portfolioId,
      runScope := c.request.runScope, operationPurpose := c.request.operationPurpose, policyId := state.policyId,
      policyVersion := state.policyVersion, admissionId := c.admissionId, requestNonce := c.request.requestNonce,
      admittedAt := c.now.isoformat, validUntil := validUntil.isoformat }
  envelope.postInit env
  let signature := cfg.signAdmission envelope
  raiseIf (signature = []) (.authorityService "admission signature is missing")
  return ⟨envelope, signature⟩

/-- What `admit` does under the lock. -/
def AuthorityService.admitExclusive (cfg : ServiceConfiguration) (c : AdmitCall) : Durable.Operation Store StoreError SignedAdmission := do
  let state ← admissionWitness env c.now.isoformat
  check (admitUnder env cfg c state)

/-- `admit`. -/
def AuthorityService.admitCall (cfg : ServiceConfiguration) (c : AdmitCall) : Durable.Operation Store StoreError SignedAdmission := do
  check (raiseIf (c.request.requestNonce = "") (.authorityService "Runtime request nonce is missing"))
  AuthorityService.admitExclusive env cfg c

/-! ## Consumption -/

/-- `consumption_witness`, up to its `yield`. -/
def consumptionWitness (observedAt : String) : Durable.Operation Store StoreError AuthorityState := do
  let state ← operationalState env
  let invalid := StoreError.authorityService "trusted authority time is invalid"
  let observed ← check (orRaise invalid (env.fromisoformat observedAt))
  let highWater ← check (orRaise invalid (env.fromisoformat state.trustedTimeHighWater))
  let validFrom ← check (orRaise invalid (env.fromisoformat state.authorityValidFrom))
  let expiresAt ← check (orRaise invalid (env.fromisoformat state.authorityExpiresAt))
  let observed ← check (orRaise (.authorityService "trusted time must be canonical UTC") observed)
  -- `read` has checked that the times of the state are at UTC.
  let highWater ← check (orRaise invalid highWater)
  let validFrom ← check (orRaise invalid validFrom)
  let expiresAt ← check (orRaise invalid expiresAt)
  check (raiseIf (observed < highWater) (.authorityService "trusted time moved backwards"))
  check (raiseIf (state.authorityStatus ≠ .active) (.authorityService "authority is not active"))
  check (raiseIf (observed < validFrom ∨ expiresAt ≤ observed) (.authorityService "authority is not currently valid"))
  return state

/-- A call of `consumption_fence`: the admission, the purpose of the consumer, the time of the clock and the
snapshot that the source resolves. -/
structure FenceCall where
  admission : SignedAdmission
  operationPurpose : String
  now : Datetime
  snapshot : Option AuthoritativeSnapshotRecord

/-- The checks of the admission before the witness is taken. -/
def checkAdmission (cfg : ServiceConfiguration) (c : FenceCall) : Except StoreError Unit := do
  let verify ← orRaise (.authorityService "operational admission verifier is unavailable") cfg.verifyAdmission
  raiseIf (verify c.admission = false) (.authorityService "invalid service admission signature")
  let envelope := c.admission.envelope
  let invalid := StoreError.authorityService "fenced admission is invalid or expired"
  raiseIf (envelope.serviceIdentity ≠ cfg.serviceIdentity ∨ envelope.deploymentIdentity ≠ cfg.deploymentIdentity ∨
    envelope.operationPurpose ≠ c.operationPurpose) invalid
  -- An envelope has canonical times from its construction on.
  let admittedAt ← utc env envelope.admittedAt "admitted_at"
  let validUntil ← utc env envelope.validUntil "valid_until"
  raiseIf (c.now < admittedAt ∨ validUntil ≤ c.now) invalid

/-- The authority of the envelope is the current one. -/
def checkAuthority (envelope : AdmissionEnvelope) (state : AuthorityState) : Except StoreError Unit := do
  requireSigningKey state envelope.signingKeyId envelope.signingKeyVersion
  raiseIf (envelope.authorityDomainIdentity ≠ state.domainIdentity ∨ envelope.storeEpoch ≠ state.storeEpoch ∨
      envelope.authorityId ≠ state.authorityId ∨ envelope.authorityHead ≠ state.authorityHead ∨
      envelope.authorityGeneration ≠ state.authorityGeneration ∨
      envelope.authorityStatus ≠ state.authorityStatus.value ∨
      envelope.authorityValidFrom ≠ state.authorityValidFrom ∨
      envelope.authorityExpiresAt ≠ state.authorityExpiresAt ∨
      envelope.providerDescriptorDigest ≠ state.providerDescriptorDigest ∨
      envelope.providerImplementationIdentity ≠ state.providerImplementationIdentity ∨
      envelope.policyId ≠ state.policyId ∨ envelope.policyVersion ≠ state.policyVersion ∨
      envelope.signingKeyId ≠ state.currentKeyId ∨ envelope.signingKeyVersion ≠ state.currentKeyVersion ∨
      envelope.signingKeyStatus ≠ "SIGN_CURRENT")
    (.authorityService "fenced admission authority is not current")

/-- The snapshot of the envelope is the current one. -/
def checkSnapshot (c : FenceCall) : Except StoreError Unit := do
  let envelope := c.admission.envelope
  let snapshot ← orRaise (.authorityService "fenced admission snapshot resolution failed") c.snapshot
  let stale := StoreError.authorityService "fenced admission snapshot is not current"
  raiseIf (snapshot.snapshotId ≠ envelope.snapshotId ∨ snapshot.snapshotDigest ≠ envelope.snapshotDigest ∨
    snapshot.snapshotVersion ≠ envelope.snapshotVersion ∨ snapshot.expiresAt ≠ envelope.snapshotExpiresAt ∨
    snapshot.currency ≠ envelope.currency ∨ snapshot.providerDescriptorDigest ≠ envelope.providerDescriptorDigest ∨
    snapshot.providerImplementationIdentity ≠ envelope.providerImplementationIdentity ∨
    snapshot.policyId ≠ envelope.policyId ∨ snapshot.policyVersion ≠ envelope.policyVersion ∨
    snapshot.portfolioId ≠ envelope.portfolioId ∨ snapshot.runScope ≠ envelope.runScope ∨
    snapshot.operationPurpose ≠ envelope.operationPurpose) stale
  let expiresAt ← utc env snapshot.expiresAt "snapshot_expires_at"
  raiseIf (expiresAt ≤ c.now) stale

/-- `consumption_fence`, up to its `yield`, once the consumption witness may be taken: the state that it holds. -/
def AuthorityService.enterFence (c : FenceCall) : Durable.Operation Store StoreError AuthorityState := do
  let state ← consumptionWitness env c.now.isoformat
  check (state.verify env)
  check (checkAuthority c.admission.envelope state)
  check (checkSnapshot env c)
  return state

end ATB.Stage5.AuthorityStore
