import AutomatedTradingBot.Framework.Fields
import AutomatedTradingBot.Source.Stage5.AuthorityStore

/-!
# Signing keys and management of the authority

The transitions of the retained signing keys in `stage5/authority_service/keys.py`,
whose records are texts of three fields, and the management requests of
`ProtectedAuthorityManager` in `composition.py`. Each reads the state of the database,
makes its successor and publishes it.

`Call` is one call of the service that may move the state. A request is the object
that the endpoint has decoded.
-/

namespace ATB.Stage5.AuthorityStore

open ATB.Durable

/-! ## Key records -/

inductive SigningKeyStatus where
  | signCurrent
  | verifyOnly
  | retired
deriving DecidableEq

def SigningKeyStatus.value : SigningKeyStatus → String
  | .signCurrent => "SIGN_CURRENT"
  | .verifyOnly => "VERIFY_ONLY"
  | .retired => "RETIRED"

/-- `SigningKeyStatus(value)`. -/
def SigningKeyStatus.of? (value : String) : Option SigningKeyStatus :=
  [signCurrent, verifyOnly, retired].find? fun status => status.value = value

/-- What `_parts` reads from a record. -/
structure SigningKey where
  keyId : String
  version : Int
  status : SigningKeyStatus
deriving DecidableEq

def SigningKey.pair (k : SigningKey) : String × Int := (k.keyId, k.version)

/-- `key_record`. -/
def keyRecord (keyId : String) (version : Int) (status : SigningKeyStatus) : Except StoreError String := do
  raiseIf (keyId = "" ∨ version < 1) (.authorityService "invalid signing-key record")
  return String.ofList (Text.chars keyId ++ ':' :: (Text.chars (Text.intText version) ++ ':' :: Text.chars status.value))

/-- `_parts`. -/
def parts (record : String) : Except StoreError SigningKey :=
  orRaise (.authorityService "invalid retained signing-key record") do
    let (rest, status) ← Text.splitLast ':' (Text.chars record)
    let (keyId, version) ← Text.splitLast ':' rest
    let version ← Text.intOf? (String.ofList version)
    let status ← SigningKeyStatus.of? (String.ofList status)
    return ⟨String.ofList keyId, version, status⟩

/-! ## Transitions -/

variable (env : Environment)

/-- The successor that a changed body makes. -/
def successorOf (body : AuthorityBody) : AuthorityState :=
  AuthorityState.create env { body with authorityHead := digest env body.json }

/-- `_successor`. -/
def keySuccessor (state : AuthorityState) (records : List String) (currentId : String) (currentVersion : Int) :
    AuthorityState :=
  successorOf env { state.toAuthorityBody with
    sequence := state.sequence + 1, currentKeyId := currentId, currentKeyVersion := currentVersion, keyRecords := records }

/-- `provision_verify_only`. -/
def provisionVerifyOnly (state : AuthorityState) (keyId : String) (version : Int) : Except StoreError AuthorityState := do
  state.keyRecords.forM fun item => do
    let key ← parts item
    raiseIf (key.pair = (keyId, version)) (.authorityService "signing key already retained")
  let record ← keyRecord keyId version .verifyOnly
  return keySuccessor env state (state.keyRecords ++ [record]) state.currentKeyId state.currentKeyVersion

/-- One iteration of `activate_key`: whether the record is that of the key, and the record that takes its place. -/
def activateRecord (keyId : String) (version : Int) (item : String) : Except StoreError (Bool × String) := do
  let old ← parts item
  if old.pair = (keyId, version) then do
    raiseIf (old.status ≠ .verifyOnly) (.authorityService "only VERIFY_ONLY key may activate")
    let record ← keyRecord old.keyId old.version .signCurrent
    return (true, record)
  else do
    let record ← keyRecord old.keyId old.version (if old.status = .signCurrent then .verifyOnly else old.status)
    return (false, record)

/-- `activate_key`. -/
def activateKey (state : AuthorityState) (keyId : String) (version : Int) : Except StoreError AuthorityState := do
  let visited ← state.keyRecords.mapM (activateRecord keyId version)
  let records := visited.map Prod.snd
  raiseIf (∀ item ∈ visited, item.1 = false) (.authorityService "activation key is not retained")
  let keys ← records.mapM parts
  raiseIf (keys.countP (fun key => key.status = .signCurrent) ≠ 1) (.authorityService "exactly one SIGN_CURRENT key required")
  return keySuccessor env state records keyId version

/-- One iteration of `retire_key`, likewise. -/
def retireRecord (keyId : String) (version : Int) (item : String) : Except StoreError (Bool × String) := do
  let old ← parts item
  if old.pair = (keyId, version) then do
    raiseIf (old.status ≠ .verifyOnly) (.authorityService "only VERIFY_ONLY key may retire")
    let record ← keyRecord old.keyId old.version .retired
    return (true, record)
  else do
    let record ← keyRecord old.keyId old.version old.status
    return (false, record)

/-- `retire_key`. -/
def retireKey (state : AuthorityState) (keyId : String) (version : Int) : Except StoreError AuthorityState := do
  raiseIf ((keyId, version) = (state.currentKeyId, state.currentKeyVersion))
    (.authorityService "current signing key cannot retire")
  let visited ← state.keyRecords.mapM (retireRecord keyId version)
  raiseIf (∀ item ∈ visited, item.1 = false) (.authorityService "retirement key is not retained")
  return keySuccessor env state (visited.map Prod.snd) state.currentKeyId state.currentKeyVersion

/-- `require_signing_key`. -/
def requireSigningKey (state : AuthorityState) (keyId : String) (version : Int) : Except StoreError Unit := do
  let expected ← keyRecord keyId version .signCurrent
  raiseIf (expected ∉ state.keyRecords ∨ (keyId, version) ≠ (state.currentKeyId, state.currentKeyVersion))
    (.authorityService "key is not retained SIGN_CURRENT authority")

/-! ## Commands of the keys -/

inductive KeyAction where
  | provision
  | activate
  | retire
deriving DecidableEq

def KeyAction.value : KeyAction → String
  | .provision => "PROVISION"
  | .activate => "ACTIVATE"
  | .retire => "RETIRE"

def KeyAction.successor (state : AuthorityState) (keyId : String) (version : Int) : KeyAction → Except StoreError AuthorityState
  | .provision => provisionVerifyOnly env state keyId version
  | .activate => activateKey env state keyId version
  | .retire => retireKey env state keyId version

/-- The commands of `AnchoredKeyLifecycle`, which differ in the successor they make. -/
def AnchoredKeyLifecycle.command (action : KeyAction) (commandId keyId : String) (version : Int) :
    Durable.Operation Store StoreError AuthorityState := do
  let s ← get
  let current ← check (read env s.database)
  let successor ← check (action.successor env current keyId version)
  let payload : Json := .obj [("action", .str action.value), ("key_id", .str keyId), ("version", .int version)]
  let _ ← publish env commandId (digest env payload) successor (commandText commandId successor)
  let s ← get
  check (read env s.database)

def AnchoredKeyLifecycle.provision : String → String → Int → Durable.Operation Store StoreError AuthorityState :=
  AnchoredKeyLifecycle.command env .provision

def AnchoredKeyLifecycle.activate : String → String → Int → Durable.Operation Store StoreError AuthorityState :=
  AnchoredKeyLifecycle.command env .activate

def AnchoredKeyLifecycle.retire : String → String → Int → Durable.Operation Store StoreError AuthorityState :=
  AnchoredKeyLifecycle.command env .retire

/-! ## Management requests -/

/-- `request.get(name)`, when it is text. -/
def requestText (request : Json) (name : String) : Option String :=
  match request.get? name with
  | some (.str value) => some value
  | _ => none

/-- `request.get(name)`, when it is a number. -/
def requestInt (request : Json) (name : String) : Option Int :=
  match request.get? name with
  | some (.int value) => some value
  | _ => none

/-- A required value of `ENROL_ACTIVATE`, which is not `empty`. -/
def required {α : Type} [DecidableEq α] (name : String) (empty : α) (value : Option α) : Except StoreError α := do
  let invalid := StoreError.authorityService ("Management " ++ name ++ " is invalid")
  let value ← orRaise invalid value
  raiseIf (value = empty) invalid
  return value

def requiredText (request : Json) (name : String) : Except StoreError String := required name "" (requestText request name)

def requiredInt (request : Json) (name : String) : Except StoreError Int := required name 0 (requestInt request name)

/-- The body of the successor, before its head. -/
def managedBody (current : AuthorityState) (request : Json) : Except StoreError AuthorityBody := do
  let body := { current.toAuthorityBody with sequence := current.sequence + 1 }
  let operation := requestText request "operation"
  if operation = some "REVOKE" then return { body with authorityStatus := .revoked }
  else if operation = some "ROTATE_SUPERSEDE" then return { body with authorityStatus := .superseded }
  else if operation = some "ENROL_ACTIVATE" then do
    let authorityId ← requiredText request "authority_id"
    let authorityValidFrom ← requiredText request "authority_valid_from"
    let authorityExpiresAt ← requiredText request "authority_expires_at"
    let providerDescriptorDigest ← requiredText request "provider_descriptor_digest"
    let providerImplementationIdentity ← requiredText request "provider_implementation_identity"
    let policyId ← requiredText request "policy_id"
    let policyVersion ← requiredInt request "policy_version"
    return { body with authorityId, authorityValidFrom, authorityExpiresAt, providerDescriptorDigest,
                       providerImplementationIdentity, policyId, policyVersion,
                       authorityGeneration := current.authorityGeneration + 1, authorityStatus := .active }
  else .error (.authorityService "bootstrap is an owner provisioning operation")

/-- The result of a management command. -/
def managedText (commandId : String) (successor : AuthorityState) : String :=
  String.ofList (dumpsAscii (.obj [("command_id", .str commandId), ("state_digest", .str successor.stateDigest),
    ("authority_head", .str successor.authorityHead)]))

/-- `command_id`, which is text. -/
def managedCommandId (request : Json) : Except StoreError String := do
  let value ← orRaise (.authorityService "Management command ID is required") (requestText request "command_id")
  raiseIf (value = "") (.authorityService "Management command ID is required")
  return value

/-- `ProtectedAuthorityManager.__call__`: the committed result. -/
def ProtectedAuthorityManager.call (request : Json) : Durable.Operation Store StoreError String := do
  let commandId ← check (managedCommandId request)
  let payloadDigest := digest env request
  let s ← get
  let current ← check (read env s.database)
  if requestText request "expected_authority_head" ≠ some current.authorityHead then
    retryResult env commandId payloadDigest
  else do
    let body ← check (managedBody current request)
    let successor := successorOf env body
    publish env commandId payloadDigest successor (managedText commandId successor)

/-! ## Calls of the service -/

inductive Command where
  | manage (request : Json)
  | key (action : KeyAction) (commandId keyId : String) (version : Int)
  | admitCall (observedAt : String)

def Command.perform : Command → Durable.Operation Store StoreError Unit
  | .manage request => do let _ ← ProtectedAuthorityManager.call env request
  | .key action commandId keyId version => do let _ ← AnchoredKeyLifecycle.command env action commandId keyId version
  | .admitCall observedAt => do let _ ← admissionWitness env observedAt

end ATB.Stage5.AuthorityStore
