import AutomatedTradingBot.Source.Provenance

/-!
# The recovery authority

Receipts, trust policies and the single-use receipt domain of
`stage5/commit_boundary/recovery_authority.py`. A receipt is accepted when its
trust context is that of the policy, its validity covers the present and its RSA
signature over its payload verifies; consuming it records its nonce, which cannot
be recorded twice. `Platform.sha256` is a parameter, as everywhere.
-/

namespace ATB.Stage5

inductive JournalError where
  | conflict (message : String)
  | deadlineExceeded (message : String)
  | persistenceUnresolved (message : String)
  | authority (message : String)
  | valueError (message : String)
  | osError
deriving DecidableEq

inductive ReceiptType where
  | bootstrap
  | terminal
deriving DecidableEq

def ReceiptType.value : ReceiptType → String
  | .bootstrap => "BOOTSTRAP"
  | .terminal => "TERMINAL"

inductive TerminalOutcome where
  | committed
  | denied
deriving DecidableEq

def TerminalOutcome.value : TerminalOutcome → String
  | .committed => "COMMITTED"
  | .denied => "DENIED"

/-- `RecoveryReceipt`. -/
structure Receipt where
  receiptType : ReceiptType
  installationId : String
  storeChallenge : String
  operationId : Option String
  requestDigest : Option String
  issuerIdentity : String
  deploymentIdentity : String
  recipient : String
  policyVersion : Int
  issuerEpoch : Int
  terminalOutcome : Option TerminalOutcome
  validFromNs : Int
  validUntilNs : Int
  nonce : String
  signature : String
  attemptId : Option String
  g00Sequence : Option String
deriving DecidableEq

/-- A character of a text written with `ensure_ascii=True`. -/
def ascii (c : Char) : List Char :=
  let unit (n : Nat) := '\\' :: 'u' :: Uuid.hexChars 4 n
  if c.toNat < 0x7f then [c]
  else if c.toNat < 0x10000 then unit c.toNat
  else unit (0xd800 + (c.toNat - 0x10000) / 0x400) ++ unit (0xdc00 + (c.toNat - 0x10000) % 0x400)

/-- `json.dumps(j, sort_keys=True, separators=(",", ":"))`. -/
def dumpsAscii (j : Json) : List Char := j.dumps.flatMap ascii

def optional : Option String → Json
  | none => .null
  | some s => .str s

namespace Receipt

def payload (r : Receipt) : List Char :=
  dumpsAscii (.obj
    [("deployment_identity", .str r.deploymentIdentity),
     ("g00_sequence", optional r.g00Sequence),
     ("installation_id", .str r.installationId),
     ("issuer_epoch", .int r.issuerEpoch),
     ("issuer_identity", .str r.issuerIdentity),
     ("attempt_id", optional r.attemptId),
     ("nonce", .str r.nonce),
     ("operation_id", optional r.operationId),
     ("policy_version", .int r.policyVersion),
     ("receipt_type", .str r.receiptType.value),
     ("recipient", .str r.recipient),
     ("request_digest", optional r.requestDigest),
     ("store_challenge", .str r.storeChallenge),
     ("terminal_outcome", optional (r.terminalOutcome.map TerminalOutcome.value)),
     ("valid_from_ns", .int r.validFromNs),
     ("valid_until_ns", .int r.validUntilNs)])

end Receipt

/-- `RecoveryTrustPolicy`. -/
structure TrustPolicy where
  installationId : String
  issuerIdentity : String
  deploymentIdentity : String
  recipient : String
  policyVersion : Int
  issuerEpoch : Int
  rsaModulus : Nat
  rsaExponent : Nat
  maxFutureSkewNs : Int
deriving DecidableEq

/-! ## Signatures -/

def isHexSpace (c : Char) : Bool := c == ' ' || (decide (9 ≤ c.toNat) && decide (c.toNat ≤ 13))

/-- `bytes.fromhex`. -/
def bytesFromHex : List Char → Option (List Nat)
  | [] => some []
  | c :: s =>
    if isHexSpace c then bytesFromHex s
    else
      match s with
      | [] => none
      | d :: s => do
        let high ← Uuid.hexValue c
        let low ← Uuid.hexValue d
        return (high * 16 + low) :: (← bytesFromHex s)

/-- `int.from_bytes(raw, "big")`. -/
def ofBytes (raw : List Nat) : Nat := raw.foldl (fun n b => n * 256 + b) 0

/-- `n.bit_length()`. -/
def bitLength (n : Nat) : Nat := if n = 0 then 0 else n.log2 + 1

/-- `_SHA256_DER_PREFIX`. -/
def sha256DerPrefix : List Nat :=
  [0x30, 0x31, 0x30, 0x0d, 0x06, 0x09, 0x60, 0x86, 0x48, 0x01, 0x65, 0x03, 0x04, 0x02, 0x01, 0x05, 0x00, 0x04, 0x20]

/-- `_verify_rsa_signature`. The padded digest has `size` bytes and so has the recovered
number, so that comparing them as numbers compares their bytes. -/
def verifyRsaSignature (py : Platform) (payload : List Char) (signature : String) (policy : TrustPolicy) : Bool :=
  match bytesFromHex (Text.chars signature) with
  | none => false
  | some raw =>
    let size := (bitLength policy.rsaModulus + 7) / 8
    if raw.length ≠ size ∨ size < sha256DerPrefix.length + 32 + 11 then false
    else
      let recovered := ofBytes raw ^ policy.rsaExponent % policy.rsaModulus
      let padding := List.replicate (size - (sha256DerPrefix.length + 32) - 3) 0xff
      recovered == ofBytes ([0x00, 0x01] ++ padding ++ [0x00] ++ sha256DerPrefix) * 2 ^ 256 + (py.sha256 payload).val

namespace TrustPolicy

variable (py : Platform) (policy : TrustPolicy)

def fingerprint : String :=
  py.hexdigest (dumpsAscii (.obj
    [("deployment_identity", .str policy.deploymentIdentity),
     ("installation_id", .str policy.installationId),
     ("issuer_epoch", .int policy.issuerEpoch),
     ("issuer_identity", .str policy.issuerIdentity),
     ("policy_version", .int policy.policyVersion),
     ("recipient", .str policy.recipient),
     ("rsa_exponent", .int policy.rsaExponent),
     ("rsa_modulus", .str (String.ofList (Nat.toDigits 10 policy.rsaModulus)))]))

/-- The receipt names the trust context of the policy. -/
def trusts (receipt : Receipt) : Prop :=
  receipt.installationId = policy.installationId ∧ receipt.issuerIdentity = policy.issuerIdentity ∧
    receipt.deploymentIdentity = policy.deploymentIdentity ∧ receipt.recipient = policy.recipient ∧
    receipt.policyVersion = policy.policyVersion ∧ receipt.issuerEpoch = policy.issuerEpoch

instance (receipt : Receipt) : Decidable (policy.trusts receipt) := by
  unfold trusts; infer_instance

/-- `_validate_common`, at the time `now`. -/
def validateCommon (now : Int) (receipt : Receipt) (expected : ReceiptType) (storeChallenge : String) :
    Except JournalError Unit := do
  raiseIf (receipt.receiptType ≠ expected) (.authority "recovery receipt type mismatch")
  raiseIf (¬ policy.trusts receipt ∨ receipt.storeChallenge ≠ storeChallenge)
    (.authority "recovery receipt trust context mismatch")
  raiseIf (now + policy.maxFutureSkewNs < receipt.validFromNs ∨ receipt.validUntilNs < now ∨
      receipt.validUntilNs ≤ receipt.validFromNs)
    (.authority "recovery receipt validity rejected")
  raiseIf (receipt.nonce = "" ∨ ¬ verifyRsaSignature py receipt.payload receipt.signature policy)
    (.authority "recovery receipt signature rejected")

/-- `_consume`: the receipts recorded so far, with this one. -/
def consume (receipt : Receipt) (consumed : List Receipt) : Except JournalError (List Receipt) := do
  raiseIf (∃ r ∈ consumed, r.nonce = receipt.nonce) (.authority "recovery receipt replay rejected")
  return consumed ++ [receipt]

/-- `any` of the fields that a bootstrap receipt may not have. -/
def hasTerminalContext (receipt : Receipt) : Bool :=
  [receipt.operationId, receipt.requestDigest, receipt.attemptId, receipt.g00Sequence].any
    (fun field => field.getD "" != "") || receipt.terminalOutcome.isSome

def consumeBootstrap (now : Int) (receipt : Receipt) (storeChallenge : String) (consumed : List Receipt) :
    Except JournalError (List Receipt) := do
  policy.validateCommon py now receipt .bootstrap storeChallenge
  raiseIf (hasTerminalContext receipt) (.authority "bootstrap receipt contains terminal context")
  consume receipt consumed

def consumeTerminal (now : Int) (receipt : Receipt) (storeChallenge operationId requestDigest attemptId
    g00Sequence : String) (expected : TerminalOutcome) (consumed : List Receipt) :
    Except JournalError (List Receipt) := do
  policy.validateCommon py now receipt .terminal storeChallenge
  raiseIf (receipt.terminalOutcome = none) (.authority "terminal recovery outcome is not terminal")
  raiseIf (receipt.operationId ≠ some operationId ∨ receipt.requestDigest ≠ some requestDigest ∨
      receipt.attemptId ≠ some attemptId ∨ receipt.g00Sequence ≠ some g00Sequence ∨
      receipt.terminalOutcome ≠ some expected)
    (.authority "terminal receipt context mismatch")
  consume receipt consumed

end TrustPolicy

end ATB.Stage5
