import AutomatedTradingBot.Framework.JsonText
import AutomatedTradingBot.Proof.Canonical
import AutomatedTradingBot.Proof.Stage5.Ascii
import AutomatedTradingBot.Source.Stage5.Authority

/-!
# Recovery receipts

What a call of a verifier accepts, and what holds of the receipts that the store of an
authority records, over any sequence of the calls of its verifiers.

* `bytesOf_ofBytes`: a number has one text of a given number of bytes;
* `signed_of_verify`: what a signature that verifies is;
* `unsigned_inj`: the payload of a receipt binds every field but the signature;
* `receipts_single_use`: receipts are exact and single use;
* `fingerprint_decides`: one fingerprint gives one decision, apart from the skew of the clock.
-/

namespace ATB.Proof.RecoveryAuthority

open ATB.Stage5 Json Ascii

variable {py : Platform} {policy : TrustPolicy}

/-! ## Numbers and bytes -/

/-- `n.to_bytes(w, "big")`. -/
def bytesOf : ℕ → ℕ → List ℕ
  | 0, _ => []
  | w + 1, n => bytesOf w (n / 256) ++ [n % 256]

theorem ofBytes_concat (l : List ℕ) (b : ℕ) : ofBytes (l ++ [b]) = ofBytes l * 256 + b := by
  simp only [ofBytes, List.foldl_append, List.foldl_cons, List.foldl_nil]

theorem ofBytes_append_bytesOf (l : List ℕ) (w n : ℕ) : ofBytes (l ++ bytesOf w n) = ofBytes l * 256 ^ w + n % 256 ^ w := by
  induction w generalizing n with
  | zero => simp [bytesOf, Nat.mod_one]
  | succ w ih =>
    have hsplit : n % 256 ^ (w + 1) = n / 256 % 256 ^ w * 256 + n % 256 := by
      rw [pow_succ', Nat.mod_mul, Nat.mul_comm, Nat.add_comm]
    rw [bytesOf, ← List.append_assoc, ofBytes_concat, ih, hsplit, pow_succ, Nat.add_mul, Nat.mul_assoc, Nat.add_assoc]

theorem bytesOf_ofBytes {l : List ℕ} (h : ∀ b ∈ l, b < 256) : bytesOf l.length (ofBytes l) = l := by
  induction l using List.reverseRecOn with
  | nil => rfl
  | append_singleton l b ih =>
    have hb : b < 256 := h b (by simp)
    rw [List.length_append, List.length_singleton, bytesOf, ofBytes_concat, Nat.mul_comm, Nat.mul_add_div (by decide),
      Nat.div_eq_of_lt hb, Nat.add_zero, ih fun c hc => h c (List.mem_append_left _ hc), Nat.mul_add_mod,
      Nat.mod_eq_of_lt hb]

theorem length_bytesOf (w n : ℕ) : (bytesOf w n).length = w := by
  induction w generalizing n with
  | zero => rfl
  | succ w ih => rw [bytesOf, List.length_append, ih]; rfl

theorem lt_of_mem_bytesOf {w n b : ℕ} (h : b ∈ bytesOf w n) : b < 256 := by
  induction w generalizing n with
  | zero => cases h
  | succ w ih =>
    rcases List.mem_append.mp h with h | h
    · exact ih h
    · rw [List.mem_singleton.mp h]
      exact Nat.mod_lt _ (by decide)

/-! ## Signatures -/

/-- The bytes of the modulus. -/
def modulusSize (policy : TrustPolicy) : ℕ := (bitLength policy.rsaModulus + 7) / 8

/-- The PKCS#1 v1.5 encoding of the SHA-256 digest of a payload, in `size` bytes. -/
def encoding (py : Platform) (size : ℕ) (payload : List Char) : List ℕ :=
  [0x00, 0x01] ++ List.replicate (size - 54) 0xff ++ [0x00] ++ sha256DerPrefix ++ bytesOf 32 (py.sha256 payload).val

/-- The signature, raised to the exponent modulo the modulus, is the encoding of the payload. -/
def Signed (py : Platform) (policy : TrustPolicy) (payload : List Char) (signature : String) : Prop :=
  ∃ raw, bytesFromHex (Text.chars signature) = some raw ∧ raw.length = modulusSize policy ∧
    bytesOf (modulusSize policy) (ofBytes raw ^ policy.rsaExponent % policy.rsaModulus) =
      encoding py (modulusSize policy) payload

theorem length_encoding {size : ℕ} (h : 62 ≤ size) (payload : List Char) : (encoding py size payload).length = size := by
  have hprefix : sha256DerPrefix.length = 19 := rfl
  simp only [encoding, List.length_append, List.length_cons, List.length_nil, List.length_replicate, hprefix, length_bytesOf]
  omega

theorem lt_of_mem_encoding {size : ℕ} {payload : List Char} {b : ℕ} (h : b ∈ encoding py size payload) : b < 256 := by
  have hprefix : ∀ b ∈ sha256DerPrefix, b < 256 := by decide
  simp only [encoding, List.mem_append, List.mem_cons, List.not_mem_nil, or_false, List.mem_replicate] at h
  rcases h with ((((rfl | rfl) | ⟨-, rfl⟩) | rfl) | h) | h
  · decide
  · decide
  · decide
  · decide
  · exact hprefix b h
  · exact lt_of_mem_bytesOf h

theorem ofBytes_encoding (size : ℕ) (payload : List Char) : ofBytes (encoding py size payload) =
    ofBytes ([0x00, 0x01] ++ List.replicate (size - 54) 0xff ++ [0x00] ++ sha256DerPrefix) * 2 ^ 256 + (py.sha256 payload).val := by
  have hpow : 256 ^ 32 = 2 ^ 256 := (pow_mul 2 8 32).symm
  rw [encoding, ofBytes_append_bytesOf, hpow, Nat.mod_eq_of_lt (py.sha256 payload).isLt]

theorem signed_of_verify {payload : List Char} {signature : String} (h : verifyRsaSignature py payload signature policy = true) :
    Signed py policy payload signature := by
  unfold verifyRsaSignature at h
  cases hraw : bytesFromHex (Text.chars signature) with
  | none => rw [hraw] at h; cases h
  | some raw =>
    have hlength : sha256DerPrefix.length + 32 = 51 := rfl
    rw [hraw] at h
    simp only [hlength, Nat.sub_sub] at h
    split at h
    · cases h
    · rename_i hsize
      rw [not_or, not_not, not_lt] at hsize
      have hsize62 : 62 ≤ modulusSize policy := hsize.2
      have hrecovered := (beq_iff_eq.mp h).trans (ofBytes_encoding (modulusSize policy) payload).symm
      refine ⟨raw, hraw, hsize.1, ?_⟩
      calc bytesOf (modulusSize policy) (ofBytes raw ^ policy.rsaExponent % policy.rsaModulus)
          = bytesOf (encoding py (modulusSize policy) payload).length (ofBytes (encoding py (modulusSize policy) payload)) := by
            rw [hrecovered, length_encoding hsize62]
        _ = encoding py (modulusSize policy) payload := bytesOf_ofBytes fun b hb => lt_of_mem_encoding hb

/-- One signature signs payloads of one digest. -/
theorem digest_of_signed {payload payload' : List Char} {signature signature' : String}
    (hs : bytesFromHex (Text.chars signature) = bytesFromHex (Text.chars signature')) (h : Signed py policy payload signature)
    (h' : Signed py policy payload' signature') : py.sha256 payload = py.sha256 payload' := by
  obtain ⟨raw, hraw, -, he⟩ := h
  obtain ⟨raw', hraw', -, he'⟩ := h'
  obtain rfl : raw = raw' := Option.some.inj (hraw.symm.trans (hs.trans hraw'))
  have heq := he.symm.trans he'
  have hn := congrArg ofBytes heq
  rw [ofBytes_encoding, ofBytes_encoding] at hn
  exact Fin.ext (Nat.add_left_cancel hn)

/-! ## Payloads -/

/-- A receipt without its signature. -/
def unsigned (r : Receipt) : Receipt := { r with signature := "" }

theorem optional_injective : Function.Injective Stage5.optional := fun a b h => by
  cases a <;> cases b <;> cases h <;> rfl

theorem sorted_optional (o : Option String) : Sorted (Stage5.optional o) := by
  cases o with
  | none => exact sorted_null
  | some s => exact sorted_str s

theorem ReceiptType.value_injective : Function.Injective ReceiptType.value := fun a b h => by
  cases a <;> cases b <;> first | rfl | exact absurd h (by decide)

theorem TerminalOutcome.value_injective : Function.Injective TerminalOutcome.value := fun a b h => by
  cases a <;> cases b <;> first | rfl | exact absurd h (by decide)

/-- The values of a payload, by its keys. -/
def payloadValues (r : Receipt) : List Json :=
  [.str r.deploymentIdentity, Stage5.optional r.g00Sequence, .str r.installationId, .int r.issuerEpoch, .str r.issuerIdentity,
    Stage5.optional r.attemptId, .str r.nonce, Stage5.optional r.operationId, .int r.policyVersion, .str r.receiptType.value,
    .str r.recipient, Stage5.optional r.requestDigest, .str r.storeChallenge,
    Stage5.optional (r.terminalOutcome.map TerminalOutcome.value), .int r.validFromNs, .int r.validUntilNs]

def payloadKeys : List String :=
  ["deployment_identity", "g00_sequence", "installation_id", "issuer_epoch", "issuer_identity", "attempt_id", "nonce",
    "operation_id", "policy_version", "receipt_type", "recipient", "request_digest", "store_challenge", "terminal_outcome",
    "valid_from_ns", "valid_until_ns"]

theorem sorted_payload (r : Receipt) : Sorted (obj (payloadKeys.zip (payloadValues r))) := by
  refine sorted_obj fun f hf => ?_
  have hvalue : ∀ j ∈ payloadValues r, Sorted j := by
    simp only [payloadValues, List.forall_mem_cons, sorted_str, sorted_int, sorted_optional, List.not_mem_nil, false_imp_iff,
      implies_true, and_true]
  exact hvalue f.2 (List.of_mem_zip hf).2

/-- The payload binds every field but the signature. -/
theorem unsigned_inj {r r' : Receipt} (h : r.payload = r'.payload) : unsigned r = unsigned r' := by
  have hobj : obj (payloadKeys.zip (payloadValues r)) = obj (payloadKeys.zip (payloadValues r')) :=
    dumpsAscii_inj (sorted_payload r) (sorted_payload r') h
  have hvalues := obj_inj payloadKeys (by decide) (payloadValues r) (payloadValues r') rfl rfl hobj
  simp only [payloadValues, List.cons.injEq, Json.str.injEq, Json.int.injEq, and_true, optional_injective.eq_iff,
    ReceiptType.value_injective.eq_iff, (Option.map_injective TerminalOutcome.value_injective).eq_iff] at hvalues
  obtain ⟨h1, h2, h3, h4, h5, h6, h7, h8, h9, h10, h11, h12, h13, h14, h15, h16⟩ := hvalues
  simp only [unsigned, Receipt.mk.injEq]
  exact ⟨h10, h3, h13, h8, h12, h5, h1, h11, h9, h4, h14, h15, h16, h7, trivial, h6, h2⟩

/-! ## Calls -/

/-- A call of a verifier, with what its caller passes. -/
inductive Call where
  | bootstrap (receipt : Receipt) (storeChallenge : String)
  | terminal (receipt : Receipt) (storeChallenge operationId requestDigest attemptId g00Sequence : String)
      (expected : TerminalOutcome)

namespace Call

def receipt : Call → Receipt
  | .bootstrap receipt .. => receipt
  | .terminal receipt .. => receipt

/-- What the call checks before it records the receipt. -/
def validate (py : Platform) (policy : TrustPolicy) (now : Int) : Call → Except JournalError Unit
  | .bootstrap receipt storeChallenge => do
    policy.validateCommon py now receipt .bootstrap storeChallenge
    raiseIf (TrustPolicy.hasTerminalContext receipt) (.authority "bootstrap receipt contains terminal context")
  | .terminal receipt storeChallenge operationId requestDigest attemptId g00Sequence expected => do
    policy.validateCommon py now receipt .terminal storeChallenge
    raiseIf (receipt.terminalOutcome = none) (.authority "terminal recovery outcome is not terminal")
    raiseIf (receipt.operationId ≠ some operationId ∨ receipt.requestDigest ≠ some requestDigest ∨
        receipt.attemptId ≠ some attemptId ∨ receipt.g00Sequence ≠ some g00Sequence ∨
        receipt.terminalOutcome ≠ some expected)
      (.authority "terminal receipt context mismatch")

/-- The call on the receipts recorded so far. -/
def perform (py : Platform) (policy : TrustPolicy) (now : Int) (consumed : List Receipt) : Call → Except JournalError (List Receipt)
  | .bootstrap receipt storeChallenge => policy.consumeBootstrap py now receipt storeChallenge consumed
  | .terminal receipt storeChallenge operationId requestDigest attemptId g00Sequence expected =>
    policy.consumeTerminal py now receipt storeChallenge operationId requestDigest attemptId g00Sequence expected consumed

/-- The receipt is for what the caller asks about. -/
def Names : Call → Prop
  | .bootstrap receipt storeChallenge =>
    receipt.receiptType = .bootstrap ∧ receipt.storeChallenge = storeChallenge ∧ TrustPolicy.hasTerminalContext receipt = false
  | .terminal receipt storeChallenge operationId requestDigest attemptId g00Sequence expected =>
    receipt.receiptType = .terminal ∧ receipt.storeChallenge = storeChallenge ∧ receipt.operationId = some operationId ∧
      receipt.requestDigest = some requestDigest ∧ receipt.attemptId = some attemptId ∧
      receipt.g00Sequence = some g00Sequence ∧ receipt.terminalOutcome = some expected

end Call

theorem perform_eq (now : Int) (consumed : List Receipt) (c : Call) :
    c.perform py policy now consumed = (do c.validate py policy now; TrustPolicy.consume c.receipt consumed) := by
  cases c with
  | bootstrap => simp only [Call.perform, TrustPolicy.consumeBootstrap, Call.validate, Call.receipt, bind_assoc]
  | terminal => simp only [Call.perform, TrustPolicy.consumeTerminal, Call.validate, Call.receipt, bind_assoc]

theorem validateCommon_eq_ok {now : Int} {r : Receipt} {type : ReceiptType} {challenge : String} :
    policy.validateCommon py now r type challenge = .ok () ↔
      r.receiptType = type ∧ (policy.trusts r ∧ r.storeChallenge = challenge) ∧
        (r.validFromNs ≤ now + policy.maxFutureSkewNs ∧ now ≤ r.validUntilNs ∧ r.validFromNs < r.validUntilNs) ∧
        r.nonce ≠ "" ∧ verifyRsaSignature py r.payload r.signature policy = true := by
  simp only [TrustPolicy.validateCommon, raiseIf_bind_eq_ok, raiseIf_eq_ok, not_or, not_not, not_lt, not_le]

/-- What an accepted call has checked. -/
theorem validate_spec {now : Int} {c : Call} (h : c.validate py policy now = .ok ()) :
    c.Names ∧ verifyRsaSignature py c.receipt.payload c.receipt.signature policy = true := by
  cases c with
  | bootstrap receipt storeChallenge =>
    obtain ⟨⟨⟩, hcommon, hcontext⟩ := bind_eq_ok.mp h
    obtain ⟨htype, ⟨-, hchallenge⟩, -, -, hverify⟩ := validateCommon_eq_ok.mp hcommon
    exact ⟨⟨htype, hchallenge, by simpa using hcontext⟩, hverify⟩
  | terminal receipt storeChallenge operationId requestDigest attemptId g00Sequence expected =>
    obtain ⟨⟨⟩, hcommon, hrest⟩ := bind_eq_ok.mp h
    obtain ⟨htype, ⟨-, hchallenge⟩, -, -, hverify⟩ := validateCommon_eq_ok.mp hcommon
    obtain ⟨-, hnames⟩ := raiseIf_bind_eq_ok.mp hrest
    simp only [raiseIf_eq_ok, not_or, not_not] at hnames
    exact ⟨⟨htype, hchallenge, hnames⟩, hverify⟩

/-! ## Runs -/

/-- A call at a time of its clock; `fault`: the transaction fails, and is rolled back. -/
structure Attempt where
  call : Call
  now : Int
  fault : Bool

/-- The receipts recorded after a call, and what the call returns or raises. -/
def turn (py : Platform) (policy : TrustPolicy) (consumed : List Receipt) (a : Attempt) : List Receipt × Except JournalError String :=
  match a.call.perform py policy a.now consumed with
  | .error e => (consumed, .error e)
  | .ok consumed' => if a.fault = true then (consumed, .error .osError) else (consumed', .ok a.call.receipt.nonce)

/-- The receipts recorded after a sequence of calls. -/
def after (py : Platform) (policy : TrustPolicy) (consumed : List Receipt) (attempts : List Attempt) : List Receipt :=
  attempts.foldl (fun consumed a => (turn py policy consumed a).1) consumed

/-- The receipts that the calls of a sequence accept, in their order. -/
def accepted (py : Platform) (policy : TrustPolicy) (consumed : List Receipt) : List Attempt → List Receipt
  | [] => []
  | a :: attempts =>
    (if (turn py policy consumed a).2.isOk then [a.call.receipt] else []) ++
      accepted py policy (turn py policy consumed a).1 attempts

/-- A call raises and records nothing, or records a receipt that is new, signed and for what it asks. -/
theorem turn_cases (consumed : List Receipt) (a : Attempt) :
    (∃ e, turn py policy consumed a = (consumed, .error e)) ∨
    (turn py policy consumed a = (consumed ++ [a.call.receipt], .ok a.call.receipt.nonce) ∧
      (∀ r ∈ consumed, r.nonce ≠ a.call.receipt.nonce) ∧ a.call.Names ∧
      Signed py policy a.call.receipt.payload a.call.receipt.signature) := by
  unfold turn
  cases hp : a.call.perform py policy a.now consumed with
  | error e => exact .inl ⟨e, rfl⟩
  | ok consumed' =>
    rw [perform_eq] at hp
    obtain ⟨⟨⟩, hvalidate, hconsume⟩ := bind_eq_ok.mp hp
    obtain ⟨hnew, hconsumed⟩ := raiseIf_bind_eq_ok.mp hconsume
    obtain ⟨hnames, hverify⟩ := validate_spec hvalidate
    obtain rfl := pure_eq_ok.mp hconsumed
    by_cases hfault : a.fault = true
    · exact .inl ⟨.osError, by simp only [if_pos hfault]⟩
    · refine .inr ⟨by simp only [if_neg hfault], fun r hr he => hnew ⟨r, hr, he⟩, hnames, signed_of_verify hverify⟩

theorem after_eq (consumed : List Receipt) (attempts : List Attempt) :
    after py policy consumed attempts = consumed ++ accepted py policy consumed attempts := by
  induction attempts generalizing consumed with
  | nil => simp [after, accepted]
  | cons a attempts ih =>
    have hstep : after py policy consumed (a :: attempts) = after py policy (turn py policy consumed a).1 attempts := rfl
    rw [hstep, ih, accepted]
    rcases turn_cases consumed a with ⟨e, he⟩ | ⟨hok, -⟩
    · rw [he]
      rfl
    · rw [hok, List.append_assoc]
      rfl

theorem nodup_after {consumed : List Receipt} (h : (consumed.map Receipt.nonce).Nodup) (attempts : List Attempt) :
    ((after py policy consumed attempts).map Receipt.nonce).Nodup := by
  induction attempts generalizing consumed with
  | nil => exact h
  | cons a attempts ih =>
    have hturn : ((turn py policy consumed a).1.map Receipt.nonce).Nodup := by
      rcases turn_cases consumed a with ⟨e, he⟩ | ⟨hok, hnew, -⟩
      · rw [he]
        exact h
      · rw [hok, List.map_append, List.map_singleton]
        refine List.Nodup.append h (List.nodup_singleton _) fun n hn hn' => ?_
        obtain ⟨r, hr, rfl⟩ := List.mem_map.mp hn
        exact hnew r hr (List.mem_singleton.mp hn')
    exact ih hturn

/-- Over any sequence of the calls of the verifiers of a store: the receipts recorded are those accepted, no nonce is
consumed twice, a call that raises records nothing, and an accepted receipt is signed and is for what its call asks. One
signature is not accepted for receipts that differ otherwise. -/
theorem receipts_single_use (py : Platform) (policy : TrustPolicy) (attempts : List Attempt) :
    after py policy [] attempts = accepted py policy [] attempts ∧
    ((accepted py policy [] attempts).map Receipt.nonce).Nodup ∧
    (∀ before a later, attempts = before ++ a :: later →
      (∀ e, (turn py policy (after py policy [] before) a).2 = .error e →
        (turn py policy (after py policy [] before) a).1 = after py policy [] before) ∧
      ∀ nonce, (turn py policy (after py policy [] before) a).2 = .ok nonce → nonce = a.call.receipt.nonce ∧
        (turn py policy (after py policy [] before) a).1 = after py policy [] before ++ [a.call.receipt] ∧
        Signed py policy a.call.receipt.payload a.call.receipt.signature ∧ a.call.Names) ∧
    ∀ consumed consumed' a a' nonce nonce', (turn py policy consumed a).2 = .ok nonce →
      (turn py policy consumed' a').2 = .ok nonce' →
      bytesFromHex (Text.chars a.call.receipt.signature) = bytesFromHex (Text.chars a'.call.receipt.signature) →
      (py.sha256 a.call.receipt.payload = py.sha256 a'.call.receipt.payload → a.call.receipt.payload = a'.call.receipt.payload) →
      unsigned a.call.receipt = unsigned a'.call.receipt := by
  have hafter : after py policy [] attempts = accepted py policy [] attempts := after_eq [] attempts
  refine ⟨hafter, hafter ▸ nodup_after (show (([] : List Receipt).map Receipt.nonce).Nodup from List.nodup_nil) attempts, ?_, ?_⟩
  · intro before a later _
    rcases turn_cases (after py policy [] before) a with ⟨e, he⟩ | ⟨hok, -, hnames, hsigned⟩
    · rw [he]
      exact ⟨fun _ _ => rfl, fun _ h => by cases h⟩
    · rw [hok]
      refine ⟨fun _ h => (by cases h), fun nonce h => ?_⟩
      cases h
      exact ⟨rfl, rfl, hsigned, hnames⟩
  · intro consumed consumed' a a' nonce nonce' h h' hsignature hfree
    have signed : ∀ {c a n}, (turn py policy c a).2 = .ok n → Signed py policy a.call.receipt.payload a.call.receipt.signature := by
      intro c a n hn
      rcases turn_cases c a with ⟨e, he⟩ | ⟨-, -, -, hsigned⟩
      · rw [he] at hn
        cases hn
      · exact hsigned
    exact unsigned_inj (hfree (digest_of_signed hsignature (signed h) (signed h')))

/-! ## Fingerprints -/

def fingerprintKeys : List String :=
  ["deployment_identity", "installation_id", "issuer_epoch", "issuer_identity", "policy_version", "recipient", "rsa_exponent",
    "rsa_modulus"]

/-- The values of the text of a fingerprint, by its keys. -/
def fingerprintValues (p : TrustPolicy) : List Json :=
  [.str p.deploymentIdentity, .str p.installationId, .int p.issuerEpoch, .str p.issuerIdentity, .int p.policyVersion,
    .str p.recipient, .int p.rsaExponent, .str (String.ofList (Nat.toDigits 10 p.rsaModulus))]

/-- The text that a fingerprint is the hash of. -/
def fingerprintText (p : TrustPolicy) : List Char := dumpsAscii (obj (fingerprintKeys.zip (fingerprintValues p)))

theorem sorted_fingerprint (p : TrustPolicy) : Sorted (obj (fingerprintKeys.zip (fingerprintValues p))) := by
  refine sorted_obj fun f hf => ?_
  have hvalue : ∀ j ∈ fingerprintValues p, Sorted j := by
    simp only [fingerprintValues, List.forall_mem_cons, sorted_str, sorted_int, List.not_mem_nil, false_imp_iff, implies_true,
      and_true]
  exact hvalue f.2 (List.of_mem_zip hf).2

theorem toDigits_injective : Function.Injective (Nat.toDigits 10) := fun m n h => by
  have hm := Nat.ofDigitChars_toDigits (n := m) (by decide : 1 < 10) (le_refl 10)
  rw [h, Nat.ofDigitChars_toDigits (by decide) (le_refl 10)] at hm
  exact hm.symm

/-- The fingerprint binds every field of the policy but the skew. -/
theorem fingerprint_inj {p q : TrustPolicy} (h : p.fingerprint py = q.fingerprint py)
    (hfree : py.sha256 (fingerprintText p) = py.sha256 (fingerprintText q) → fingerprintText p = fingerprintText q) :
    { p with maxFutureSkewNs := 0 } = { q with maxFutureSkewNs := 0 } := by
  have htext : fingerprintText p = fingerprintText q := hfree (Canonical.hexdigest_inj h)
  have hobj := dumpsAscii_inj (sorted_fingerprint p) (sorted_fingerprint q) htext
  have hvalues := obj_inj fingerprintKeys (by decide) (fingerprintValues p) (fingerprintValues q) rfl rfl hobj
  simp only [fingerprintValues, List.cons.injEq, Json.str.injEq, Json.int.injEq, and_true, Int.natCast_inj,
    String.ofList_inj, toDigits_injective.eq_iff] at hvalues
  obtain ⟨h1, h2, h3, h4, h5, h6, h7, h8⟩ := hvalues
  simp only [TrustPolicy.mk.injEq]
  exact ⟨h2, h4, h1, h6, h5, h3, h8, h7, trivial⟩

/-- The checks of a call that do not read the skew. -/
def Passes (py : Platform) (p : TrustPolicy) (now : Int) (c : Call) : Prop :=
  c.Names ∧ p.trusts c.receipt ∧ now ≤ c.receipt.validUntilNs ∧ c.receipt.validFromNs < c.receipt.validUntilNs ∧
    c.receipt.nonce ≠ "" ∧ verifyRsaSignature py c.receipt.payload c.receipt.signature p = true

theorem validate_iff {p : TrustPolicy} {now : Int} {c : Call} :
    c.validate py p now = .ok () ↔ c.receipt.validFromNs ≤ now + p.maxFutureSkewNs ∧ Passes py p now c := by
  cases c with
  | bootstrap receipt storeChallenge =>
    simp only [Call.validate, bind_eq_ok, Unique.exists_iff, PUnit.default_eq_unit, validateCommon_eq_ok, raiseIf_eq_ok,
      Bool.not_eq_true, Passes, Call.Names, Call.receipt]
    tauto
  | terminal receipt storeChallenge operationId requestDigest attemptId g00Sequence expected =>
    simp only [Call.validate, bind_eq_ok, Unique.exists_iff, PUnit.default_eq_unit, validateCommon_eq_ok, raiseIf_eq_ok,
      not_or, not_not, Passes, Call.Names, Call.receipt]
    constructor
    · rintro ⟨⟨htype, ⟨htrusts, hchallenge⟩, ⟨hfrom, huntil, hlt⟩, hnonce, hverify⟩, -, hnames⟩
      exact ⟨hfrom, ⟨htype, hchallenge, hnames⟩, htrusts, huntil, hlt, hnonce, hverify⟩
    · rintro ⟨hfrom, ⟨htype, hchallenge, hnames⟩, htrusts, huntil, hlt, hnonce, hverify⟩
      refine ⟨⟨htype, ⟨htrusts, hchallenge⟩, ⟨hfrom, huntil, hlt⟩, hnonce, hverify⟩, ?_, hnames⟩
      rw [hnames.2.2.2.2]
      exact Option.some_ne_none _

/-- The checks that do not read the skew are the same under one fingerprint. -/
theorem passes_congr {p q : TrustPolicy} (h : { p with maxFutureSkewNs := 0 } = { q with maxFutureSkewNs := 0 }) (now : Int) (c : Call) :
    Passes py p now c ↔ Passes py q now c := by
  obtain ⟨p1, p2, p3, p4, p5, p6, p7, p8, skew⟩ := p
  obtain ⟨q1, q2, q3, q4, q5, q6, q7, q8, skew'⟩ := q
  simp only [TrustPolicy.mk.injEq] at h
  obtain ⟨rfl, rfl, rfl, rfl, rfl, rfl, rfl, rfl, -⟩ := h
  exact Iff.rfl

/-- Verifiers of one fingerprint decide a call alike if and only if both or neither of their skews reach the start of the
receipt, or the receipt fails a check that does not read the skew. -/
theorem fingerprint_decides {p q : TrustPolicy} (h : p.fingerprint py = q.fingerprint py)
    (hfree : py.sha256 (fingerprintText p) = py.sha256 (fingerprintText q) → fingerprintText p = fingerprintText q)
    (now : Int) (c : Call) :
    (c.validate py p now = .ok () ↔ c.validate py q now = .ok ()) ↔
      ((c.receipt.validFromNs ≤ now + p.maxFutureSkewNs ↔ c.receipt.validFromNs ≤ now + q.maxFutureSkewNs) ∨
        ¬ Passes py p now c) := by
  have hpasses : Passes py q now c ↔ Passes py p now c := (passes_congr (fingerprint_inj h hfree) now c).symm
  rw [validate_iff, validate_iff, hpasses]
  by_cases hp : Passes py p now c
  · simp only [hp, and_true, not_true_eq_false, or_false]
  · simp only [hp, and_false, not_false_eq_true, or_true]

namespace Sample

local instance neZero_digests : NeZero (2 ^ 256) := inferInstance

/-- A modulus of 62 bytes, and the exponent one: a signature is the encoding itself. -/
def patient (skew : Int) : TrustPolicy where
  installationId := "installation"
  issuerIdentity := "issuer"
  deploymentIdentity := "deployment"
  recipient := "recipient"
  policyVersion := 1
  issuerEpoch := 1
  rsaModulus := 2 ^ 495
  rsaExponent := 1
  maxFutureSkewNs := skew

def platform : Platform where
  isNfc _ := true
  sha256 _ := 5

theorem fingerprintText_patient : fingerprintText (patient 5) = fingerprintText (patient 4) := rfl

theorem fingerprint_patient : (patient 5).fingerprint platform = (patient 4).fingerprint platform :=
  congrArg platform.hexdigest fingerprintText_patient

/-- A receipt that is valid from ten on. -/
def receipt : Receipt where
  receiptType := .bootstrap
  installationId := "installation"
  storeChallenge := "challenge"
  operationId := none
  requestDigest := none
  issuerIdentity := "issuer"
  deploymentIdentity := "deployment"
  recipient := "recipient"
  policyVersion := 1
  issuerEpoch := 1
  terminalOutcome := none
  validFromNs := 10
  validUntilNs := 20
  nonce := "nonce"
  signature := "0001ffffffffffffffff003031300d060960864801650304020105000420" ++
    "0000000000000000000000000000000000000000000000000000000000000005"
  attemptId := none
  g00Sequence := none

def call : Call := .bootstrap receipt "challenge"

instance (c : Call) : Decidable c.Names := by
  cases c <;> exact inferInstanceAs (Decidable (_ ∧ _))

instance (py : Platform) (p : TrustPolicy) (now : Int) (c : Call) : Decidable (Passes py p now c) :=
  inferInstanceAs (Decidable (_ ∧ _))

theorem passes_call : Passes platform (patient 5) 5 call := by decide +kernel

end Sample

/-- At five, a receipt that is valid from ten on is accepted with a skew of five and refused with a skew of four. -/
theorem fingerprint_decides_sample : (Sample.patient 5).fingerprint Sample.platform = (Sample.patient 4).fingerprint Sample.platform ∧
    ¬ (Sample.call.validate Sample.platform (Sample.patient 5) 5 = .ok () ↔
      Sample.call.validate Sample.platform (Sample.patient 4) 5 = .ok ()) := by
  refine ⟨Sample.fingerprint_patient, fun h => ?_⟩
  rcases (fingerprint_decides Sample.fingerprint_patient (fun _ => Sample.fingerprintText_patient) 5 Sample.call).mp h with h | h
  · exact absurd (h.mp (by decide)) (by decide)
  · exact h Sample.passes_call

/-- The skew decides, and the fingerprint does not bind it. -/
theorem fingerprint_omits_skew : (Sample.patient 5).fingerprint Sample.platform = (Sample.patient 4).fingerprint Sample.platform ∧
    Sample.call.validate Sample.platform (Sample.patient 5) 5 = .ok () ∧
    Sample.call.validate Sample.platform (Sample.patient 4) 5 ≠ .ok () := by
  refine ⟨Sample.fingerprint_patient, validate_iff.mpr ⟨by decide, Sample.passes_call⟩, fun h => ?_⟩
  exact absurd (validate_iff.mp h).1 (by decide)

end ATB.Proof.RecoveryAuthority
