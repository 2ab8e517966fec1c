import AutomatedTradingBot.Framework.Durable
import AutomatedTradingBot.Source.OperatorConsole.Snapshot

/-!
# The atomic snapshot store

`reconciliation/operator_console_snapshot_persistence.py`: decoding a snapshot, and the
publications of a store. The writer lock is free, reading and writing files does not
fail, and no path is a reparse point. The two candidates of a publication are made
under a name that no file has and are gone when it ends, so that the version is there,
and the pointer is replaced, in one write each.
-/

namespace ATB.OperatorConsole

open Datasets (evidenceRefFromBody hasKeys textField flagField AttributedRef)
open Stage5 (dumpsAscii)

def integrity (message : String) : SnapshotError := .integrity message

/-! ## Decoding -/

/-- `_load_json`. -/
def loadJson (value : Bytes) : Except SnapshotError Json := do
  raiseIf (¬ value.all fun c => c.toNat < 128) (integrity "stored JSON is malformed")
  orRaise (integrity "stored JSON is malformed") (Json.loads value)

/-- `_exact_keys`. -/
def exactKeys (value : Json) (keys : List String) (name : String) : Except SnapshotError Json := do
  raiseIf (hasKeys keys value = false) (integrity (name ++ " has unsupported fields"))
  return value

/-- `_parse_timestamp`; the text ends with its only `Z`. -/
def parseTimestamp (value : String) : Option Timestamp := do
  let chars := Text.chars value
  if chars.getLast? ≠ some 'Z' then none
  let timestamp ← Datasets.timestampFromText (String.ofList (chars.dropLast ++ ['+', '0', '0', ':', '0', '0']))
  if utcText timestamp ≠ value then none
  return timestamp

def performanceKeys : List String :=
  ["gross_pnl", "commission_fees", "bid_ask_spread", "slippage", "market_impact", "additional_friction", "net_pnl",
    "realised_pnl", "unrealised_pnl", "portfolio_value", "turnover", "participation", "capacity"]

/-- `_parse_performance`. -/
def parsePerformance (value : Json) : Option (Option PerformanceSnapshot) :=
  match value with
  | .null => some none
  | item => do
    if hasKeys performanceKeys item = false then none
    let decimal (name : String) : Option Decimal := (textField name item).bind Decimal.parse?
    return some ⟨← decimal "gross_pnl", ← decimal "commission_fees", ← decimal "bid_ask_spread", ← decimal "slippage",
      ← decimal "market_impact", ← decimal "additional_friction", ← decimal "net_pnl", ← decimal "realised_pnl",
      ← decimal "unrealised_pnl", ← decimal "portfolio_value", ← decimal "turnover",
      .text (← textField "participation" item), .text (← textField "capacity" item)⟩

/-- `_parse_evidence_ref`. -/
def parseEvidenceRef (value : Json) : Option AttributedRef := do
  if hasKeys ["source_id", "dataset_id", "evidence_id", "content_digest"] value = false then none
  evidenceRefFromBody value

/-- `ResearchRunId(value)`. -/
def parseRunId (value : String) : Option SourceRunId :=
  if h : ResearchRunId.canonical ⟨value⟩ = true then some ⟨⟨value⟩, h⟩ else none

def snapshotKeys : List String :=
  ["schema_version", "observation_id", "source_authority", "source_run_id", "evidence_refs", "evidence_digest",
    "reconciliation_state", "discrepancy_codes", "observed_at_utc", "produced_at_utc", "freshness_state",
    "simulation_only", "trading_authority", "performance"]

/-- A field that is a `list`. -/
def arrayField (name : String) (item : Json) : Option (List Json) :=
  match item.get? name with
  | some (.arr values) => some values
  | _ => none

/-- A text among the items of an array. -/
def textItem? : Json → Option String
  | .str s => some s
  | _ => none

/-- The snapshot that `_snapshot_from_bytes` makes of the fields. -/
def parseSnapshot (item : Json) (evidenceRefs codes : List Json) : Option ReconciliationSnapshot := do
  let schemaVersion ← textField "schema_version" item
  let observationId ← textField "observation_id" item
  let sourceAuthority ← textField "source_authority" item
  let sourceRunId ← (textField "source_run_id" item).bind parseRunId
  let evidenceRefs ← evidenceRefs.mapM parseEvidenceRef
  let evidenceDigest ← textField "evidence_digest" item
  let reconciliationState ← (textField "reconciliation_state" item).bind (enumOf? reconciliationStates)
  let codes ← codes.mapM fun value => (textItem? value).bind (enumOf? discrepancyCodes)
  let observedAtUtc ← (textField "observed_at_utc" item).bind parseTimestamp
  let producedAtUtc ← (textField "produced_at_utc" item).bind parseTimestamp
  let freshnessState ← (textField "freshness_state" item).bind (enumOf? freshnessStates)
  let simulationOnly ← flagField "simulation_only" item
  let tradingAuthority ← textField "trading_authority" item
  let performance ← (item.get? "performance").bind parsePerformance
  return ⟨⟨sourceRunId, evidenceDigest, reconciliationState, codes, observedAtUtc, producedAtUtc, performance⟩,
    schemaVersion, observationId, sourceAuthority, evidenceRefs, freshnessState, simulationOnly, tradingAuthority⟩

/-- `_snapshot_from_bytes`. -/
def snapshotFromBytes (py : Platform) (value : Bytes) (evaluatedAtUtc : Timestamp) :
    Except SnapshotError ReconciliationSnapshot := do
  let item ← exactKeys (← loadJson value) snapshotKeys "snapshot"
  let evidenceRefs ← orRaise (integrity "evidence_refs must be an array") (arrayField "evidence_refs" item)
  let codes ← orRaise (integrity "discrepancy_codes must be an array") (arrayField "discrepancy_codes" item)
  let snapshot ← orRaise (integrity "snapshot validation failed") (parseSnapshot item evidenceRefs codes)
  (validateSnapshot py snapshot evaluatedAtUtc).mapError fun _ => integrity "snapshot validation failed"
  let canonical ← snapshot.canonicalBytes
  raiseIf (canonical ≠ value) (integrity "snapshot bytes are not canonical")
  return snapshot

/-! ## The store -/

def pointerVersion : String := "ATIS-OC-RECONCILIATION-POINTER-V1"
def publicationEvidenceVersion : String := "ATIS-OC-RECONCILIATION-PUBLICATION-V1"
def maxSnapshotBytes : Nat := 1048576
def maxPointerBytes : Nat := 4096
def maxEvidenceBytes : Nat := 16384

inductive PublicationState where
  | published
  | duplicate
  | conflict
  | busy
  | committedUnconfirmed
deriving DecidableEq

structure PublicationResult where
  state : PublicationState
  observationId : String
  storageDigest : String
  versionFile : String
  pointerCommitted : Bool
  evidenceFile : Option String
  detail : String
deriving DecidableEq

/-- `_Pointer`. -/
structure Pointer where
  pointerVersion : String
  schemaVersion : String
  observationId : String
  storageDigest : String
  versionFile : String
  publishedAtUtc : String
deriving DecidableEq

def Pointer.body (p : Pointer) : Json := .obj
  [("observation_id", .str p.observationId), ("pointer_version", .str p.pointerVersion),
    ("published_at_utc", .str p.publishedAtUtc), ("schema_version", .str p.schemaVersion),
    ("storage_digest", .str p.storageDigest), ("version_file", .str p.versionFile)]

/-- `canonical_bytes`. -/
def Pointer.canonicalBytes (p : Pointer) : Bytes := dumpsAscii p.body

def pointerKeys : List String :=
  ["pointer_version", "schema_version", "observation_id", "storage_digest", "version_file", "published_at_utc"]

/-- `_VERSION_FILE.fullmatch(value)`. -/
def isVersionFile (value : String) : Bool :=
  match Text.after? (Text.chars "observation-") (Text.chars value) with
  | some rest => decide (rest.length = 69) && (rest.take 64).all Text.isLowerHex && decide (rest.drop 64 = Text.chars ".json")
  | none => false

/-- The files of a store. -/
structure StoreFiles where
  versions : List (String × Bytes)
  evidence : List (String × Bytes)
  current : Option Bytes
deriving DecidableEq

/-- What a publication raises: what validation or an integrity check does before anything is
written, or `PersistenceIoError` after it. -/
inductive PublishError where
  | snapshot (error : SnapshotError)
  | io (pointerCommitted : Bool)
deriving DecidableEq

section Store

variable (py : Platform)

/-- `_sha256`. -/
def storageDigestOf (value : Bytes) : String := "sha256:" ++ py.hexdigest value

/-- `_version_name`. -/
def versionName (observationId : String) : String :=
  "observation-" ++ py.hexdigest (Text.chars observationId) ++ ".json"

/-- `_read_bounded`; a file that is missing raises an `OSError`. -/
def readBounded (file : Option Bytes) (limit : Nat) : Except SnapshotError Bytes := do
  let value ← orRaise (integrity "No such file or directory") file
  raiseIf (limit < value.length) (integrity "exceeds its byte limit")
  return value

/-- `_read_pointer`. -/
def readPointer (current : Option Bytes) : Except SnapshotError Pointer := do
  let raw ← readBounded current maxPointerBytes
  let item ← exactKeys (← loadJson raw) pointerKeys "current pointer"
  let string (name : String) : Except SnapshotError String :=
    orRaise (integrity (name ++ " must be a string")) (textField name item)
  let pointer : Pointer :=
    ⟨← string "pointer_version", ← string "schema_version", ← string "observation_id", ← string "storage_digest",
      ← string "version_file", ← string "published_at_utc"⟩
  raiseIf (raw ≠ pointer.canonicalBytes) (integrity "current pointer is not canonical")
  raiseIf (pointer.pointerVersion ≠ OperatorConsole.pointerVersion ∨ pointer.schemaVersion ≠ OperatorConsole.schemaVersion)
    (integrity "current pointer version is unsupported")
  raiseIf (isVersionFile pointer.versionFile = false) (integrity "current pointer version path is invalid")
  raiseIf (EvidenceContentDigest.canonical ⟨pointer.storageDigest⟩ = false) (integrity "current pointer digest is invalid")
  let _ ← orRaise (integrity "published_at_utc is invalid") (parseTimestamp pointer.publishedAtUtc)
  return pointer

/-- The snapshot of `read_current`; the adapter validates it once more. -/
def readCurrent (files : StoreFiles) (evaluatedAtUtc : Timestamp) : Option ReconciliationSnapshot :=
  let read : Except SnapshotError ReconciliationSnapshot := do
    let pointer ← readPointer files.current
    let raw ← readBounded (Dict.get? pointer.versionFile files.versions) maxSnapshotBytes
    raiseIf (storageDigestOf py raw ≠ pointer.storageDigest) (integrity "version digest mismatch")
    let snapshot ← snapshotFromBytes py raw evaluatedAtUtc
    raiseIf (snapshot.observationId ≠ pointer.observationId) (integrity "pointer observation mismatch")
    validateSnapshot py snapshot evaluatedAtUtc
    return snapshot
  read.toOption

open Durable in
/-- `_write_synced`, of a name in the evidence directory; a name that is there raises an `OSError`. -/
def writeEvidence (name : String) (value : Bytes) : Operation StoreFiles PublishError Bool := do
  let files ← get
  if maxEvidenceBytes < value.length ∨ (Dict.get? name files.evidence).isSome = true then return false
  write fun files => { files with evidence := Dict.set name value files.evidence }
  return true

/-- `evidence_body`. -/
def evidenceBody (pointer : Pointer) : Json := .obj
  [("evidence_version", .str publicationEvidenceVersion), ("observation_id", .str pointer.observationId),
    ("pointer_digest", .str (storageDigestOf py pointer.canonicalBytes)), ("published_at_utc", .str pointer.publishedAtUtc),
    ("schema_version", .str OperatorConsole.schemaVersion), ("storage_digest", .str pointer.storageDigest),
    ("trading_authority", .str noTradingAuthority), ("version_file", .str pointer.versionFile)]

/-- `evidence_raw`. -/
def evidenceRaw (pointer : Pointer) : Bytes := dumpsAscii (evidenceBody py pointer)

/-- `evidence_name`. -/
def evidenceName (pointer : Pointer) : String := "publication-" ++ py.hexdigest (evidenceRaw py pointer) ++ ".json"

open Durable in
/-- What `publish` writes once it has the lock and the version is not in conflict. -/
def commitPublication (raw : Bytes) (pointer : Pointer) (result : PublicationState → Bool → Option String → String → PublicationResult) :
    Operation StoreFiles PublishError PublicationResult := do
  let before ← get
  if (Dict.get? pointer.versionFile before.versions).isNone = true then
    write fun files => { files with versions := Dict.set pointer.versionFile raw files.versions }
  let written ← get
  check (raiseIf (readBounded (Dict.get? pointer.versionFile written.versions) maxSnapshotBytes ≠ .ok raw) (.io false))
  check (raiseIf (maxPointerBytes < pointer.canonicalBytes.length) (.io false))
  write fun files => { files with current := some pointer.canonicalBytes }
  let replaced ← get
  check (raiseIf (readPointer replaced.current ≠ .ok pointer) (.io true))
  let version ← check ((readBounded (Dict.get? pointer.versionFile replaced.versions) maxSnapshotBytes).mapError fun _ => .io true)
  check (raiseIf (storageDigestOf py version ≠ pointer.storageDigest) (.io true))
  if ← writeEvidence (evidenceName py pointer) (evidenceRaw py pointer) then
    return result .published true (some (evidenceName py pointer)) "publication verified"
  return result .committedUnconfirmed true none "pointer committed but publication evidence is unconfirmed"

open Durable in
/-- `AtomicSnapshotStore.publish`. -/
def publish (snapshot : ReconciliationSnapshot) (evaluatedAtUtc publishedAtUtc : Timestamp) :
    Operation StoreFiles PublishError PublicationResult := do
  check ((validateSnapshot py snapshot evaluatedAtUtc).mapError .snapshot)
  check (raiseIf (evaluatedAtUtc.value < publishedAtUtc.value)
    (.snapshot (.validation "publication timestamp is in the future")))
  let raw ← check (snapshot.canonicalBytes.mapError .snapshot)
  check (raiseIf (maxSnapshotBytes < raw.length) (.snapshot (integrity "snapshot exceeds its byte limit")))
  let storageDigest := storageDigestOf py raw
  let versionFile := versionName py snapshot.observationId
  let result (state : PublicationState) (committed : Bool) (evidenceFile : Option String) (detail : String) : PublicationResult :=
    ⟨state, snapshot.observationId, storageDigest, versionFile, committed, evidenceFile, detail⟩
  let pointer : Pointer :=
    ⟨pointerVersion, schemaVersion, snapshot.observationId, storageDigest, versionFile, utcText publishedAtUtc⟩
  let files ← get
  match Dict.get? versionFile files.versions with
  | none => commitPublication py raw pointer result
  | some version =>
    match readBounded (some version) maxSnapshotBytes with
    | .error _ => return result .conflict false none "existing immutable version is untrusted"
    | .ok existing =>
      if existing ≠ raw then return result .conflict false none "observation identity already has different bytes"
      if files.current.isSome = true then
        let current ← check ((readPointer files.current).mapError fun _ =>
          .snapshot (integrity "existing current pointer is untrusted"))
        check (raiseIf (readCurrent py files evaluatedAtUtc = none)
          (.snapshot (integrity "existing current observation is untrusted")))
        if current.observationId = snapshot.observationId ∧ current.storageDigest = storageDigest ∧
            current.versionFile = versionFile then
          return result .duplicate false none "current pointer already references identical verified version"
      commitPublication py raw pointer result

end Store

end ATB.OperatorConsole
