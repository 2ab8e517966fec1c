import AutomatedTradingBot.Framework.JsonText
import AutomatedTradingBot.Framework.Refusal
import AutomatedTradingBot.Proof.Datasets.PhysicalPersistence.RoundTrip
import AutomatedTradingBot.Proof.Governance.Codec
import AutomatedTradingBot.Proof.Stage5.Ascii
import AutomatedTradingBot.Source.OperatorConsole.SnapshotStore

/-!
# The codec of reconciliation snapshots

* `validateSnapshot_eq_ok`: what a valid snapshot is;
* `parseTimestamp_utcText`, `enumOf?_enumValue`, `parsePerformance_mapping`,
  `parseSnapshot_mapping`: the parts of a snapshot read back;
* `snapshotFromBytes_mapping`: a valid snapshot reads back, with its metric states as
  texts;
* `canonicalBytes_of_snapshotFromBytes`: what is accepted is the bytes of its snapshot;
* `snapshot_codec`: the codec of the snapshots.
-/

namespace ATB.Proof.OperatorConsole

open ATB.OperatorConsole
open Datasets (hasKeys textField flagField AttributedRef)
open Json (Sorted obj obj_inj sorted_obj sorted_str sorted_bool sorted_null)
open PhysicalPersistence (hasKeys_obj textField_of_get? evidenceRefFromBody_body sorted_map sorted_ref)
open Ascii (dumpsAscii_inj)
open Canonical (hexdigest_inj)
open Stage5 (dumpsAscii)

/-! ## Timestamps -/

theorem parseTimestamp_utcText (t : Timestamp) : parseTimestamp (utcText t) = some t := by
  have hzone : "+00:00".toList = ['+', '0', '0', ':', '0', '0'] := by decide
  have hread := Datetime.fromIsoformat?_of_fraction t.value (Datetime.fraction_zfill t.value.real.2.2.2.2.2.2)
  generalize hbody : Text.zfill 4 t.value.year ++ '-' :: (Text.zfill 2 t.value.month ++ '-' :: (Text.zfill 2 t.value.day ++
    'T' :: (Text.zfill 2 t.value.hour ++ ':' :: (Text.zfill 2 t.value.minute ++ ':' :: (Text.zfill 2 t.value.second ++
      '.' :: Text.zfill 6 t.value.microsecond))))) = body
  have hchars : Text.chars (utcText t) = body ++ ['Z'] := by
    rw [utcText, Text.chars_eq, String.toList_ofList, ← hbody]
    simp only [List.append_assoc, List.cons_append]
  have hstamp : Datasets.timestampFromText (String.ofList (body ++ ['+', '0', '0', ':', '0', '0'])) = some t := by
    rw [← hzone, ← hbody, Datasets.timestampFromText]
    simp only [List.append_assoc, List.cons_append]
    rw [hread]
    rfl
  unfold parseTimestamp
  simp only [hchars, List.getLast?_concat, List.dropLast_concat, hstamp, ne_eq, not_true_eq_false, if_false,
    Option.bind_eq_bind, Option.bind_some]
  rfl

theorem utcText_injective : Function.Injective utcText := fun a b h => by
  have ha := parseTimestamp_utcText a
  rw [h, parseTimestamp_utcText] at ha
  exact (Option.some.inj ha).symm

/-! ## Enumerations -/

section Members

variable {α : Type} {members : List (α × String)}

theorem enumOf?_of_mem (hn : (members.map Prod.snd).Nodup) {a : α} {text : String} (h : (a, text) ∈ members) :
    enumOf? members text = some a := by
  induction members with
  | nil => cases h
  | cons m members ih =>
    obtain ⟨hm, hn⟩ := List.nodup_cons.mp hn
    rw [enumOf?, List.find?_cons]
    rcases List.mem_cons.mp h with rfl | h
    · simp
    · have hne : ¬ m.2 = text := fun e => hm (e ▸ List.mem_map_of_mem (f := Prod.snd) h)
      simp only [hne, decide_false]
      exact ih hn h

/-- `Enum(member.value)` is the member. -/
theorem enumOf?_enumValue [DecidableEq α] (hn : (members.map Prod.snd).Nodup) {a : α} (h : a ∈ Dict.keys members) :
    enumOf? members (enumValue members a) = some a := by
  cases hv : Dict.get? a members with
  | none => exact absurd h (Dict.get?_eq_none.mp hv)
  | some text =>
    rw [enumValue, hv]
    exact enumOf?_of_mem hn (Dict.mem_of_get? hv)

end Members

theorem enumOf?_state (s : ReconciliationState) : enumOf? reconciliationStates (enumValue reconciliationStates s) = some s :=
  enumOf?_enumValue (by decide) (by cases s <;> decide)

theorem enumOf?_code (c : DiscrepancyCode) : enumOf? discrepancyCodes (enumValue discrepancyCodes c) = some c :=
  enumOf?_enumValue (by decide) (by cases c <;> decide)

theorem enumOf?_freshness (f : FreshnessState) : enumOf? freshnessStates (enumValue freshnessStates f) = some f :=
  enumOf?_enumValue (by decide) (by cases f; decide)

/-! ## Performance -/

theorem decimalText_eq_ok {value : Decimal} {name text : String} : decimalText value name = .ok text ↔
    isCanonicalDecimalText (Text.chars value.str) = true ∧ value.str = text := by
  rw [decimalText, raiseIf_bind_eq_ok, pure_eq_ok, Bool.not_eq_false]

theorem metricStateText_eq_ok {value : MetricState} {name text : String} : metricStateText value name = .ok text ↔
    value.str = MetricAvailability.value .notEstablished ∧ value.str = text := by
  rw [metricStateText, raiseIf_bind_eq_ok, pure_eq_ok, not_not]

/-- What `_validate_performance_snapshot` checks. -/
structure Complete (p : PerformanceSnapshot) : Prop where
  decimals : ∀ d ∈ p.decimals, isCanonicalDecimalText (Text.chars d.2.str) = true
  participation : p.participation.str = MetricAvailability.value .notEstablished
  capacity : p.capacity.str = MetricAvailability.value .notEstablished

theorem validate_eq_ok {p : PerformanceSnapshot} : p.validate = .ok () ↔ Complete p := by
  simp only [PerformanceSnapshot.validate, bind_eq_ok, forM_eq_ok, decimalText_eq_ok, metricStateText_eq_ok, pure_eq_ok]
  constructor
  · rintro ⟨-, hdecimals, -, ⟨hparticipation, -⟩, -, ⟨hcapacity, -⟩, -⟩
    refine ⟨fun d hd => ?_, hparticipation, hcapacity⟩
    obtain ⟨_, hcanonical, _⟩ := hdecimals d hd
    exact hcanonical.1
  · rintro ⟨hdecimals, hparticipation, hcapacity⟩
    exact ⟨(), fun d hd => ⟨_, ⟨hdecimals d hd, rfl⟩, trivial⟩, _, ⟨hparticipation, rfl⟩, _, ⟨hcapacity, rfl⟩, trivial⟩

/-- The items of the mapping of a performance. -/
def performanceItems (p : PerformanceSnapshot) : List (String × Json) :=
  p.decimals.map (fun d => (d.1, .str d.2.str)) ++ [("capacity", .str p.capacity.str), ("participation", .str p.participation.str)]

theorem asMapping_of_complete {p : PerformanceSnapshot} (h : Complete p) : p.asMapping = .ok (obj (performanceItems p)) := by
  have hdecimals : (p.decimals.mapM fun d => do return (d.1, Json.str (← decimalText d.2 d.1))) =
      .ok (p.decimals.map fun d => (d.1, Json.str d.2.str)) := by
    refine mapM_eq_ok.mpr ?_
    rw [List.map_map]
    refine List.map_congr_left fun d hd => ?_
    rw [decimalText_eq_ok.mpr ⟨h.decimals d hd, rfl⟩]
    rfl
  rw [PerformanceSnapshot.asMapping, hdecimals, metricStateText_eq_ok.mpr ⟨h.capacity, rfl⟩,
    metricStateText_eq_ok.mpr ⟨h.participation, rfl⟩]
  rfl

/-- A performance with its metric states as texts. -/
def plain (p : PerformanceSnapshot) : PerformanceSnapshot :=
  { p with participation := .text p.participation.str, capacity := .text p.capacity.str }

theorem validate_plain (p : PerformanceSnapshot) : (plain p).validate = p.validate := rfl

theorem asMapping_plain (p : PerformanceSnapshot) : (plain p).asMapping = p.asMapping := rfl

theorem plain_beq (p : PerformanceSnapshot) : (plain p == p) = true := by
  have hself : ∀ d : Decimal, (d == d) = true := fun d => beq_self_eq_true (d.scaled (min d.exp d.exp))
  change (((p.decimals.zip p.decimals).all fun d => d.1.2 == d.2.2) && p.participation.str == p.participation.str &&
    p.capacity.str == p.capacity.str) = true
  simp [PerformanceSnapshot.decimals, hself]

theorem textField_performance (p : PerformanceSnapshot) {name text : String} (h : (name, Json.str text) ∈ performanceItems p) :
    textField name (obj (performanceItems p)) = some text := by
  have hn : ((performanceItems p).map Prod.fst).Nodup := by
    change ["gross_pnl", "commission_fees", "bid_ask_spread", "slippage", "market_impact", "additional_friction", "net_pnl",
      "realised_pnl", "unrealised_pnl", "portfolio_value", "turnover", "capacity", "participation"].Nodup
    decide
  exact textField_of_get? (Json.get?_obj hn h)

/-- A performance reads back. -/
theorem parsePerformance_mapping (p : PerformanceSnapshot) :
    parsePerformance (obj (performanceItems p)) = some (some (plain p)) := by
  have hkeys : hasKeys performanceKeys (obj (performanceItems p)) = true := by
    refine hasKeys_obj ?_
    change ["gross_pnl", "commission_fees", "bid_ask_spread", "slippage", "market_impact", "additional_friction", "net_pnl",
      "realised_pnl", "unrealised_pnl", "portfolio_value", "turnover", "capacity", "participation"].Perm performanceKeys
    decide
  have hdecimal (name : String) (d : Decimal) (hd : (name, d) ∈ p.decimals) :
      (textField name (obj (performanceItems p))).bind Decimal.parse? = some d := by
    have hmem : (name, Json.str d.str) ∈ performanceItems p :=
      List.mem_append_left _ (List.mem_map_of_mem (f := fun d : String × Decimal => (d.1, Json.str d.2.str)) hd)
    rw [textField_performance p hmem, Option.bind_some, Decimal.parse?_str]
  have hgross := hdecimal "gross_pnl" p.grossPnl (by simp [PerformanceSnapshot.decimals])
  have hfees := hdecimal "commission_fees" p.commissionFees (by simp [PerformanceSnapshot.decimals])
  have hspread := hdecimal "bid_ask_spread" p.bidAskSpread (by simp [PerformanceSnapshot.decimals])
  have hslippage := hdecimal "slippage" p.slippage (by simp [PerformanceSnapshot.decimals])
  have himpact := hdecimal "market_impact" p.marketImpact (by simp [PerformanceSnapshot.decimals])
  have hfriction := hdecimal "additional_friction" p.additionalFriction (by simp [PerformanceSnapshot.decimals])
  have hnet := hdecimal "net_pnl" p.netPnl (by simp [PerformanceSnapshot.decimals])
  have hrealised := hdecimal "realised_pnl" p.realisedPnl (by simp [PerformanceSnapshot.decimals])
  have hunrealised := hdecimal "unrealised_pnl" p.unrealisedPnl (by simp [PerformanceSnapshot.decimals])
  have hvalue := hdecimal "portfolio_value" p.portfolioValue (by simp [PerformanceSnapshot.decimals])
  have hturnover := hdecimal "turnover" p.turnover (by simp [PerformanceSnapshot.decimals])
  have hparticipation : textField "participation" (obj (performanceItems p)) = some p.participation.str :=
    textField_performance p (List.mem_append_right _ (by simp))
  have hcapacity : textField "capacity" (obj (performanceItems p)) = some p.capacity.str :=
    textField_performance p (List.mem_append_right _ (by simp))
  have hitem : obj (performanceItems p) ≠ .null := fun h => by cases h
  rw [parsePerformance.eq_2 _ hitem, hkeys, if_neg (by decide)]
  dsimp only
  rw [hgross, hfees, hspread, hslippage, himpact, hfriction, hnet, hrealised,
    hunrealised, hvalue, hturnover, hparticipation, hcapacity]
  rfl

/-! ## Valid snapshots -/

/-- What `validate_snapshot` checks. -/
structure Valid (py : Platform) (s : ReconciliationSnapshot) (t : Timestamp) : Prop where
  schema : s.schemaVersion = schemaVersion
  pattern : isObservationId s.observationId = true
  authority : s.sourceAuthority = reconciliationAuthority
  times : ¬ (s.producedAtUtc.value < s.observedAtUtc.value ∨ t.value < s.producedAtUtc.value)
  simulation : s.simulationOnly = true
  trading : s.tradingAuthority = noTradingAuthority
  evidence : evidenceDigestFor py s.evidenceRefs = .ok s.evidenceDigest
  distinct : s.discrepancyCodes.Nodup
  performance : ∀ p ∈ s.performance, Complete p
  semantics : if s.reconciliationState = .reconciled then s.discrepancyCodes = [] ∧ s.performance.isSome = true
    else s.performance = none ∧ s.discrepancyCodes ≠ []
  identity : observationIdFor py s.toObservation = .ok s.observationId

variable {py : Platform} {s s' : ReconciliationSnapshot} {t t' : Timestamp}

theorem semantics_eq_ok {state : ReconciliationState} {codes : List DiscrepancyCode} {performance : Option PerformanceSnapshot}
    {next : Except SnapshotError Unit} :
    (if state = .reconciled then do
        let p ← orRaise (SnapshotError.validation "RECONCILED snapshot semantics are invalid")
          (if codes = [] then performance else none)
        p.validate
        next
      else do
        raiseIf (performance ≠ none ∨ codes = []) (SnapshotError.validation "unreconciled snapshot semantics are invalid")
        next) = .ok () ↔
      ((∀ p ∈ performance, Complete p) ∧ if state = .reconciled then codes = [] ∧ performance.isSome = true
        else performance = none ∧ codes ≠ []) ∧ next = .ok () := by
  by_cases hstate : state = .reconciled
  · simp only [if_pos hstate, bind_eq_ok, orRaise_eq_ok, validate_eq_ok, Unique.exists_iff, PUnit.default_eq_unit]
    by_cases hcodes : codes = []
    · cases performance <;> simp [hcodes]
    · simp [hcodes]
  · simp only [if_neg hstate, bind_eq_ok, raiseIf_eq_ok, Unique.exists_iff, not_or, not_not]
    cases performance <;> simp

theorem validateSnapshot_eq_ok : validateSnapshot py s t = .ok () ↔ Valid py s t := by
  have hfresh : s.freshnessState = .unverified := by cases s.freshnessState; rfl
  unfold validateSnapshot
  simp only [bind_eq_ok, raiseIf_eq_ok, exists_const, semantics_eq_ok, not_or, not_not]
  constructor
  · rintro ⟨hschema, hpattern, hauthority, htimes, -, ⟨hsimulation, htrading⟩, digest, hdigest, rfl, hdistinct,
      ⟨hperformance, hsemantics⟩, expected, hexpected, rfl⟩
    exact ⟨hschema, by simpa using hpattern, hauthority, not_or.mpr htimes, hsimulation, htrading, hdigest, hdistinct,
      hperformance, hsemantics, hexpected⟩
  · intro h
    exact ⟨h.schema, by simp [h.pattern], h.authority, not_or.mp h.times, trivial, ⟨h.simulation, h.trading⟩, _, h.evidence,
      rfl, h.distinct, ⟨h.performance, h.semantics⟩, _, h.identity, rfl⟩

/-! ## Canonical bytes -/

def performanceJson : Option PerformanceSnapshot → Json
  | none => .null
  | some p => obj (performanceItems p)

/-- The items of the mapping of a snapshot. -/
def items (s : ReconciliationSnapshot) : List (String × Json) :=
  [("discrepancy_codes", .arr (s.discrepancyCodes.map fun code => .str (enumValue discrepancyCodes code))),
    ("evidence_digest", .str s.evidenceDigest), ("evidence_refs", .arr (s.evidenceRefs.map AttributedRef.body)),
    ("freshness_state", .str (enumValue freshnessStates s.freshnessState)), ("observation_id", .str s.observationId),
    ("observed_at_utc", .str (utcText s.observedAtUtc)), ("performance", performanceJson s.performance),
    ("produced_at_utc", .str (utcText s.producedAtUtc)),
    ("reconciliation_state", .str (enumValue reconciliationStates s.reconciliationState)),
    ("schema_version", .str s.schemaVersion), ("simulation_only", .bool s.simulationOnly),
    ("source_authority", .str s.sourceAuthority), ("source_run_id", .str s.sourceRunId.id.value),
    ("trading_authority", .str s.tradingAuthority)]

theorem performanceMapping_of_complete {o : Option PerformanceSnapshot} (h : ∀ p ∈ o, Complete p) :
    performanceMapping o = .ok (performanceJson o) := by
  cases o with
  | none => rfl
  | some p => exact asMapping_of_complete (h p rfl)

theorem canonicalBytes_of_valid (h : Valid py s t) : s.canonicalBytes = .ok (dumpsAscii (obj (items s))) := by
  rw [ReconciliationSnapshot.canonicalBytes, ReconciliationSnapshot.asMapping, performanceMapping_of_complete h.performance]
  rfl

theorem sorted_performanceJson (o : Option PerformanceSnapshot) : Sorted (performanceJson o) := by
  cases o with
  | none => exact sorted_null
  | some p =>
    refine sorted_obj fun f hf => ?_
    rcases List.mem_append.mp hf with hf | hf
    · obtain ⟨d, -, rfl⟩ := List.mem_map.mp hf
      exact sorted_str _
    · simp only [List.mem_cons, List.not_mem_nil, or_false] at hf
      rcases hf with rfl | rfl
      · exact sorted_str _
      · exact sorted_str _

theorem sorted_items (s : ReconciliationSnapshot) : Sorted (obj (items s)) := by
  refine sorted_obj ?_
  simp only [items, List.forall_mem_cons, sorted_str, sorted_bool, sorted_performanceJson, sorted_map fun _ => sorted_str _,
    sorted_map (f := AttributedRef.body) fun e => sorted_ref e.ref, List.not_mem_nil, false_imp_iff, implies_true, and_true]

/-! ## Decoding -/

theorem mapM_map_some {α β : Type} {f : β → Option α} {g : α → β} (h : ∀ a, f (g a) = some a) (l : List α) :
    (l.map g).mapM f = some l := by
  induction l with
  | nil => rfl
  | cons a l ih => simp [List.mapM_cons, h a, ih]

/-- What a snapshot is decoded as. -/
def decoded (s : ReconciliationSnapshot) : ReconciliationSnapshot := { s with performance := s.performance.map plain }

theorem decoded_beq (s : ReconciliationSnapshot) : (decoded s == s) = true := by
  refine Bool.and_eq_true_iff.mpr ⟨decide_eq_true rfl, ?_⟩
  obtain ⟨⟨_, _, _, _, _, _, performance⟩, _⟩ := s
  cases performance with
  | none => rfl
  | some p => exact plain_beq p

theorem parseEvidenceRef_body (e : AttributedRef) : parseEvidenceRef e.body = some e := by
  have hkeys : hasKeys ["source_id", "dataset_id", "evidence_id", "content_digest"] e.body = true :=
    hasKeys_obj (List.Perm.refl _)
  rw [parseEvidenceRef, hkeys]
  exact evidenceRefFromBody_body e

theorem parseRunId_value (r : SourceRunId) : parseRunId r.id.value = some r := dif_pos r.canonical

theorem nodup_items (s : ReconciliationSnapshot) : ((items s).map Prod.fst).Nodup := by
  change ["discrepancy_codes", "evidence_digest", "evidence_refs", "freshness_state", "observation_id", "observed_at_utc",
    "performance", "produced_at_utc", "reconciliation_state", "schema_version", "simulation_only", "source_authority",
    "source_run_id", "trading_authority"].Nodup
  decide

theorem hasKeys_items (s : ReconciliationSnapshot) : hasKeys snapshotKeys (obj (items s)) = true := by
  refine hasKeys_obj ?_
  change ["discrepancy_codes", "evidence_digest", "evidence_refs", "freshness_state", "observation_id", "observed_at_utc",
    "performance", "produced_at_utc", "reconciliation_state", "schema_version", "simulation_only", "source_authority",
    "source_run_id", "trading_authority"].Perm snapshotKeys
  decide

theorem get?_items {name : String} {j : Json} (h : (name, j) ∈ items s) : (obj (items s)).get? name = some j :=
  Json.get?_obj (nodup_items s) h

theorem textField_items {name text : String} (h : (name, Json.str text) ∈ items s) :
    textField name (obj (items s)) = some text :=
  textField_of_get? (get?_items h)

theorem parsePerformance_json (o : Option PerformanceSnapshot) : parsePerformance (performanceJson o) = some (o.map plain) := by
  cases o with
  | none => rfl
  | some p => exact parsePerformance_mapping p

/-- The fields of a snapshot read back. -/
theorem parseSnapshot_mapping (s : ReconciliationSnapshot) :
    parseSnapshot (obj (items s)) (s.evidenceRefs.map AttributedRef.body)
      (s.discrepancyCodes.map fun code => .str (enumValue discrepancyCodes code)) = some (decoded s) := by
  have hschema : textField "schema_version" (obj (items s)) = some s.schemaVersion := textField_items (by simp [items])
  have hid : textField "observation_id" (obj (items s)) = some s.observationId := textField_items (by simp [items])
  have hauthority : textField "source_authority" (obj (items s)) = some s.sourceAuthority := textField_items (by simp [items])
  have hrun : textField "source_run_id" (obj (items s)) = some s.sourceRunId.id.value := textField_items (by simp [items])
  have hdigest : textField "evidence_digest" (obj (items s)) = some s.evidenceDigest := textField_items (by simp [items])
  have hstate : textField "reconciliation_state" (obj (items s)) =
      some (enumValue reconciliationStates s.reconciliationState) := textField_items (by simp [items])
  have hobserved : textField "observed_at_utc" (obj (items s)) = some (utcText s.observedAtUtc) :=
    textField_items (by simp [items])
  have hproduced : textField "produced_at_utc" (obj (items s)) = some (utcText s.producedAtUtc) :=
    textField_items (by simp [items])
  have hfresh : textField "freshness_state" (obj (items s)) = some (enumValue freshnessStates s.freshnessState) :=
    textField_items (by simp [items])
  have htrading : textField "trading_authority" (obj (items s)) = some s.tradingAuthority := textField_items (by simp [items])
  have hsimulation : flagField "simulation_only" (obj (items s)) = some s.simulationOnly := by
    rw [flagField, get?_items (j := .bool s.simulationOnly) (by simp [items])]
  have hperformance : (obj (items s)).get? "performance" = some (performanceJson s.performance) :=
    get?_items (by simp [items])
  have hrefs := mapM_map_some (f := parseEvidenceRef) parseEvidenceRef_body s.evidenceRefs
  have hcodes := mapM_map_some (f := fun value => (textItem? value).bind (enumOf? discrepancyCodes))
    (g := fun code => Json.str (enumValue discrepancyCodes code)) enumOf?_code s.discrepancyCodes
  rw [parseSnapshot, hschema, hid, hauthority, hrun, hrefs, hdigest, hstate, hcodes, hobserved, hproduced, hfresh, hsimulation,
    htrading, hperformance]
  simp only [Option.bind_eq_bind, Option.bind_some, parseRunId_value, enumOf?_state, parseTimestamp_utcText, enumOf?_freshness,
    parsePerformance_json]
  rfl

theorem complete_plain {p : PerformanceSnapshot} (h : Complete p) : Complete (plain p) :=
  ⟨h.decimals, h.participation, h.capacity⟩

theorem observationIdFor_decoded (s : ReconciliationSnapshot) :
    observationIdFor py (decoded s).toObservation = observationIdFor py s.toObservation := by
  obtain ⟨⟨_, _, _, _, _, _, performance⟩, _⟩ := s
  cases performance with
  | none => rfl
  | some p => rfl

theorem Valid.decoded (h : Valid py s t) : Valid py (decoded s) t where
  schema := h.schema
  pattern := h.pattern
  authority := h.authority
  times := h.times
  simulation := h.simulation
  trading := h.trading
  evidence := h.evidence
  distinct := h.distinct
  performance p hp := by
    obtain ⟨q, hq, rfl⟩ := Option.mem_map.mp hp
    exact complete_plain (h.performance q hq)
  semantics := by
    have hsemantics := h.semantics
    change if s.reconciliationState = .reconciled then
        s.discrepancyCodes = [] ∧ (s.performance.map plain).isSome = true
      else s.performance.map plain = none ∧ s.discrepancyCodes ≠ []
    rwa [Option.isSome_map, Option.map_eq_none_iff]
  identity := (observationIdFor_decoded s).trans h.identity

theorem canonicalBytes_decoded (s : ReconciliationSnapshot) : (decoded s).canonicalBytes = s.canonicalBytes := by
  obtain ⟨⟨_, _, _, _, _, _, performance⟩, _⟩ := s
  cases performance with
  | none => rfl
  | some p => rfl

/-- A valid snapshot reads back. -/
theorem snapshotFromBytes_mapping (h : Valid py s t) :
    snapshotFromBytes py (dumpsAscii (obj (items s))) t = .ok (decoded s) := by
  have hload : loadJson (dumpsAscii (obj (items s))) = .ok (obj (items s)) := by
    refine raiseIf_bind_eq_ok.mpr ⟨not_not.mpr (List.all_eq_true.mpr fun c hc => ?_), ?_⟩
    · exact decide_eq_true (lt_trans (Ascii.ascii_of_mem_dumpsAscii hc) (by decide))
    · exact orRaise_eq_ok.mpr (Ascii.loads_dumpsAscii (sorted_items s))
  have hrefs : arrayField "evidence_refs" (obj (items s)) = some (s.evidenceRefs.map AttributedRef.body) := by
    rw [arrayField, get?_items (j := .arr (s.evidenceRefs.map AttributedRef.body)) (by simp [items])]
  have hcodes : arrayField "discrepancy_codes" (obj (items s)) =
      some (s.discrepancyCodes.map fun code => .str (enumValue discrepancyCodes code)) := by
    rw [arrayField, get?_items (j := .arr (s.discrepancyCodes.map fun code => .str (enumValue discrepancyCodes code)))
      (by simp [items])]
  refine bind_eq_ok.mpr ⟨_, hload, ?_⟩
  refine bind_eq_ok.mpr ⟨obj (items s), raiseIf_bind_eq_ok.mpr ⟨by simp [hasKeys_items], rfl⟩, ?_⟩
  refine bind_eq_ok.mpr ⟨_, orRaise_eq_ok.mpr hrefs, ?_⟩
  refine bind_eq_ok.mpr ⟨_, orRaise_eq_ok.mpr hcodes, ?_⟩
  refine bind_eq_ok.mpr ⟨_, orRaise_eq_ok.mpr (parseSnapshot_mapping s), ?_⟩
  refine bind_eq_ok.mpr ⟨(), mapError_eq_ok.mpr (validateSnapshot_eq_ok.mpr h.decoded), ?_⟩
  refine bind_eq_ok.mpr ⟨_, (canonicalBytes_decoded s).trans (canonicalBytes_of_valid h), ?_⟩
  exact raiseIf_bind_eq_ok.mpr ⟨not_not.mpr rfl, rfl⟩

/-- What is accepted is valid, and its bytes are the canonical ones. -/
theorem canonicalBytes_of_snapshotFromBytes {bytes : Bytes} (h : snapshotFromBytes py bytes t = .ok s) :
    Valid py s t ∧ s.canonicalBytes = .ok bytes := by
  unfold snapshotFromBytes at h
  simp only [bind_eq_ok, mapError_eq_ok, raiseIf_eq_ok, not_not, pure_eq_ok] at h
  obtain ⟨_, _, _, _, _, _, _, _, snapshot, _, ⟨⟩, hvalid, canonical, hcanonical, _, rfl, rfl⟩ := h
  exact ⟨validateSnapshot_eq_ok.mp hvalid, hcanonical⟩

/-! ## Equal snapshots -/

/-- The text that an observation is identified by. -/
def identityText (o : Observation) : Bytes := dumpsAscii (o.body (performanceJson o.performance))

theorem observationId_of_valid (h : Valid py s t) :
    s.observationId = observationLead ++ py.hexdigest (identityText s.toObservation) := by
  have hid := h.identity
  rw [observationIdFor, performanceMapping_of_complete h.performance] at hid
  exact (Except.ok.inj hid).symm

def bodyKeys : List String :=
  ["discrepancy_codes", "evidence_digest", "observed_at_utc", "performance", "produced_at_utc", "reconciliation_state",
    "schema_version", "simulation_only", "source_authority", "source_run_id", "trading_authority"]

/-- The values of the body of an observation, by its keys. -/
def bodyValues (o : Observation) : List Json :=
  [.arr (o.discrepancyCodes.map fun code => .str (enumValue discrepancyCodes code)), .str o.evidenceDigest,
    .str (utcText o.observedAtUtc), performanceJson o.performance, .str (utcText o.producedAtUtc),
    .str (enumValue reconciliationStates o.reconciliationState), .str schemaVersion, .bool true, .str reconciliationAuthority,
    .str o.sourceRunId.id.value, .str noTradingAuthority]

theorem sorted_body (o : Observation) : Sorted (o.body (performanceJson o.performance)) := by
  refine sorted_obj ?_
  simp only [List.forall_mem_cons, sorted_str, sorted_bool, sorted_performanceJson, sorted_map fun _ => sorted_str _,
    List.not_mem_nil, false_imp_iff, implies_true, and_true]

theorem performanceJson_of_identityText {o o' : Observation} (h : identityText o = identityText o') :
    performanceJson o.performance = performanceJson o'.performance := by
  have hbody : obj (bodyKeys.zip (bodyValues o)) = obj (bodyKeys.zip (bodyValues o')) :=
    dumpsAscii_inj (sorted_body o) (sorted_body o') h
  have hvalues := obj_inj bodyKeys (by decide) (bodyValues o) (bodyValues o') rfl rfl hbody
  simp only [bodyValues, List.cons.injEq] at hvalues
  exact hvalues.2.2.2.1

/-- Equal snapshots have equal bytes, unless the hash of their identities collides. -/
theorem bytes_eq_of_beq (h : Valid py s t) (h' : Valid py s' t') (heq : (s == s') = true) :
    dumpsAscii (obj (items s)) = dumpsAscii (obj (items s')) ∨
      identityText s.toObservation ≠ identityText s'.toObservation ∧
        py.sha256 (identityText s.toObservation) = py.sha256 (identityText s'.toObservation) := by
  have hfields : ({ s with performance := none } : ReconciliationSnapshot) = { s' with performance := none } :=
    of_decide_eq_true (Bool.and_eq_true_iff.mp heq).1
  have hid := congrArg ReconciliationSnapshot.observationId hfields
  change s.observationId = s'.observationId at hid
  have hsha : py.sha256 (identityText s.toObservation) = py.sha256 (identityText s'.toObservation) := by
    rw [observationId_of_valid h, observationId_of_valid h'] at hid
    exact hexdigest_inj ((String.append_right_inj _).mp hid)
  by_cases htext : identityText s.toObservation = identityText s'.toObservation
  · left
    have hperformance := performanceJson_of_identityText htext
    clear heq hid hsha htext h h'
    obtain ⟨⟨_, _, _, _, _, _, _⟩, _, _, _, _, ⟨⟩, _, _⟩ := s
    obtain ⟨⟨_, _, _, _, _, _, _⟩, _, _, _, _, ⟨⟩, _, _⟩ := s'
    simp only [ReconciliationSnapshot.mk.injEq, Observation.mk.injEq] at hfields
    obtain ⟨⟨rfl, rfl, rfl, rfl, rfl, rfl, -⟩, rfl, rfl, rfl, rfl, -, rfl, rfl⟩ := hfields
    simp only [items, hperformance]
  · exact .inr ⟨htext, hsha⟩

end ATB.Proof.OperatorConsole
