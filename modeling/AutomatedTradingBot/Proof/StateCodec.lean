import AutomatedTradingBot.Source.StateCodec

/-!
# The codecs are lossless

Each part of an order, a snapshot or a cost model reads back from the text that
is written for it, so the bodies do.

* `orderOf_orderBody`, `snapshotOf_snapshotBody`, `modelOf_modelBody`: the
  decoders invert the encoders on constructed values;
* `loads_canonicalJson`: a sorted value reads back from its canonical JSON.
-/

namespace ATB.Proof.StateCodec

open Json

/-! ## Parts -/

theorem field_obj {fs : List (String × Json)} {k : String} {j : Json} (hn : (fs.map Prod.fst).Nodup)
    (h : (k, j) ∈ fs) : (obj fs).field k = .ok j :=
  orRaise_eq_ok.mpr (get?_obj hn h)

theorem textField_obj {fs : List (String × Json)} {k s : String} (hn : (fs.map Prod.fst).Nodup)
    (h : (k, .str s) ∈ fs) : (obj fs).textField k = .ok s := by
  rw [textField, field_obj hn h]
  rfl

theorem optionalField_obj {α : Type} {fs : List (String × Json)} {k : String} {encode : α → String}
    {decode : String → Outcome α} {o : Option α} (hn : (fs.map Prod.fst).Nodup)
    (h : (k, ofOption (fun a => .str (encode a)) o) ∈ fs) (hd : ∀ a ∈ o, decode (encode a) = .ok a) :
    (obj fs).optionalField k decode = .ok o := by
  rw [optionalField, field_obj hn h]
  cases o with
  | none => rfl
  | some a =>
    show (decode (encode a)).bind (fun b => .ok (some b)) = _
    rw [hd a rfl]
    rfl

theorem enumOf_value {α : Type} {name : String} {all : List α} {value : α → String} {a : α}
    (h : all.find? (fun b => value b = value a) = some a) : enumOf name all value (value a) = .ok a :=
  orRaise_eq_ok.mpr h

theorem orderSideOf_value (s : OrderSide) : orderSideOf s.value = .ok s :=
  enumOf_value (by cases s <;> decide)

theorem eligibilityStateOf_value (s : EligibilityState) : eligibilityStateOf s.value = .ok s :=
  enumOf_value (by cases s <;> decide)

theorem executionInputStateOf_value (s : ExecutionInputState) : executionInputStateOf s.value = .ok s :=
  enumOf_value (by cases s <;> decide)

theorem costScenarioOf_value (s : CostScenario) : costScenarioOf s.value = .ok s :=
  enumOf_value (by cases s <;> decide)

theorem costComponentOf_value (c : CostComponent) : costComponentOf c.value = .ok c :=
  enumOf_value (by cases c <;> decide)

theorem costProvenanceOf_value (p : CostProvenance) : costProvenanceOf p.value = .ok p :=
  enumOf_value (by cases p <;> decide)

theorem decimalOf_str (d : Decimal) : decimalOf d.str = .ok d := orRaise_eq_ok.mpr (Decimal.parse?_str d)

theorem orderIdOf_str (i : OrderId) : orderIdOf i.value.str = .ok i := by
  rw [orderIdOf, Uuid.ofString?_str]
  rfl

theorem currency_make {c : Currency} (h : c.canonical = true) : Currency.make c.code = .ok c := by
  simp only [Currency.make, h, not_true_eq_false, raiseIf, if_false]
  rfl

theorem digest_make {d : EvidenceContentDigest} (h : d.canonical = true) :
    EvidenceContentDigest.make d.value = .ok d := by
  simp only [EvidenceContentDigest.make, h, not_true_eq_false, raiseIf, if_false]
  rfl

theorem run_make {r : ResearchRunId} (h : r.canonical = true) : ResearchRunId.make r.value = .ok r := by
  simp only [ResearchRunId.make, h, not_true_eq_false, raiseIf, if_false]
  rfl

theorem instrument_parse {i : InstrumentId} (h : i.canonical = true) :
    InstrumentId.parse i.toString = .ok i := by
  have ha : Text.after? InstrumentId.lead.toList i.toString.toList = some i.value.str.toList :=
    Text.after?_eq_some.mpr (by rw [InstrumentId.toString, String.toList_append])
  simp only [InstrumentId.parse, bind_eq_ok, orRaise_eq_ok, raiseIf_eq_ok, exists_const, pure_eq_ok,
    Text.chars_eq, ha]
  refine ⟨_, rfl, i.value, by rw [String.ofList_toList, Uuid.ofString?_str], not_not.mpr h, ?_, rfl⟩
  exact not_not.mpr rfl

theorem timestampOf_isoformat (t : Timestamp) : timestampOf t.value.isoformat = .ok t := by
  have hz : 'Z' ∉ t.value.isoformat.toList := fun h => by
    rcases Datetime.mem_isoformat h with h | h <;> revert h <;> decide
  simp only [timestampOf, Text.chars_eq, Text.replaceChar_of_not_mem hz, String.ofList_toList,
    Datetime.fromIsoformat?_isoformat]
  rfl

/-! ## Bodies -/

theorem mapM_toText (l : List String) : (l.map Json.str).mapM toText = (.ok l : Outcome _) := by
  induction l with
  | nil => rfl
  | cons s l ih => rw [List.map_cons, List.mapM_cons, ih]; rfl

/-- `_order(_order_body(o)) == o`. -/
theorem orderOf_orderBody {o : SimulatedOrder Decimal} (h : o.Constructed) : orderOf (orderBody o) = .ok o := by
  have h1 : (orderBody o).textField "order_id" = .ok o.orderId.value.str := textField_obj (by simp) (by simp)
  have h2 : (orderBody o).textField "instrument_id" = .ok o.instrumentId.toString :=
    textField_obj (by simp) (by simp)
  have h3 : (orderBody o).textField "side" = .ok o.side.value := textField_obj (by simp) (by simp)
  have h4 : (orderBody o).textField "quantity" = .ok o.quantity.str := textField_obj (by simp) (by simp)
  have h5 : (orderBody o).textField "currency" = .ok o.currency.code := textField_obj (by simp) (by simp)
  have h6 : (orderBody o).textField "release_at" = .ok o.releaseAt.value.isoformat :=
    textField_obj (by simp) (by simp)
  have h7 : (orderBody o).textField "research_run_id" = .ok o.researchRunId.value :=
    textField_obj (by simp) (by simp)
  have h8 : (orderBody o).textField "evidence_digest" = .ok o.evidenceDigest.value :=
    textField_obj (by simp) (by simp)
  have h9 : (orderBody o).textField "eligibility_state" = .ok o.eligibilityState.value :=
    textField_obj (by simp) (by simp)
  have h10 : (orderBody o).field "eligibility_reasons" = .ok (.arr (o.eligibilityReasons.map .str)) :=
    field_obj (by simp) (by simp)
  have h11 : (orderBody o).textField "eligibility_observation_id" = .ok o.eligibilityObservationId :=
    textField_obj (by simp) (by simp)
  have h12 : (orderBody o).textField "decision_time" = .ok o.decisionTime.value.isoformat :=
    textField_obj (by simp) (by simp)
  simp only [orderOf, h1, h2, h3, h4, h5, h6, h7, h8, h9, h10, h11, h12, ok_bind, toItems, orderIdOf_str,
    instrument_parse h.instrumentId, orderSideOf_value, decimalOf_str, currency_make h.currency,
    timestampOf_isoformat, run_make h.researchRunId, digest_make h.evidenceDigest, eligibilityStateOf_value,
    mapM_toText, h.postInit]
  rfl

/-- `_snapshot(_snapshot_body(s)) == s`. -/
theorem snapshotOf_snapshotBody {s : ExecutionSnapshot Decimal} (h : s.Constructed) :
    snapshotOf (snapshotBody s) = .ok s := by
  have h1 : (snapshotBody s).textField "execution_at" = .ok s.executionAt.value.isoformat :=
    textField_obj (by simp) (by simp)
  have h2 : (snapshotBody s).optionalField "price" decimalOf = .ok s.price :=
    optionalField_obj (by simp) (by simp) fun p _ => decimalOf_str p
  have h3 : (snapshotBody s).optionalField "price_available_at" timestampOf = .ok s.priceAvailableAt :=
    optionalField_obj (by simp) (by simp) fun t _ => timestampOf_isoformat t
  have h4 : (snapshotBody s).textField "security_state" = .ok s.securityState.value :=
    textField_obj (by simp) (by simp)
  have h5 : (snapshotBody s).textField "liquidity_state" = .ok s.liquidityState.value :=
    textField_obj (by simp) (by simp)
  have h6 : (snapshotBody s).optionalField "available_quantity" decimalOf = .ok s.availableQuantity :=
    optionalField_obj (by simp) (by simp) fun q _ => decimalOf_str q
  have h7 : (snapshotBody s).optionalField "currency" Currency.make = .ok s.currency :=
    optionalField_obj (by simp) (by simp) fun c hc => currency_make (h.currency c hc)
  have h8 : (snapshotBody s).optionalField "evidence_digest" EvidenceContentDigest.make = .ok s.evidenceDigest :=
    optionalField_obj (by simp) (by simp) fun d hd => digest_make (h.evidenceDigest d hd)
  simp only [snapshotOf, h1, h2, h3, h4, h5, h6, h7, h8, ok_bind, timestampOf_isoformat,
    executionInputStateOf_value, h.postInit]
  rfl

theorem rateOf_rateBody {r : CostRate Decimal} (hd : r.evidenceDigest.canonical = true)
    (hr : r.postInit = .ok ()) : rateOf (rateBody r) = .ok r := by
  have h1 : (rateBody r).textField "component" = .ok r.component.value := textField_obj (by simp) (by simp)
  have h2 : (rateBody r).textField "basis_points" = .ok r.basisPoints.str := textField_obj (by simp) (by simp)
  have h3 : (rateBody r).textField "provenance" = .ok r.provenance.value := textField_obj (by simp) (by simp)
  have h4 : (rateBody r).textField "evidence_digest" = .ok r.evidenceDigest.value :=
    textField_obj (by simp) (by simp)
  simp only [rateOf, h1, h2, h3, h4, ok_bind, costComponentOf_value, decimalOf_str, costProvenanceOf_value,
    digest_make hd, hr]
  rfl

theorem mapM_rateOf {l : List (CostRate Decimal)} (hd : ∀ r ∈ l, r.evidenceDigest.canonical = true)
    (hr : ∀ r ∈ l, r.postInit = .ok ()) : (l.map rateBody).mapM rateOf = .ok l := by
  induction l with
  | nil => rfl
  | cons r l ih =>
    rw [List.map_cons, List.mapM_cons, rateOf_rateBody (hd r (List.mem_cons_self ..)) (hr r (List.mem_cons_self ..)),
      ih (fun x hx => hd x (List.mem_cons_of_mem _ hx)) fun x hx => hr x (List.mem_cons_of_mem _ hx)]
    rfl

/-- `_model(_model_body(m)) == m`. -/
theorem modelOf_modelBody {m : ExecutionCostModel Decimal} (h : m.Constructed) :
    modelOf (modelBody m) = .ok m := by
  have h1 : (modelBody m).textField "model_id" = .ok m.modelId := textField_obj (by simp) (by simp)
  have h2 : (modelBody m).textField "scenario" = .ok m.scenario.value := textField_obj (by simp) (by simp)
  have h3 : (modelBody m).field "diagnostic_only" = .ok (.bool m.diagnosticOnly) := field_obj (by simp) (by simp)
  have h4 : (modelBody m).field "rates" = .ok (.arr (m.rates.map rateBody)) := field_obj (by simp) (by simp)
  simp only [modelOf, h1, h2, h3, h4, ok_bind, toItems, truthy, costScenarioOf_value,
    mapM_rateOf h.evidenceDigest h.rates, h.postInit]
  rfl

/-! ## Canonical JSON -/

theorem sorted_ofOption {α : Type} {encode : α → Json} {o : Option α} (h : ∀ a ∈ o, Sorted (encode a)) :
    Sorted (ofOption encode o) := by
  cases o with
  | none => exact sorted_null
  | some a => exact h a rfl

theorem sorted_texts (l : List String) : Sorted (.arr (l.map .str)) :=
  sorted_arr fun j hj => by obtain ⟨s, -, rfl⟩ := List.mem_map.mp hj; exact sorted_str s

theorem sorted_optionalText {α : Type} (encode : α → String) (o : Option α) :
    Sorted (ofOption (fun a => .str (encode a)) o) :=
  sorted_ofOption fun a _ => sorted_str (encode a)

theorem sorted_orderBody (o : SimulatedOrder Decimal) : Sorted (orderBody o) := by
  rw [orderBody]
  refine sorted_obj ?_
  simp only [List.forall_mem_cons, List.not_mem_nil, false_imp_iff, implies_true, and_true, sorted_str,
    sorted_texts]

theorem sorted_snapshotBody (s : ExecutionSnapshot Decimal) : Sorted (snapshotBody s) := by
  rw [snapshotBody]
  refine sorted_obj ?_
  simp only [List.forall_mem_cons, List.not_mem_nil, false_imp_iff, implies_true, and_true, sorted_str,
    sorted_optionalText]

theorem sorted_rateBody (r : CostRate Decimal) : Sorted (rateBody r) := by
  rw [rateBody]
  refine sorted_obj ?_
  simp only [List.forall_mem_cons, List.not_mem_nil, false_imp_iff, implies_true, and_true, sorted_str]

theorem sorted_modelBody (m : ExecutionCostModel Decimal) : Sorted (modelBody m) := by
  have hrates : Sorted (.arr (m.rates.map rateBody)) :=
    sorted_arr fun j hj => by obtain ⟨r, -, rfl⟩ := List.mem_map.mp hj; exact sorted_rateBody r
  rw [modelBody]
  refine sorted_obj ?_
  simp only [List.forall_mem_cons, List.not_mem_nil, false_imp_iff, implies_true, and_true, sorted_str,
    sorted_bool, hrates]

/-- `json.loads(canonical_json(j)) == j`. -/
theorem loads_canonicalJson {py : Platform} {j : Json} {text : List Char} (hs : Sorted j)
    (h : py.canonicalJson j = .ok text) : loads text = some j := by
  obtain ⟨-, rfl⟩ := (py.canonicalJson_eq_ok).mp h
  exact loads_dumps hs

end ATB.Proof.StateCodec
