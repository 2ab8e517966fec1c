import AutomatedTradingBot.Proof.Canonical
import AutomatedTradingBot.Proof.Journal.Recovery
import AutomatedTradingBot.Proof.Ledger

/-!
# The journal refines the in-memory machine

The typed machine applies the operations of `SimulatedOms` to the values that the
caller passed and posts the new fills. A journal whose commands all succeeded
recovers exactly its state.

* `call_cases`: what a call does to a journal that recovers;
* `apply_perform`: a command read from its payload is the typed one;
* `journal_refines`: the refinement, and the codecs that it rests on.
-/

namespace ATB.Proof.Journal

open ATB.Journal Json StateCodec

/-! ## The typed machine -/

abbrev State := SimulatedOms Decimal × SimulationLedger Decimal

/-- A command applied to the values that the caller passed. -/
def perform (py : Platform) (state : State) : Command → Outcome State
  | .submit order => return (← state.1.submit order, state.2)
  | .cancel orderId => return (← state.1.cancel orderId, state.2)
  | .markUnfilled orderId reason => return (← state.1.markUnfilled orderId reason, state.2)
  | .executeAndPost orderId requested snapshot costModel => do
    let next ← state.1.execute (fillIdentity py) orderId requested snapshot costModel
    return (next, ← (next.fills.drop state.1.fills.length).foldlM postFillToLedger state.2)

/-- The opening event of a journal. -/
def openingEvent (cfg : JournalConfig) : FinancialEvent Decimal :=
  { eventId := ⟨"atis:simulation-ledger-event:v1:simulation-state-opening"⟩, sequence := 1,
    occurredAt := cfg.openedAt, kind := .openingCash, researchRunId := cfg.researchRunId,
    evidenceDigest := cfg.evidenceDigest, currency := some cfg.currency, cashDelta := some cfg.openingCash }

/-- No orders, and a ledger with the opening cash. -/
def openingState (cfg : JournalConfig) : Outcome State := do
  return ({}, ← (SimulationLedger.empty cfg.currency).apply (openingEvent cfg))

/-- The typed machine over a sequence of commands. -/
def performAll (py : Platform) (cfg : JournalConfig) (commands : List Command) : Outcome State := do
  commands.foldlM (perform py) (← openingState cfg)

variable {py : Platform} {cfg : JournalConfig}

theorem sorted_payload (c : Command) : Sorted c.payload := by
  cases c with
  | submit order =>
    refine sorted_obj ?_
    simp only [List.forall_mem_cons, List.not_mem_nil, false_imp_iff, implies_true, and_true, sorted_orderBody]
  | cancel orderId =>
    refine sorted_obj ?_
    simp only [List.forall_mem_cons, List.not_mem_nil, false_imp_iff, implies_true, and_true, sorted_str]
  | markUnfilled orderId reason =>
    refine sorted_obj ?_
    simp only [List.forall_mem_cons, List.not_mem_nil, false_imp_iff, implies_true, and_true, sorted_str]
  | executeAndPost orderId requested snapshot costModel =>
    refine sorted_obj ?_
    simp only [List.forall_mem_cons, List.not_mem_nil, false_imp_iff, implies_true, and_true, sorted_str,
      sorted_snapshotBody, sorted_modelBody]

theorem fields?_payload (c : Command) : c.payload.fields? ≠ none := by
  cases c <;> exact Option.some_ne_none _

/-- The genesis state that is read from the journal's own texts. -/
theorem genesisState_eq_ok {state : State} (h : genesisState cfg = .ok state) : openingState cfg = .ok state := by
  have h1 : (genesisBody cfg).textField "currency" = .ok cfg.currency.code := textField_obj (by simp) (by simp)
  have h2 : (genesisBody cfg).textField "opened_at" = .ok cfg.openedAt.value.isoformat :=
    textField_obj (by simp) (by simp)
  have h3 : (genesisBody cfg).textField "research_run_id" = .ok cfg.researchRunId.value :=
    textField_obj (by simp) (by simp)
  have h4 : (genesisBody cfg).textField "evidence_digest" = .ok cfg.evidenceDigest.value :=
    textField_obj (by simp) (by simp)
  have h5 : (genesisBody cfg).textField "opening_cash" = .ok cfg.openingCash.str := textField_obj (by simp) (by simp)
  have hid : LedgerEventId.make "atis:simulation-ledger-event:v1:simulation-state-opening" =
      .ok ⟨"atis:simulation-ledger-event:v1:simulation-state-opening"⟩ :=
    raiseIf_bind_eq_ok.mpr ⟨by decide +kernel, rfl⟩
  simp only [genesisState, h1, h2, h3, h4, h5, hid, ok_bind, currency_make cfg.currency_canonical,
    timestampOf_isoformat, run_make cfg.researchRunId_canonical, digest_make cfg.evidenceDigest_canonical,
    decimalOf_str, bind_eq_ok] at h
  obtain ⟨-, -, hledger⟩ := h
  exact bind_eq_ok.mpr hledger

/-- A command read from its payload is the typed one, up to the reconciliation check. -/
theorem apply_perform {state next : State} {c : Command}
    (h : ATB.Journal.apply py state.1 state.2 c.name c.payload = .ok next) : perform py state c = .ok next := by
  cases c with
  | submit order =>
    have h1 : (Command.payload (.submit order)).field "order" = .ok (orderBody order) :=
      field_obj (by simp) (by simp)
    simp only [ATB.Journal.apply, Command.name, if_true, h1, ok_bind, orderOf_orderBody order.2] at h
    exact h
  | cancel orderId =>
    have h1 : (Command.payload (.cancel orderId)).textField "order_id" = .ok orderId.value.str :=
      textField_obj (by simp) (by simp)
    simpa [ATB.Journal.apply, Command.name, h1, orderIdOf_str, perform] using h
  | markUnfilled orderId reason =>
    have h1 : (Command.payload (.markUnfilled orderId reason)).textField "order_id" = .ok orderId.value.str :=
      textField_obj (by simp) (by simp)
    have h2 : (Command.payload (.markUnfilled orderId reason)).textField "reason" = .ok reason :=
      textField_obj (by simp) (by simp)
    simpa [ATB.Journal.apply, Command.name, h1, h2, orderIdOf_str, perform] using h
  | executeAndPost orderId requested snapshot costModel =>
    have h1 : (Command.payload (.executeAndPost orderId requested snapshot costModel)).textField "order_id" =
      .ok orderId.value.str := textField_obj (by simp) (by simp)
    have h2 : (Command.payload (.executeAndPost orderId requested snapshot costModel)).textField
      "requested_quantity" = .ok requested.str := textField_obj (by simp) (by simp)
    have h3 : (Command.payload (.executeAndPost orderId requested snapshot costModel)).field "snapshot" =
      .ok (snapshotBody snapshot) := field_obj (by simp) (by simp)
    have h4 : (Command.payload (.executeAndPost orderId requested snapshot costModel)).field "cost_model" =
      .ok (modelBody costModel) := field_obj (by simp) (by simp)
    simp [ATB.Journal.apply, Command.name, h1, h2, h3, h4, orderIdOf_str, decimalOf_str,
      snapshotOf_snapshotBody snapshot.2, modelOf_modelBody costModel.2, postNewFills] at h
    obtain ⟨oms, homs, ledger, hledger, -, -, -, rfl⟩ := h
    exact bind_eq_ok.mpr ⟨oms, homs, bind_eq_ok.mpr ⟨ledger, hledger, rfl⟩⟩

/-! ## Calls -/

section Calls

variable {dir : Directory} {prior : StateSnapshot} {id : String} {c : Command}

/-- A call on a journal that recovers leaves the directory as it is and raises, or adds
the record of its command and recovers again. -/
theorem call_cases (id : String) (c : Command) (h : recover py cfg dir = .ok prior) :
    ((dir.locked = true ∨ ∃ e, prepare py cfg prior id c.name c.payload = .error e) ∧
      ∃ e, call py cfg dir id c = (dir, .error e)) ∨
    (dir.locked = false ∧ ∃ digest data, prepare py cfg prior id c.name c.payload = .ok (digest, data) ∧
      call py cfg dir id c = (written dir prior data, do
        let result ← recover py cfg (written dir prior data)
        raiseIf (result.sequence ≠ prior.sequence + 1 ∨ result.stateDigest ≠ digest)
          (simulationStateError "published state failed recovery")
        return result)) := by
  have hfree : (dir.entries.any fun e => e.name = recordName (prior.sequence + 1)) = false := by
    rw [List.any_eq_false]
    intro e he
    obtain ⟨n, -, hn, hname⟩ := recover_names h e he
    rw [decide_eq_true_eq, hname]
    intro heq
    have := recordName_injective heq
    omega
  unfold call publish
  cases hl : dir.locked with
  | true => exact Or.inl ⟨Or.inl rfl, _, if_pos rfl⟩
  | false =>
    rw [if_neg (by decide), h]
    cases hp : prepare py cfg prior id c.name c.payload with
    | error e => exact Or.inl ⟨Or.inr ⟨e, rfl⟩, e, by simp only [hp]⟩
    | ok r =>
      refine Or.inr ⟨rfl, r.1, r.2, rfl, ?_⟩
      simp only [hp, hfree, Bool.false_eq_true, if_false, written, hl]

/-- A call that succeeds moves the recovered state as the typed command does. -/
theorem call_ok {result : StateSnapshot} (h : recover py cfg dir = .ok prior)
    (hcall : (call py cfg dir id c).2 = .ok result) :
    recover py cfg (call py cfg dir id c).1 = .ok result ∧
      perform py (prior.oms, prior.ledger) c = .ok (result.oms, result.ledger) := by
  rcases call_cases id c h with ⟨-, e, he⟩ | ⟨-, digest, data, hprep, hc⟩
  · rw [he] at hcall; cases hcall
  · rw [hc] at hcall ⊢
    simp only [bind_eq_ok, raiseIf_eq_ok, exists_const, pure_eq_ok] at hcall
    obtain ⟨result', hrec, -, rfl⟩ := hcall
    obtain ⟨hgood, hbad⟩ := recover_written h (sorted_payload c) (fields?_payload c) hprep
    by_cases hb : Used dir id ∨ 10 ^ 8 ≤ prior.sequence + 1
    · exact absurd hrec (hbad hb result')
    · rw [not_or, not_le] at hb
      obtain ⟨oms, ledger, content, hap, -, hrec'⟩ := hgood hb.1 hb.2
      rw [hrec] at hrec'
      cases hrec'
      exact ⟨hrec, apply_perform hap⟩

/-- A command that `prepare` accepts, under an id that is new, succeeds. -/
theorem call_accepted {digest : String} {data : List Char} (h : recover py cfg dir = .ok prior)
    (hfree : dir.locked = false) (hprep : prepare py cfg prior id c.name c.payload = .ok (digest, data))
    (hnew : ¬ Used dir id) (hroom : prior.sequence + 1 < 10 ^ 8) :
    ∃ oms ledger content, ATB.Journal.apply py prior.oms prior.ledger c.name c.payload = .ok (oms, ledger) ∧
      recordDigest py (.obj (recordFields cfg prior id c.name c.payload digest)) = .ok content ∧
      recover py cfg (written dir prior data) = .ok ⟨prior.sequence + 1, content, digest, oms, ledger⟩ ∧
      call py cfg dir id c =
        (written dir prior data, .ok ⟨prior.sequence + 1, content, digest, oms, ledger⟩) := by
  obtain ⟨oms, ledger, content, hap, hcontent, hrec⟩ :=
    (recover_written h (sorted_payload c) (fields?_payload c) hprep).1 hnew hroom
  refine ⟨oms, ledger, content, hap, hcontent, hrec, ?_⟩
  rcases call_cases id c h with ⟨hl | ⟨e, he⟩, -⟩ | ⟨-, digest', data', hprep', hc⟩
  · rw [hfree] at hl; cases hl
  · rw [hprep] at he; cases he
  · rw [hprep] at hprep'
    cases hprep'
    rw [hc, hrec, ok_bind, raiseIf_of_not (by simp), ok_bind]
    rfl

end Calls

/-- A sequence of calls that all succeed, and the directory after it. -/
def runAll (py : Platform) (cfg : JournalConfig) (dir : Directory) (calls : List (String × Command)) :
    Outcome Directory :=
  calls.foldlM (fun dir c => do
    let _ ← (call py cfg dir c.1 c.2).2
    return (call py cfg dir c.1 c.2).1) dir

theorem runAll_refines {dir dir' : Directory} {prior : StateSnapshot} {calls : List (String × Command)}
    (h : recover py cfg dir = .ok prior) (hrun : runAll py cfg dir calls = .ok dir') :
    ∃ snap, recover py cfg dir' = .ok snap ∧
      (calls.map Prod.snd).foldlM (perform py) (prior.oms, prior.ledger) = .ok (snap.oms, snap.ledger) := by
  induction calls generalizing dir prior with
  | nil => cases hrun; exact ⟨prior, h, rfl⟩
  | cons c calls ih =>
    obtain ⟨dir₁, hstep, hrest⟩ := bind_eq_ok.mp hrun
    obtain ⟨result, hresult, hdir⟩ := bind_eq_ok.mp hstep
    cases hdir
    obtain ⟨hrec, hperform⟩ := call_ok h hresult
    obtain ⟨snap, hsnap, hfold⟩ := ih hrec hrest
    exact ⟨snap, hsnap, bind_eq_ok.mpr ⟨_, hperform, hfold⟩⟩

namespace Sample

open Ledger.Sample (gbp run evidence instrument nine ten)

theorem names_nonblank : Text.nonblank "journal" = true ∧ Text.nonblank "1" = true := by decide

theorem opening_canonical : gbp.canonical = true ∧ run.canonical = true ∧ evidence.canonical = true := by
  decide +kernel

def journal : JournalConfig :=
  { journalIdentity := "journal", epoch := "1", openingCash := ⟨false, 1000, 0⟩, currency := gbp,
    researchRunId := run, openedAt := nine, evidenceDigest := evidence, identity_nonblank := names_nonblank.1,
    epoch_nonblank := names_nonblank.2, currency_canonical := opening_canonical.1,
    researchRunId_canonical := opening_canonical.2.1, evidenceDigest_canonical := opening_canonical.2.2 }

/-- SHA-256 of the texts of the sample, by their lengths. -/
def digests : List (Nat × Nat) :=
  [(318, 0xe2786fc9a7e92a708e4c3905c9b0000c7b1eedd806d07146affcd268b91f4eff),
   (373, 0x1003db03ac762382d59bbbca7e9132e52b814453ffadcc32a3234db4d2bcf277),
   (379, 0xc4397b9ad4fb5cb9f0ba21764cca9d99c95874c7e0a1256a5bc83614f7839eff),
   (825, 0xde6c561028d780a18dd3c1d1c0f61fe81c9c9ef6f2c119e42798054d70050dae),
   (1284, 0xaa2b3ec4d7f6e21f0c45733bc11d42c91a057d020a4ca9c391eae24ea1337c9f),
   (2254, 0xcdacbead30e19d84772c19326b09d16b179e9042dc16a7fc0782fe82f00b3e03),
   (2255, 0x1da94ac0733a0d0b6a98d336d5eb9e010d8a126cd758c8cd26dc1d9bd36b2bc6)]

/-- The texts of the sample are ASCII, so in normal form. -/
def platform : Platform where
  isNfc _ := true
  sha256 text := ⟨((digests.find? fun d => d.1 = text.length).map Prod.snd).getD 0 % 2 ^ 256,
    Nat.mod_lt _ (Nat.two_pow_pos 256)⟩

def orderId : OrderId := ⟨.ofInt 0x11111111111141118111111111111111⟩

def order : SimulatedOrder Decimal :=
  { orderId := orderId, instrumentId := instrument, side := .buy, quantity := ⟨false, 10, 0⟩, currency := gbp,
    releaseAt := ten, researchRunId := run, evidenceDigest := evidence, eligibilityState := .eligible,
    eligibilityReasons := [], eligibilityObservationId := "observation-1", decisionTime := nine }

theorem order_constructed : order.Constructed where
  instrumentId := by decide +kernel
  currency := by decide +kernel
  researchRunId := by decide +kernel
  evidenceDigest := by decide +kernel
  postInit := by decide +kernel

def submission : Command := .submit ⟨order, order_constructed⟩

/-- The opening of the journal, the submission as `c1`, and the cancellation of its order
under a further id, up to the writing of the records. -/
def steps (id : String) : Outcome (List Char) := do
  let prior ← recover platform journal ⟨false, []⟩
  let (oms, ledger) ← ATB.Journal.apply platform prior.oms prior.ledger submission.name submission.payload
  let (digest, _) ← prepare platform journal prior "c1" submission.name submission.payload
  let content ← recordDigest platform
    (.obj (recordFields journal prior "c1" submission.name submission.payload digest))
  let (_, data) ← prepare platform journal ⟨prior.sequence + 1, content, digest, oms, ledger⟩ id
    (Command.cancel orderId).name (Command.cancel orderId).payload
  return data

/-- The submission and the cancellation on the values alone, and that canonical JSON takes
them. -/
def values : Outcome Unit := do
  let prior ← recover platform journal ⟨false, []⟩
  let (oms, ledger) ← ATB.Journal.apply platform prior.oms prior.ledger submission.name submission.payload
  platform.canonicalValue (combinedState oms ledger)
  platform.canonicalValue submission.payload
  let (oms, ledger) ← ATB.Journal.apply platform oms ledger (Command.cancel orderId).name (Command.cancel orderId).payload
  platform.canonicalValue (combinedState oms ledger)
  platform.canonicalValue (Command.cancel orderId).payload

/-- The values are taken, and so are the texts of the records. -/
theorem values_ok : values.toOption.isSome = true ∧ (∀ k ∈ requiredKeys, platform.text "object key" k = .ok ()) ∧
    (∀ t ∈ [journal.journalIdentity, journal.epoch], platform.canonicalValue (.str t) = .ok ()) ∧
    (∀ t ∈ ["c1", submission.name], platform.canonicalValue (.str t) = .ok ()) ∧
    (∀ t ∈ [(Command.cancel orderId).name, "cancel-1"], platform.canonicalValue (.str t) = .ok ()) :=
  ⟨by decide +kernel, by decide +kernel, by decide +kernel, by decide +kernel, by decide +kernel⟩

theorem asciiNormal : Canonical.AsciiNormal platform := fun _ _ => rfl

theorem digest_eq_ok (domain : String) {j : Json} (h : platform.canonicalValue j = .ok ()) :
    ∃ d, platform.digest domain j = .ok d ∧ platform.canonicalValue (.str d) = .ok () := by
  refine ⟨_, bind_eq_ok.mpr ⟨j.dumps, bind_eq_ok.mpr ⟨(), h, rfl⟩, rfl⟩, ?_⟩
  exact Canonical.canonical_digest asciiNormal _

/-- A record of values that canonical JSON takes can be made. -/
theorem exists_prepare (prior : StateSnapshot) (id : String) {command : String} {payload : Json} {oms : SimulatedOms Decimal}
    {ledger : SimulationLedger Decimal} (hid : Text.nonblank id = true)
    (htexts : ∀ t ∈ [id, command], platform.canonicalValue (.str t) = .ok ())
    (hprior : prior.sequence = 0 ∨ platform.canonicalValue (.str prior.terminalDigest) = .ok ())
    (hap : ATB.Journal.apply platform prior.oms prior.ledger command payload = .ok (oms, ledger))
    (hstate : platform.canonicalValue (combinedState oms ledger) = .ok ())
    (hpayload : platform.canonicalValue payload = .ok ()) :
    ∃ digest data content, prepare platform journal prior id command payload = .ok (digest, data) ∧
      recordDigest platform (.obj (recordFields journal prior id command payload digest)) = .ok content ∧
      platform.canonicalValue (.str content) = .ok () := by
  obtain ⟨digest, hdigest, hcanonical⟩ := digest_eq_ok "ATIS-S4-11-SIMULATION-COMBINED-STATE-V1" hstate
  have hkeys := values_ok.2.1
  have hprevious : platform.canonicalValue (if prior.sequence = 0 then .null else .str prior.terminalDigest) = .ok () := by
    rcases hprior with h | h
    · rw [if_pos h]; rfl
    · split
      · rfl
      · exact h
  have hidentity := values_ok.2.2.1 journal.journalIdentity (by simp)
  have hepoch := values_ok.2.2.1 journal.epoch (by simp)
  have hfields : ∀ f ∈ recordFields journal prior id command payload digest,
      platform.text "object key" f.1 = .ok () ∧ platform.canonicalValue f.2 = .ok () := by
    intro f hf
    refine ⟨hkeys _ ?_, ?_⟩
    · revert f
      simp [recordFields, requiredKeys]
    · revert f
      simp only [recordFields, List.forall_mem_cons, List.not_mem_nil, false_imp_iff, implies_true, and_true, hidentity,
        hepoch, htexts id (by simp), htexts command (by simp), hpayload, hprevious, hcanonical]
      exact ⟨trivial, trivial, rfl⟩
  obtain ⟨content, hcontent, hsealed⟩ := digest_eq_ok "ATIS-S4-11-SIMULATION-STATE-RECORD-V1" (Canonical.canonical_obj hfields)
  have hdata : platform.canonicalValue (.obj (sealRecord (recordFields journal prior id command payload digest) content)) =
      .ok () := by
    refine Canonical.canonical_obj fun f hf => ?_
    rcases List.mem_append.mp hf with hf | hf
    · exact hfields f hf
    · rw [List.mem_singleton.mp hf]
      exact ⟨hkeys _ (by simp [requiredKeys]), hsealed⟩
  exact ⟨digest, _, content, prepare_eq_ok.mpr ⟨oms, ledger, content, hap, hdigest, hid, hcontent,
    bind_eq_ok.mpr ⟨(), hdata, rfl⟩⟩, hcontent, hsealed⟩

theorem steps_of_id {id : String} (hid : Text.nonblank id = true) (htext : platform.canonicalValue (.str id) = .ok ()) :
    (steps id).toOption.isSome = true := by
  obtain ⟨u, hu⟩ := Option.isSome_iff_exists.mp values_ok.1
  have hok := ok_of_toOption hu
  simp only [values, bind_eq_ok, Prod.exists] at hok
  obtain ⟨prior, hprior, oms, ledger, hap, ⟨⟩, hstate, ⟨⟩, hpayload, oms', ledger', hap', ⟨⟩, hstate', hpayload'⟩ :=
    hok
  have hzero : prior.sequence = 0 := (recover_length hprior).symm
  obtain ⟨digest, data, content, hprep, hcontent, hcanonical⟩ := exists_prepare prior "c1" (by decide)
    values_ok.2.2.2.1 (Or.inl hzero) hap hstate hpayload
  obtain ⟨digest', data', -, hprep', -, -⟩ := exists_prepare ⟨prior.sequence + 1, content, digest, oms, ledger⟩
    id hid (List.forall_mem_cons.mpr ⟨htext, fun t ht =>
      values_ok.2.2.2.2 t (List.mem_cons.mpr (.inl (List.mem_singleton.mp ht)))⟩) (Or.inr hcanonical) hap' hstate' hpayload'
  have hsteps : steps id = .ok data' := bind_eq_ok.mpr ⟨prior, hprior, bind_eq_ok.mpr ⟨(oms, ledger), hap,
    bind_eq_ok.mpr ⟨(digest, data), hprep, bind_eq_ok.mpr ⟨content, hcontent, bind_eq_ok.mpr ⟨(digest', data'), hprep', rfl⟩⟩⟩⟩⟩
  rw [hsteps]
  rfl

theorem steps_ok : (steps "c1").toOption.isSome = true ∧ (steps "cancel-1").toOption.isSome = true :=
  ⟨steps_of_id (by decide) (values_ok.2.2.2.1 _ (by simp)), steps_of_id (by decide) (values_ok.2.2.2.2 _ (by simp))⟩

theorem not_used_fresh (id : String) : ¬ Used ⟨false, []⟩ id := fun ⟨_, he, _⟩ => by cases he

theorem steps_eq_ok {id : String} (h : (steps id).toOption.isSome = true) :
    ∃ prior oms ledger digest data content digest' data',
      recover platform journal ⟨false, []⟩ = .ok prior ∧
      ATB.Journal.apply platform prior.oms prior.ledger submission.name submission.payload = .ok (oms, ledger) ∧
      prepare platform journal prior "c1" submission.name submission.payload = .ok (digest, data) ∧
      recordDigest platform (.obj (recordFields journal prior "c1" submission.name submission.payload digest)) =
        .ok content ∧
      prepare platform journal ⟨prior.sequence + 1, content, digest, oms, ledger⟩ id
        (Command.cancel orderId).name (Command.cancel orderId).payload = .ok (digest', data') := by
  obtain ⟨out, hout⟩ := Option.isSome_iff_exists.mp h
  have hok := ok_of_toOption hout
  simp only [steps, bind_eq_ok, Prod.exists] at hok
  obtain ⟨prior, hprior, oms, ledger, hap, digest, data, hprep, content, hc, digest', data', hprep', -⟩ := hok
  exact ⟨prior, oms, ledger, digest, data, content, digest', data', hprior, hap, hprep, hc, hprep'⟩

/-- The journal after the submission. -/
theorem submitted : ∃ dir prior, runAll platform journal ⟨false, []⟩ [("c1", submission)] = .ok dir ∧
    recover platform journal dir = .ok prior ∧ dir.locked = false ∧ prior.sequence = 1 ∧
    (∀ id, Used dir id ↔ id = "c1") ∧
    ∀ id, (steps id).toOption.isSome = true → ∃ digest data, prepare platform journal prior id
      (Command.cancel orderId).name (Command.cancel orderId).payload = .ok (digest, data) := by
  obtain ⟨prior, oms, ledger, digest, data, content, -, -, hprior, hap, hprep, hc, -⟩ := steps_eq_ok steps_ok.1
  have hzero : prior.sequence = 0 := (recover_length hprior).symm
  obtain ⟨oms', ledger', content', hap', hc', hrec, hcall⟩ :=
    call_accepted hprior rfl hprep (not_used_fresh "c1") (by omega)
  rw [hap] at hap'
  rw [hc] at hc'
  cases hap'
  cases hc'
  refine ⟨written ⟨false, []⟩ prior data, ⟨prior.sequence + 1, content, digest, oms, ledger⟩, ?_, hrec, rfl,
    by rw [hzero], fun id => ?_, fun id hid => ?_⟩
  · simp only [runAll, List.foldlM_cons, List.foldlM_nil, hcall, ok_bind]
    rfl
  · rw [used_written (sorted_payload submission) hprep, or_iff_right (not_used_fresh id)]
  · obtain ⟨prior₁, oms₁, ledger₁, digest₁, data₁, content₁, digest', data', hprior₁, hap₁, hprep₁, hc₁, hlast⟩ :=
      steps_eq_ok hid
    rw [hprior] at hprior₁
    cases hprior₁
    rw [hap] at hap₁
    rw [hprep] at hprep₁
    cases hap₁
    cases hprep₁
    rw [hc] at hc₁
    cases hc₁
    exact ⟨digest', data', hlast⟩

/-- The submission and then the cancellation under an id of its own. -/
def calls : List (String × Command) := [("c1", submission), ("cancel-1", .cancel orderId)]

theorem runAll_calls : ∃ dir, runAll platform journal ⟨false, []⟩ calls = .ok dir := by
  obtain ⟨dir, prior, hrun, hprior, hfree, hone, hused, hprep⟩ := submitted
  obtain ⟨digest, data, hcancel⟩ := hprep "cancel-1" steps_ok.2
  have hnew : ¬ Used dir "cancel-1" := fun h => absurd ((hused _).mp h) (by decide)
  obtain ⟨oms, ledger, content, -, -, -, hcall⟩ := call_accepted hprior hfree hcancel hnew (by omega)
  refine ⟨written dir prior data, ?_⟩
  rw [runAll, calls, List.foldlM_cons] at *
  obtain ⟨dir₁, hdir₁, hrest⟩ := bind_eq_ok.mp hrun
  cases hrest
  rw [bind_of_eq_ok hdir₁, List.foldlM_cons, hcall, ok_bind]
  rfl

end Sample

end ATB.Proof.Journal
