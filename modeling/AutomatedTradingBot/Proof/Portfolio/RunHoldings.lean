import Mathlib.Algebra.BigOperators.Ring.Finset
import Mathlib.Algebra.Order.BigOperators.Group.Finset
import AutomatedTradingBot.Framework.Refusal
import AutomatedTradingBot.Proof.Reconcile.Sound
import AutomatedTradingBot.Source.Commitments

/-!
# What each run holds

The ledger keeps one position for each instrument; `_holding_at` adds up the trades
of one run. Both folds rescale by every split, so the runs' net holdings are a
partition of the position (`sum_netHolding`). A run may have sold what another run
bought: its net holding is then negative, and `_holding_at` raises
(`holdingAt_eq`).

* `run_holdings_partition`: the runs' holdings add up to the position whenever
  `_holding_at` returns them, and then what `current_reservation_issues` finds
  feasible for each run is feasible for the portfolio;
* `short_run_raises`: the ledger accepts a history in which it does not return.
-/

namespace ATB.Proof.Portfolio

open Ledger (holding OnePerInstrument tradedIn trades)

/-! ## The fold over one run -/

/-- What an event does to the net holding of a run. -/
def netStep (run : String) (i : InstrumentId) (h : ℚ) (e : FinancialEvent ℚ) : ℚ :=
  if e.instrumentId = some i then
    if e.kind = .trade ∧ e.researchRunId.value = run then h + e.quantity.getD 0
    else if e.kind = .split then h * e.quantity.getD 0 else h
  else h

/-- What a run bought of an instrument less what it sold, rescaled by the splits. -/
def netHolding (events : List (FinancialEvent ℚ)) (run : String) (i : InstrumentId) : ℚ :=
  events.foldl (netStep run i) 0

theorem netHolding_append (events : List (FinancialEvent ℚ)) (e : FinancialEvent ℚ) (run : String) (i : InstrumentId) :
    netHolding (events ++ [e]) run i = netStep run i (netHolding events run i) e := by
  simp [netHolding]

/-- A trade that was constructed has a quantity. -/
theorem trade_quantity {e : FinancialEvent ℚ} (he : e.postInit = .ok ()) (hk : e.kind = .trade) :
    ∃ q, e.quantity = some q := by
  have h := Ledger.validateAmounts_of_postInit he
  simp only [FinancialEvent.validateAmounts, hk, bind_eq_ok, raiseIf_eq_ok, exists_const] at h
  cases hq : e.quantity with
  | none => simp [hq] at h
  | some q => exact ⟨q, rfl⟩

/-- A split that was constructed has a positive factor. -/
theorem split_factor {e : FinancialEvent ℚ} (he : e.postInit = .ok ()) (hk : e.kind = .split) :
    ∃ q, e.quantity = some q ∧ 0 < q := by
  have h := Ledger.validateAmounts_of_postInit he
  simp only [FinancialEvent.validateAmounts, hk, bind_eq_ok, raiseIf_eq_ok, exists_const] at h
  cases hq : e.quantity with
  | none => simp [hq] at h
  | some q => exact ⟨q, rfl, Ledger.split_factor_pos he hk hq⟩

/-- One iteration of `_holding_at` over an event up to the cutoff. -/
theorem holdingStep_eq {e : FinancialEvent ℚ} (he : e.postInit = .ok ()) {cutoff : Timestamp}
    (hcut : e.occurredAt.value ≤ cutoff.value) (run : String) (i : InstrumentId) (h : ℚ) :
    holdingStep run i cutoff h e = .ok (netStep run i h e) := by
  rw [holdingStep, if_neg (show ¬ cutoff.value < e.occurredAt.value from Nat.not_lt.mpr hcut), netStep]
  by_cases hi : e.instrumentId = some i
  · rw [if_neg (not_not.mpr hi), if_pos hi]
    split
    · rename_i hk
      obtain ⟨q, hq⟩ := trade_quantity he hk.1
      simp [hq, orRaise]
    · split
      · rename_i hk
        obtain ⟨q, hq, hpos⟩ := split_factor he hk
        simp [hq, orRaise, raiseIf, not_le.mpr hpos]
      · rfl
  · rw [if_pos hi, if_neg hi]
    rfl

/-- `_holding_at` at a cutoff that no event is after: the net holding, unless it is
negative. -/
theorem holdingAt_eq {l : SimulationLedger ℚ} (he : ∀ e ∈ l.events, e.postInit = .ok ()) {cutoff : Timestamp}
    (hcut : ∀ e ∈ l.events, e.occurredAt.value ≤ cutoff.value) (run : String) (i : InstrumentId) :
    holdingAt l run i cutoff =
      if netHolding l.events run i < 0 then
        .error (portfolioError "authoritative ledger contains unsupported short holding")
      else .ok (netHolding l.events run i) := by
  have hfold : ∀ (events : List (FinancialEvent ℚ)) (h : ℚ), (∀ e ∈ events, e ∈ l.events) →
      events.foldlM (holdingStep run i cutoff) h = .ok (events.foldl (netStep run i) h) := by
    intro events
    induction events with
    | nil => intro h _; rfl
    | cons e events ih =>
      intro h hsub
      have hmem := hsub e (List.mem_cons_self ..)
      rw [List.foldlM_cons, holdingStep_eq (he e hmem) (hcut e hmem), ok_bind, List.foldl_cons]
      exact ih _ fun x hx => hsub x (List.mem_cons_of_mem _ hx)
  rw [holdingAt, hfold l.events 0 fun _ h => h, ok_bind]
  by_cases hneg : netHolding l.events run i < 0
  · rw [if_pos hneg, raiseIf_of (by simpa [netHolding] using hneg)]
    rfl
  · rw [if_neg hneg, raiseIf_of_not (by simpa [netHolding] using hneg)]
    rfl

/-- A run that no event is of holds nothing. -/
theorem netHolding_of_no_events {events : List (FinancialEvent ℚ)} {run : String}
    (h : ∀ e ∈ events, e.researchRunId.value ≠ run) (i : InstrumentId) : netHolding events run i = 0 := by
  suffices ∀ l : List (FinancialEvent ℚ), (∀ e ∈ l, e ∈ events) → l.foldl (netStep run i) 0 = 0 from
    this events fun _ he => he
  intro l
  induction l with
  | nil => exact fun _ => rfl
  | cons e l ih =>
    intro hsub
    have hrun := h e (hsub e (List.mem_cons_self ..))
    have hstep : netStep run i 0 e = 0 := by simp [netStep, hrun]
    rw [List.foldl_cons, hstep]
    exact ih fun x hx => hsub x (List.mem_cons_of_mem _ hx)

/-! ## The position -/

/-- A split rescales its instrument. -/
theorem transition_split {s s' : LedgerState ℚ} {e : FinancialEvent ℚ} (hs : OnePerInstrument s)
    (h : transition s e = .ok s') (hk : e.kind = .split) {i : InstrumentId} (hi : e.instrumentId = some i) :
    holding s' i = holding s i * e.quantity.getD 0 := by
  rcases Ledger.transition_cases h with ⟨hf, -⟩ | ⟨ht, -⟩ | ⟨ht, -⟩ | ⟨ht, -⟩ | ⟨-, j, q, old, m, hj, hq, hold, -, -, h⟩
  · rw [hk] at hf; cases hf
  · rw [hk] at ht; cases ht
  · rw [hk] at ht; cases ht
  · rw [hk] at ht; cases ht
  · have hji : j = i := by rw [hi] at hj; cases hj; rfl
    subst hji
    have ho := ((Dict.get?_ofKeys hs).mp hold).2
    rw [(Ledger.holding_settle { old with quantity := old.quantity * q, markPrice := m } hs ho h).2, if_pos rfl, hq,
      holding, Ledger.position_eq hs, hold]
    rfl

/-- One accepted event keeps the runs' net holdings a partition of every position. -/
theorem sum_netStep {s s' : LedgerState ℚ} {e : FinancialEvent ℚ} (hs : OnePerInstrument s)
    (h : transition s e = .ok s') {runs : Finset String} (hrun : e.researchRunId.value ∈ runs) (i : InstrumentId)
    {net : String → ℚ} (hnet : ∑ run ∈ runs, net run = holding s i) :
    ∑ run ∈ runs, netStep run i (net run) e = holding s' i := by
  by_cases hi : e.instrumentId = some i
  · by_cases hsplit : e.kind = .split
    · rw [transition_split hs h hsplit hi, ← hnet, Finset.sum_mul]
      exact Finset.sum_congr rfl fun run _ => by simp [netStep, hi, hsplit]
    · rw [(Ledger.transition_holding hs h).2 i fun hc => hsplit hc.1, ← hnet]
      by_cases htrade : e.kind = .trade
      · have hstep : ∀ run ∈ runs, netStep run i (net run) e =
            net run + if e.researchRunId.value = run then e.quantity.getD 0 else 0 := by
          intro run _
          by_cases hr : e.researchRunId.value = run <;> simp [netStep, hi, htrade, hr]
        rw [Finset.sum_congr rfl hstep, Finset.sum_add_distrib, Finset.sum_ite_eq, if_pos hrun]
        simp [trades, htrade, sumBy, tradedIn, hi]
      · have hstep : ∀ run ∈ runs, netStep run i (net run) e = net run :=
          fun run _ => by simp [netStep, hi, htrade, hsplit]
        rw [Finset.sum_congr rfl hstep]
        simp [trades, htrade, sumBy]
  · have hstep : ∀ run ∈ runs, netStep run i (net run) e = net run := fun run _ => by simp [netStep, hi]
    rw [Finset.sum_congr rfl hstep, hnet, (Ledger.transition_holding hs h).2 i fun hc => hi hc.2]
    by_cases htrade : e.kind = .trade <;> simp [trades, htrade, sumBy, tradedIn, hi]

/-- The net holdings of the runs add up to the position. -/
theorem sum_netHolding {c : Currency} {events : List (FinancialEvent ℚ)} {l : SimulationLedger ℚ}
    (h : SimulationLedger.replay c events = .ok l) {runs : Finset String}
    (hruns : ∀ e ∈ l.events, e.researchRunId.value ∈ runs) (i : InstrumentId) :
    ∑ run ∈ runs, netHolding l.events run i = holding l.state i := by
  suffices OnePerInstrument l.state ∧ ((∀ e ∈ l.events, e.researchRunId.value ∈ runs) →
      ∑ run ∈ runs, netHolding l.events run i = holding l.state i) from this.2 hruns
  refine foldlM_ok_induction (fun l : SimulationLedger ℚ => OnePerInstrument l.state ∧
    ((∀ e ∈ l.events, e.researchRunId.value ∈ runs) →
      ∑ run ∈ runs, netHolding l.events run i = holding l.state i)) (fun l e l' _ hl hp => ?_) h
    ⟨List.nodup_nil, fun _ => Finset.sum_eq_zero fun _ _ => rfl⟩
  rcases Ledger.apply_cases hl with ⟨rfl, -⟩ | ⟨-, -, -, -, s', ht, rfl⟩
  · exact hp
  · refine ⟨(Ledger.transition_holding hp.1 ht).1, fun hr => ?_⟩
    simp only [netHolding_append]
    exact sum_netStep hp.1 ht (hr e (by simp)) i (hp.2 fun x hx => hr x (List.mem_append_left _ hx))

/-! ## Reservations -/

section Reservations

variable {C : Type} {κ : Type} [DecidableEq κ]

/-- What the records of a key reserve. -/
def reservedFor (key : CommitmentRecord C → κ) (k : κ) (records : List (CommitmentRecord C)) : ℚ :=
  ((records.filter fun r => key r = k).map fun r => r.reservedHolding).sum

theorem reservedFor_cons (key : CommitmentRecord C → κ) (k : κ) (r : CommitmentRecord C)
    (records : List (CommitmentRecord C)) :
    reservedFor key k (r :: records) = (if key r = k then r.reservedHolding else 0) + reservedFor key k records := by
  by_cases h : key r = k <;> simp [reservedFor, h]

theorem reservedFor_eq_zero {key : CommitmentRecord C → κ} {k : κ} {records : List (CommitmentRecord C)}
    (h : ∀ r ∈ records, key r ≠ k) : reservedFor key k records = 0 := by
  rw [reservedFor, List.filter_eq_nil_iff.mpr fun r hr => by simpa using h r hr]
  rfl

/-- The dictionary of totals, read at a key of some record. -/
theorem get?_addUp (key : CommitmentRecord C → κ) {records : List (CommitmentRecord C)} {r : CommitmentRecord C}
    (hr : r ∈ records) : Dict.get? (key r) (addUp key records) = some (reservedFor key (key r) records) := by
  have hfold : ∀ (l : List (CommitmentRecord C)) (d : List (κ × ℚ)) (k : κ),
      Dict.get? k (l.foldl (fun d r => Dict.set (key r) ((Dict.get? (key r) d).getD 0 + r.reservedHolding) d) d) =
        if k ∈ l.map key ∨ k ∈ Dict.keys d then some ((Dict.get? k d).getD 0 + reservedFor key k l) else none := by
    intro l
    induction l with
    | nil =>
      intro d k
      by_cases hk : k ∈ Dict.keys d
      · cases hg : Dict.get? k d with
        | none => exact absurd hk (Dict.get?_eq_none.mp hg)
        | some v => simp [hk, hg, reservedFor]
      · simp [hk, Dict.get?_eq_none.mpr hk]
    | cons x l ih =>
      intro d k
      rw [List.foldl_cons, ih, Dict.get?_set, Dict.keys_set, reservedFor_cons]
      by_cases hx : key x = k
      · subst hx
        by_cases hd : key x ∈ Dict.keys d <;> simp [hd, add_assoc]
      · have hk : ¬ k = key x := fun e => hx e.symm
        by_cases hd : key x ∈ Dict.keys d <;> simp [hd, hx, hk]
  rw [addUp, hfold, if_pos (.inl (List.mem_map_of_mem hr))]
  simp [Dict.get?]

/-- The records of an instrument, taken run by run. -/
theorem sum_reservedFor (i : InstrumentId) {records : List (CommitmentRecord C)} {runs : Finset String}
    (h : ∀ r ∈ records, r.researchRunId ∈ runs) :
    ∑ run ∈ runs, reservedFor (fun r => (r.researchRunId, r.instrumentId)) (run, i) records =
      reservedFor (fun r => r.instrumentId) i records := by
  induction records with
  | nil => simp [reservedFor]
  | cons r records ih =>
    have hr := h r (List.mem_cons_self ..)
    rw [reservedFor_cons, ← ih fun x hx => h x (List.mem_cons_of_mem _ hx)]
    simp only [reservedFor_cons, Finset.sum_add_distrib, Prod.mk.injEq]
    congr 1
    by_cases hi : r.instrumentId = i
    · simp only [hi, and_true, if_true, Finset.sum_ite_eq, if_pos hr]
    · simp [hi]

/-- The sells that a book reserves for. -/
def activeSells (book : CommitmentBook C) : List (CommitmentRecord C) :=
  (activeRecords book.records).filter fun r => r.side = .sell

/-- A run of an active sell whose issue was not reported holds what it reserved. -/
theorem reserved_le_of_no_issue [DecidableEq C] {env : PortfolioEnvironment C} {book : CommitmentBook C}
    {oms : SimulatedOms ℚ} {l : SimulationLedger ℚ} {cutoff : Timestamp} {issues : List String}
    (h : currentReservationIssues env book oms l cutoff = .ok issues) {r : CommitmentRecord C}
    (hr : r ∈ activeSells book)
    (hno : "INFEASIBLE_RESERVATION:" ++ r.researchRunId ++ ":" ++ r.instrumentId.toString ∉ issues) :
    ∃ v, holdingAt l r.researchRunId r.instrumentId cutoff = .ok v ∧
      reservedFor (fun r => (r.researchRunId, r.instrumentId)) (r.researchRunId, r.instrumentId) (activeSells book) ≤
        v := by
  simp only [currentReservationIssues, bind_eq_ok, pure_eq_ok] at h
  obtain ⟨-, -, -, -, -, -, -, -, -, -, m, hm, rfl⟩ := h
  have hkey := get?_addUp (fun r => (r.researchRunId, r.instrumentId)) hr
  obtain ⟨y, hy, e⟩ := (mem_of_mapM hm).2 _ (Dict.mem_of_get? hkey)
  simp only [runIssue, bind_eq_ok, pure_eq_ok] at e
  obtain ⟨v, hv, e⟩ := e
  refine ⟨v, hv, not_lt.mp fun hlt => hno ?_⟩
  rw [if_pos hlt] at e
  rw [List.mem_insertionSort, List.mem_append, List.mem_append]
  exact .inl (.inr (List.mem_filterMap.mpr ⟨y, hy, e.symm⟩))

end Reservations

/-! ## The partition -/

/-- For every ledger that a replay accepts and every cutoff that no event is after, the
runs' net holdings of an instrument add up to its position. `_holding_at` returns the net
holding of a run, or raises when it is negative; where it returns for every run, the
returned holdings add up to the position, and sales that `current_reservation_issues`
finds feasible for each run are together within the position. -/
theorem run_holdings_partition {C : Type} [DecidableEq C] (c : Currency) (events : List (ConstructedEvent ℚ))
    (l : SimulationLedger ℚ) (h : SimulationLedger.replay c (events.map Subtype.val) = .ok l) (i : InstrumentId)
    (cutoff : Timestamp) (hcut : ∀ e ∈ l.events, e.occurredAt.value ≤ cutoff.value) (runs : Finset String)
    (hruns : ∀ e ∈ l.events, e.researchRunId.value ∈ runs) :
    ∑ run ∈ runs, netHolding l.events run i = holding l.state i ∧
    (∀ run, holdingAt l run i cutoff =
      if netHolding l.events run i < 0 then
        .error (portfolioError "authoritative ledger contains unsupported short holding")
      else .ok (netHolding l.events run i)) ∧
    ∀ held : String → ℚ, (∀ run ∈ runs, holdingAt l run i cutoff = .ok (held run)) →
      ∑ run ∈ runs, held run = holding l.state i ∧
      ∀ (env : PortfolioEnvironment C) (book : CommitmentBook C) (oms : SimulatedOms ℚ) (issues : List String),
        currentReservationIssues env book oms l cutoff = .ok issues →
        (∀ r ∈ activeSells book, r.instrumentId = i →
          "INFEASIBLE_RESERVATION:" ++ r.researchRunId ++ ":" ++ r.instrumentId.toString ∉ issues) →
        reservedFor (fun r => r.instrumentId) i (activeSells book) ≤ holding l.state i := by
  have hmade : ∀ e ∈ l.events, e.postInit = .ok () := by
    intro e he
    obtain ⟨x, -, rfl⟩ := List.mem_map.mp ((Ledger.replay_events h e).mp he)
    exact x.property
  have heq := fun run => holdingAt_eq hmade hcut run i
  refine ⟨sum_netHolding h hruns i, heq, fun held hheld => ?_⟩
  have hnet : ∀ run ∈ runs, held run = netHolding l.events run i ∧ 0 ≤ netHolding l.events run i := by
    intro run hrun
    have hv := hheld run hrun
    rw [heq] at hv
    split at hv
    · cases hv
    · rename_i hneg
      exact ⟨(Except.ok.inj hv).symm, not_lt.mp hneg⟩
  refine ⟨(Finset.sum_congr rfl fun run hrun => (hnet run hrun).1).trans (sum_netHolding h hruns i), ?_⟩
  intro env book oms issues hissues hfeasible
  -- The runs of the sells and of the events: a run without events holds nothing.
  let every := runs ∪ ((activeSells book).map fun r => r.researchRunId).toFinset
  have hevery : ∀ e ∈ l.events, e.researchRunId.value ∈ every :=
    fun e he => Finset.mem_union_left _ (hruns e he)
  have hpos : ∀ run, 0 ≤ netHolding l.events run i := by
    intro run
    by_cases hrun : run ∈ runs
    · exact (hnet run hrun).2
    · have hno : ∀ e ∈ l.events, e.researchRunId.value ≠ run := fun e he he' => hrun (he' ▸ hruns e he)
      exact (netHolding_of_no_events hno i).ge
  have hsells : ∀ r ∈ activeSells book, r.researchRunId ∈ every := fun r hr =>
    Finset.mem_union_right _ (List.mem_toFinset.mpr
      (List.mem_map_of_mem (f := fun r : CommitmentRecord C => r.researchRunId) hr))
  rw [← sum_netHolding h hevery i, ← sum_reservedFor i hsells]
  refine Finset.sum_le_sum fun run _ => ?_
  by_cases hsell : ∃ r ∈ activeSells book, r.researchRunId = run ∧ r.instrumentId = i
  · obtain ⟨r, hr, rfl, rfl⟩ := hsell
    obtain ⟨v, hv, hle⟩ := reserved_le_of_no_issue hissues hr (hfeasible r hr rfl)
    rw [heq, if_neg (not_lt.mpr (hpos _))] at hv
    exact hle.trans (Except.ok.inj hv).ge
  · rw [reservedFor_eq_zero fun r hr e => hsell ⟨r, hr, congrArg Prod.fst e, congrArg Prod.snd e⟩]
    exact hpos run

/-! ### A sample book -/

namespace Sample

open Ledger.Sample Reconcile.Sample

/-- A second run. -/
def other : ResearchRunId := ⟨"atis:research:run:v1:sha256:" ++ String.ofList (List.replicate 64 '4')⟩

def dollarOrder : SimulatedOrder ℚ := { order with currency := usd }
def dollarFill : SimulatedFill ℚ := { fill with currency := usd }

def oms : SimulatedOms ℚ :=
  { executedOms with orders := [⟨dollarOrder, .partiallyFilled, 4, []⟩], fills := [dollarFill] }

/-- Opening cash, the fill of the first run, three bought by the second at 20, a two-for-one
split, and two sold by the first at 11. -/
def records : List (FinancialEvent ℚ) :=
  let base (n : Nat) (kind : FinancialEventKind) : FinancialEvent ℚ :=
    { eventId := ⟨LedgerEventId.lead ++ "e" ++ toString n⟩, sequence := n, occurredAt := eleven,
      kind := kind, researchRunId := run, evidenceDigest := evidence, instrumentId := some instrument }
  [{ opening with currency := some usd },
   { base 2 .trade with
      eventId := ⟨fillEventLead ++ dollarFill.fillId.value.hex⟩, currency := some usd, quantity := some 4,
      unitAmount := some dollarFill.unitAmount },
   { base 3 .trade with researchRunId := other, currency := some usd, quantity := some 3, unitAmount := some 20 },
   { base 4 .split with quantity := some 2, corporateActionVersionId := some action },
   { base 5 .trade with currency := some usd, quantity := some (-2), unitAmount := some 11 }]

theorem records_constructed : ∀ e ∈ records, e.postInit = .ok () := by decide +kernel

def events : List (ConstructedEvent ℚ) := records.attachWith _ records_constructed

def env : PortfolioEnvironment Unit :=
  { robustness := fun _ _ _ => "robustness", admission := fun _ _ _ _ => "admission",
    allocation := fun _ _ _ _ _ => "allocation", record := fun _ _ => "record", book := fun _ _ _ _ _ => "book",
    schedule := fun _ _ => "schedule", noCalendarInputs := fun _ => false,
    sessions := fun _ t => .ok (t, "2026-01-30", "2026-02-02") }

def context (strategyId : String) (researchRunId : ResearchRunId) (truth : PerformanceTruth ℚ) : AssuranceContext :=
  { strategy := ⟨strategyId, researchRunId.value, "2026-01-05", "output", researchAuthority⟩, planDigest := "plan",
    experimentId := "experiment", datasetId := "dataset", datasetVersion := "1", qualificationId := "qualification",
    admissionEventId := "admitted", trialIds := ["trial"], performance := truth, contextDigest := "context" }

def costModel : ExecutionCostModel ℚ :=
  { modelId := fill.costModelId, scenario := .ec1, diagnosticOnly := false,
    rates := CostComponent.all.map fun c => ⟨c, 25, .modelled, evidence⟩ }

/-- A sale of five by the first run, decided at noon. -/
def sale (ledger : SimulationLedger ℚ) (result : ReconciliationResult ℚ) : CommitmentRequest Unit :=
  { strategyId := "momentum",
    order := { dollarOrder with
      orderId := ⟨.ofInt 0x22222222222242228222222222222222⟩, side := .sell, quantity := 5, decisionTime := noon,
      releaseAt := clock 13 (by decide) },
    holdingsLedger := some ledger, holdingsAsOf := some noon, holdingsOms := some oms,
    holdingsReconciliation := some result, executionCostModel := some costModel, schedule := none }

/-- Two strategies are admitted, and the first reserves its sale. -/
def reserve (ledger : SimulationLedger ℚ) : Outcome (CommitmentBook Unit) := do
  let result ← reconcile oms ledger
  let truth ← requirePerformance result
  let first ← PortfolioAdmission.fromAssurance env.toEvidenceDigests (context "momentum" run truth)
    .hypotheticalParticipation none []
  let second ← PortfolioAdmission.fromAssurance env.toEvidenceDigests (context "trend" other truth)
    .hypotheticalParticipation none []
  let allocation ← allocateEqualBudgets env.toEvidenceDigests [first, second] 1000 usd true
  let book ← createCommitmentBook env allocation [first, second]
  reserveCommitments env book [sale ledger result]

def issues : Outcome (SimulationLedger ℚ × CommitmentBook Unit × List String) := do
  let ledger ← SimulationLedger.replay usd (events.map Subtype.val)
  let book ← reserve ledger
  let found ← currentReservationIssues env book oms ledger noon
  return (ledger, book, found)

/-- The fill of the first run, and one of its shares sold by the second. -/
def shortSale : FinancialEvent ℚ :=
  { eventId := ⟨LedgerEventId.lead ++ "e3"⟩, sequence := 3, occurredAt := eleven, kind := .trade,
    researchRunId := other, evidenceDigest := evidence, currency := some usd, instrumentId := some instrument,
    quantity := some (-1), unitAmount := some 21 }

theorem shortSale_constructed : shortSale.postInit = .ok () := by decide +kernel

def shortEvents : List (ConstructedEvent ℚ) := events.take 2 ++ [⟨shortSale, shortSale_constructed⟩]

end Sample

theorem run_holdings_partition_sample : ∃ l book issues,
    SimulationLedger.replay usd (Sample.events.map Subtype.val) = .ok l ∧ Sample.reserve l = .ok book ∧
    currentReservationIssues Sample.env book Sample.oms l Ledger.Sample.noon = .ok issues ∧
    holding l.state Ledger.Sample.instrument = 12 ∧
    reservedFor (fun r => r.instrumentId) Ledger.Sample.instrument (activeSells book) = 5 ∧
    reservedFor (fun r => r.instrumentId) Ledger.Sample.instrument (activeSells book) ≤
      holding l.state Ledger.Sample.instrument := by
  have hok : (Sample.issues.toOption.map fun x =>
      (x.2.2, holding x.1.state Ledger.Sample.instrument,
        reservedFor (fun r => r.instrumentId) Ledger.Sample.instrument (activeSells x.2.1))) = some ([], 12, 5) := by
    decide +kernel
  obtain ⟨⟨l, book, issues⟩, hx, hv⟩ := Option.map_eq_some_iff.mp hok
  have h := ok_of_toOption hx
  simp only [Sample.issues, bind_eq_ok, pure_eq_ok, Prod.mk.injEq] at h hv
  obtain ⟨l', hl, book', hbook, issues', hissues, rfl, rfl, rfl⟩ := h
  have hevents : l'.events = Sample.events.map Subtype.val ∧
      ∀ r ∈ [Ledger.Sample.run.value, Sample.other.value],
        holdingAt l' r Ledger.Sample.instrument Ledger.Sample.noon = .ok 6 := by
    have hlook : ((SimulationLedger.replay usd (Sample.events.map Subtype.val)).toOption.map fun l =>
        decide (l.events = Sample.events.map Subtype.val) &&
          decide (∀ r ∈ [Ledger.Sample.run.value, Sample.other.value],
            (holdingAt l r Ledger.Sample.instrument Ledger.Sample.noon).toOption = some 6)) = some true := by
      decide +kernel
    rw [hl, show (Except.ok l' : Outcome (SimulationLedger ℚ)).toOption = some l' from rfl] at hlook
    simp only [Option.map_some, Option.some.injEq, Bool.and_eq_true, decide_eq_true_eq] at hlook
    exact ⟨hlook.1, fun r hr => ok_of_toOption (hlook.2 r hr)⟩
  refine ⟨l', book', issues', hl, hbook, hissues, hv.2.1, hv.2.2, ?_⟩
  refine ((run_holdings_partition usd Sample.events l' hl Ledger.Sample.instrument Ledger.Sample.noon ?_
    [Ledger.Sample.run.value, Sample.other.value].toFinset ?_).2.2 (fun _ => 6) fun r hr =>
      hevents.2 r (List.mem_toFinset.mp hr)).2 Sample.env book' Sample.oms issues' hissues fun r _ _ => ?_
  · rw [hevents.1]
    decide +kernel
  · rw [hevents.1]
    decide +kernel
  · rw [hv.1]
    exact List.not_mem_nil

/-- The second run sells what the first bought: the ledger accepts it, `_holding_at` does
not return for the second run, and the first run holds more than the position. -/
theorem short_run_raises : ∃ l,
    SimulationLedger.replay usd (Sample.shortEvents.map Subtype.val) = .ok l ∧
    (∀ e ∈ l.events, e.occurredAt.value ≤ Ledger.Sample.noon.value) ∧
    holding l.state Ledger.Sample.instrument = 3 ∧
    holdingAt l Ledger.Sample.run.value Ledger.Sample.instrument Ledger.Sample.noon = .ok 4 ∧
    ¬ ∃ held : String → ℚ, (∀ r ∈ [Ledger.Sample.run.value, Sample.other.value],
        holdingAt l r Ledger.Sample.instrument Ledger.Sample.noon = .ok (held r)) ∧
      ([Ledger.Sample.run.value, Sample.other.value].map held).sum = holding l.state Ledger.Sample.instrument := by
  have hok : ((SimulationLedger.replay usd (Sample.shortEvents.map Subtype.val)).toOption.map fun l =>
      (decide (∀ e ∈ l.events, e.occurredAt.value ≤ Ledger.Sample.noon.value),
        holding l.state Ledger.Sample.instrument,
        (holdingAt l Ledger.Sample.run.value Ledger.Sample.instrument Ledger.Sample.noon).toOption,
        (holdingAt l Sample.other.value Ledger.Sample.instrument Ledger.Sample.noon).toOption)) =
      some (true, 3, some 4, none) := by decide +kernel
  obtain ⟨l, hl, hv⟩ := Option.map_eq_some_iff.mp hok
  simp only [Prod.mk.injEq, decide_eq_true_eq] at hv
  obtain ⟨htimes, hposition, hfirst, hsecond⟩ := hv
  refine ⟨l, ok_of_toOption hl, htimes, hposition, ok_of_toOption hfirst, ?_⟩
  rintro ⟨held, hheld, -⟩
  rw [hheld Sample.other.value (by simp)] at hsecond
  cases hsecond

end ATB.Proof.Portfolio
