import AutomatedTradingBot.Proof.Reconcile.Sound

/-!
# Every honest run reconciles

A `Desk` operates an OMS and a ledger side by side: it makes calls to the OMS,
posts the fills that these create, and records other events in the ledger. What
one action keeps is `DeskOk`: the invariants of the OMS and of the ledger, and
that the posted fills are the marked events. A desk with nothing left to post is
`Consistent` (`DeskOk.consistent`), so it reconciles.
-/

namespace ATB.Proof.Reconcile

open Execution Ledger

/-- An OMS, a ledger, and the fills that were not posted yet. -/
structure Desk where
  oms : SimulatedOms ℚ
  ledger : SimulationLedger ℚ
  pending : List (SimulatedFill ℚ)

/-- An event that a desk records besides its fills. -/
structure SideEvent (e : FinancialEvent ℚ) : Prop where
  constructed : e.postInit = .ok ()
  kind : e.kind = .mark ∨ e.kind = .cashDividend ∨ e.kind = .split ∨ e.kind = .cashAdjustment
  unmarked : ¬ MarkedAsFill e

inductive Action where
  | operate (call : OmsCall ℚ)
  | post (place : Nat)
  | record (event : { e : FinancialEvent ℚ // SideEvent e })

namespace Desk

/-- One action; a fill leaves `pending` when it is posted, so it is posted once. -/
def act (identify : FillBody ℚ → Outcome Uuid) (d : Desk) : Action → Outcome Desk
  | .operate call => do
    let oms ← call.perform identify d.oms
    return ⟨oms, d.ledger, d.pending ++ oms.fills.drop d.oms.fills.length⟩
  | .post place => do
    let fill ← orRaise ⟨.keyError, "nothing to post"⟩ d.pending[place]?
    let ledger ← postFillToLedger d.ledger fill
    return ⟨d.oms, ledger, d.pending.eraseIdx place⟩
  | .record event => do
    let ledger ← d.ledger.apply event
    return ⟨d.oms, ledger, d.pending⟩

/-- A run from an empty OMS and a ledger with opening cash. -/
def run (identify : FillBody ℚ → Outcome Uuid) (currency : Currency) (opening : FinancialEvent ℚ)
    (actions : List Action) : Outcome Desk := do
  let ledger ← SimulationLedger.replay currency [opening]
  actions.foldlM (act identify) ⟨{}, ledger, []⟩

end Desk

/-! ## The ledger of a desk -/

/-- A ledger that its own history rebuilds. -/
def Rebuilt (l : SimulationLedger ℚ) : Prop := SimulationLedger.replay l.currency l.events = .ok l

theorem Rebuilt.apply {l l' : SimulationLedger ℚ} {e : FinancialEvent ℚ} (hl : Rebuilt l)
    (h : l.apply e = .ok l') : Rebuilt l' := by
  rcases apply_cases h with ⟨rfl, -⟩ | ⟨-, -, -, -, s', -, rfl⟩
  · exact hl
  · rw [Rebuilt, SimulationLedger.replay, List.foldlM_append]
    exact (bind_of_eq_ok hl _).trans ((bind_of_eq_ok h _).trans rfl)

/-- What a ledger keeps, whatever is applied to it. -/
structure LedgerOk (l : SimulationLedger ℚ) : Prop where
  accounts : Accounts l
  rebuilt : Rebuilt l

theorem LedgerOk.apply {l l' : SimulationLedger ℚ} {e : FinancialEvent ℚ} (hl : LedgerOk l)
    (he : e.postInit = .ok ()) (h : l.apply e = .ok l') : LedgerOk l' :=
  ⟨hl.accounts.apply he h, hl.rebuilt.apply h⟩

/-- The event that posting a fill applies. -/
theorem postFillToLedger_cases {l l' : SimulationLedger ℚ} {f : SimulatedFill ℚ}
    (h : postFillToLedger l f = .ok l') : ∃ e, Posts f e ∧ e.postInit = .ok () ∧ l.apply e = .ok l' := by
  simp only [postFillToLedger, bind_eq_ok, raiseIf_eq_ok, exists_const] at h
  obtain ⟨-, -, -, eventId, hid, _, hinit, h⟩ := h
  refine ⟨_, ?_, hinit, h⟩
  refine ⟨?_, rfl, rfl, rfl, rfl, Datetime.le_refl _, rfl, rfl, rfl⟩
  simp only [LedgerEventId.make, raiseIf_bind_eq_ok, pure_eq_ok] at hid
  rw [← hid.2, SimulatedFill.eventKey]

theorem markedAsFill_of_posts {f : SimulatedFill ℚ} {e : FinancialEvent ℚ} (h : Posts f e) : MarkedAsFill e := by
  rw [MarkedAsFill, h.eventId]
  exact Text.startsWith_append _ _

/-- What one action keeps. -/
structure DeskOk (d : Desk) : Prop where
  oms : Invariant d.oms
  ledger : LedgerOk d.ledger
  posted : ∃ posted, (posted ++ d.pending).Perm d.oms.fills ∧ List.Forall₂ Posts posted (fillEvents d.ledger)

theorem Forall₂_posts_mem {fs : List (SimulatedFill ℚ)} {es : List (FinancialEvent ℚ)}
    (h : List.Forall₂ Posts fs es) :
    (∀ f ∈ fs, ∃ e ∈ es, Posts f e) ∧ ∀ e ∈ es, ∃ f ∈ fs, Posts f e := by
  induction h with
  | nil => exact ⟨fun _ h => absurd h List.not_mem_nil, fun _ h => absurd h List.not_mem_nil⟩
  | cons hp _ ih =>
    constructor
    · intro f hf
      rcases List.mem_cons.mp hf with rfl | hf
      · exact ⟨_, List.mem_cons_self .., hp⟩
      · obtain ⟨e, he, hp⟩ := ih.1 f hf
        exact ⟨e, List.mem_cons_of_mem _ he, hp⟩
    · intro e he
      rcases List.mem_cons.mp he with rfl | he
      · exact ⟨_, List.mem_cons_self .., hp⟩
      · obtain ⟨f, hf, hp⟩ := ih.2 e he
        exact ⟨f, List.mem_cons_of_mem _ hf, hp⟩

/-- An unmarked event changes nothing that is audited. -/
theorem fillEvents_apply_unmarked {l l' : SimulationLedger ℚ} {e : FinancialEvent ℚ} (he : ¬ MarkedAsFill e)
    (h : l.apply e = .ok l') : fillEvents l' = fillEvents l := by
  rcases apply_cases h with ⟨rfl, -⟩ | ⟨-, -, -, -, s', -, rfl⟩
  · rfl
  · rw [fillEvents, fillEvents, List.filter_append, List.filter_cons_of_neg (by exact he), List.filter_nil, List.append_nil]

/-- A fill that no audited event posts yet is appended to them. -/
theorem fillEvents_apply_posting {l l' : SimulationLedger ℚ} {f : SimulatedFill ℚ} {e : FinancialEvent ℚ}
    (hp : Posts f e) (hnew : ∀ x ∈ fillEvents l, x.eventId.value ≠ f.eventKey) (h : l.apply e = .ok l') :
    fillEvents l' = fillEvents l ++ [e] := by
  have hm := markedAsFill_of_posts hp
  rcases apply_cases h with ⟨rfl, he⟩ | ⟨-, -, -, -, s', -, rfl⟩
  · exact absurd hp.eventId (hnew e (mem_fillEvents.mpr ⟨he, hm⟩))
  · rw [fillEvents, fillEvents, List.filter_append, List.filter_cons_of_pos (by exact hm), List.filter_nil]

/-- What one accepted action keeps. -/
theorem DeskOk.act {identify : FillBody ℚ → Outcome Uuid} {d d' : Desk} {a : Action} (hd : DeskOk d)
    (h : d.act identify a = .ok d') : DeskOk d' := by
  obtain ⟨posted, hperm, hposts⟩ := hd.posted
  cases a with
  | operate call =>
    simp only [Desk.act, bind_eq_ok, pure_eq_ok] at h
    obtain ⟨oms, ho, rfl⟩ := h
    have heffect := perform_effect ho
    obtain ⟨new, hnew⟩ := heffect.extends.fills
    refine ⟨hd.oms.step heffect, hd.ledger, posted, ?_, hposts⟩
    rw [← hnew, List.drop_left, ← List.append_assoc]
    exact hperm.append_right new
  | post place =>
    simp only [Desk.act, bind_eq_ok, orRaise_eq_ok, pure_eq_ok] at h
    obtain ⟨f, hf, ledger, hl, rfl⟩ := h
    obtain ⟨e, hp, hinit, hl⟩ := postFillToLedger_cases hl
    have hpend : d.pending.Perm (f :: d.pending.eraseIdx place) := by
      obtain ⟨hlt, hget⟩ := List.getElem?_eq_some_iff.mp hf
      exact hget ▸ (List.getElem_cons_eraseIdx_perm hlt).symm
    have hperm' : (posted ++ [f] ++ d.pending.eraseIdx place).Perm d.oms.fills := by
      rw [List.append_assoc]
      exact ((List.Perm.refl posted).append hpend.symm).trans hperm
    have hnew : ∀ x ∈ fillEvents d.ledger, x.eventId.value ≠ f.eventKey := by
      intro x hx hkey
      obtain ⟨g, hg, hgx⟩ := (Forall₂_posts_mem hposts).2 x hx
      have hsame : g.fillId = f.fillId := eventKey_injective (hgx.eventId.symm.trans hkey)
      have hn := (hperm'.map SimulatedFill.fillId).nodup_iff.mpr hd.oms.fillIds
      simp only [List.map_append, List.nodup_append] at hn
      exact hn.1.2.2 _ (List.mem_map_of_mem hg) _ (by simp) hsame
    refine ⟨hd.oms, hd.ledger.apply hinit hl, posted ++ [f], hperm', ?_⟩
    rw [fillEvents_apply_posting hp hnew hl]
    exact List.rel_append hposts (.cons hp .nil)
  | record event =>
    simp only [Desk.act, bind_eq_ok, pure_eq_ok] at h
    obtain ⟨ledger, hl, rfl⟩ := h
    refine ⟨hd.oms, hd.ledger.apply event.2.constructed hl, posted, hperm, ?_⟩
    rwa [fillEvents_apply_unmarked event.2.unmarked hl]

/-! ## A desk with nothing to post -/

theorem order_valid {o : SimulatedOrder ℚ} (h : o.Constructed) : o.valid = true := by
  have hp := h.postInit
  simp only [SimulatedOrder.postInit, requirePositive, bind_eq_ok, raiseIf_eq_ok, exists_const, not_le] at hp
  simp [SimulatedOrder.valid, h.instrumentId, h.currency, h.researchRunId, h.evidenceDigest, hp.1, hp.2]

theorem record_valid {fills : List (SimulatedFill ℚ)} {attempts : List (ExecutionAttempt ℚ)} {r : OrderRecord ℚ}
    (h : RecordOk fills attempts r) : r.valid = true := by
  simp [OrderRecord.valid, order_valid h.order, h.nonneg, h.quantities.1]

theorem fill_valid {o : SimulatedOrder ℚ} {f : SimulatedFill ℚ} (ho : o.Constructed) (h : Matches o f) :
    f.valid = true := by
  obtain ⟨hq, hp, hid, hc⟩ := validatePayload_eq_ok.mp h.payload
  simp [SimulatedFill.valid, h.instrumentId, h.currency, h.researchRunId, ho.instrumentId, ho.currency,
    ho.researchRunId, h.evidence, hq, hp, hid, hc]

theorem statusFits {r : OrderRecord ℚ} (h : StatusOk r) (hq : 0 < r.order.quantity) : StatusFits r := by
  unfold StatusFits
  cases hr : r.status with
  | accepted | rejected | unfilled =>
    simp only [StatusOk, hr] at h
    simp [h]
  | cancelled =>
    simp only [StatusOk, hr] at h
    simp [h]
  | partiallyFilled =>
    simp only [StatusOk, hr] at h
    simp [h, h.2.ne, statusAt]
  | fullyFilled =>
    simp only [StatusOk, hr] at h
    simp [h, hq, statusAt]

/-- A desk that has posted every fill is consistent. -/
theorem DeskOk.consistent {d : Desk} (hd : DeskOk d) (hp : d.pending = []) : Consistent d.oms d.ledger := by
  obtain ⟨posted, hperm, hposts⟩ := hd.posted
  rw [hp, List.append_nil] at hperm
  have hbij := Forall₂_posts_mem hposts
  have hrec (o : SimulatedOrder ℚ) (ho : o ∈ ordersOf d.oms) :
      ∃ r ∈ d.oms.orders, r.order = o := List.mem_map.mp ho
  refine
    { replayed := ⟨d.ledger, hd.ledger.rebuilt, rfl⟩
      validRecords := fun r hr => record_valid (hd.oms.records r hr)
      validFills := fun f hf => ?_
      orderIds := by simpa [ordersOf, Function.comp_def] using hd.oms.orderIds
      fillIds := hd.oms.fillIds
      postings := (List.filter_sublist.map _).nodup hd.ledger.accounts.history.ids
      attempts := fun a ha => ?_
      histories := fun r hr => ⟨_, (hd.oms.records r hr).history⟩
      carried := fun f hf => ?_
      executes := fun f hf => ?_
      posted := fun f hf => hbij.1 f (hperm.mem_iff.mpr hf)
      explained := fun e he => ?_
      totals := fun r hr => (hd.oms.records r hr).filled.symm
      statuses := fun r hr => statusFits (hd.oms.records r hr).status (quantity_pos (hd.oms.records r hr).order) }
  · obtain ⟨o, ho, hm⟩ := hd.oms.fills f hf
    obtain ⟨r, hr, rfl⟩ := hrec o ho
    exact fill_valid (hd.oms.records r hr).order hm
  · obtain ⟨hok, o, ho, hi⟩ := hd.oms.attempts a ha
    obtain ⟨r, hr, rfl⟩ := hrec o ho
    exact ⟨hok, r, hr, hi⟩
  · rw [hd.oms.attempted]
    exact List.count_eq_one_of_mem hd.oms.fillIds (List.mem_map_of_mem hf)
  · obtain ⟨o, ho, hm⟩ := hd.oms.fills f hf
    obtain ⟨r, hr, rfl⟩ := hrec o ho
    exact ⟨r, hr, hm.orderId, hm.instrumentId, hm.side, hm.currency, hm.researchRunId, hm.after⟩
  · obtain ⟨f, hf, hpf⟩ := hbij.2 e he
    exact ⟨f, hperm.mem_iff.mp hf, hpf.eventId⟩

/-! ## Runs -/

theorem DeskOk.start {c : Currency} {opening : FinancialEvent ℚ} {l : SimulationLedger ℚ}
    (hinit : opening.postInit = .ok ()) (hm : ¬ MarkedAsFill opening)
    (h : SimulationLedger.replay c [opening] = .ok l) : DeskOk ⟨{}, l, []⟩ := by
  have h : (SimulationLedger.empty c).apply opening = .ok l := by
    simpa [SimulationLedger.replay] using h
  refine ⟨.empty, LedgerOk.apply ⟨.empty c, rfl⟩ hinit h, [], .nil, ?_⟩
  rw [fillEvents_apply_unmarked hm h]
  exact .nil

/-- Every run from an empty OMS and opening cash that posts each of its fills once, and
records only other events under other ids, reconciles with a performance that
balances. -/
theorem run_reconciles (identify : FillBody ℚ → Outcome Uuid) (c : Currency) (opening : FinancialEvent ℚ)
    (actions : List Action) (d : Desk) (hinit : opening.postInit = .ok ()) (hm : ¬ MarkedAsFill opening)
    (h : Desk.run identify c opening actions = .ok d) (hp : d.pending = []) :
    ∃ truth, reconcile d.oms d.ledger =
        .ok { state := .reconciled, discrepancies := [], performance := some truth } ∧
      truth.netPnl = truth.realisedPnl + truth.unrealisedPnl ∧
      truth.grossPnl - truth.executionCostDrag.total = truth.netPnl := by
  simp only [Desk.run, bind_eq_ok] at h
  obtain ⟨l, hl, h⟩ := h
  have hd : DeskOk d :=
    foldlM_ok_induction DeskOk (fun _ _ _ _ hact hd => hd.act hact) h (DeskOk.start hinit hm hl)
  have hc := hd.consistent hp
  obtain ⟨truth, ht, hr⟩ := consistent_reconcile hc
  obtain ⟨truth', ht', hnet, hgross, hreal, hunreal⟩ := consistent_performance hc
  rw [ht] at ht'
  cases ht'
  refine ⟨truth, hr, ?_, hgross⟩
  rw [hnet, hreal, hunreal, hd.ledger.accounts.balanced.portfolioValue]
  ring

namespace Sample

open Ledger.Sample

def marketState : ExecutionSnapshot ℚ :=
  { executionAt := eleven, price := some 20, priceAvailableAt := some eleven, securityState := .available,
    liquidityState := .available, availableQuantity := some 4, currency := some gbp,
    evidenceDigest := some evidence }

def modelledCosts : ExecutionCostModel ℚ :=
  { modelId := fill.costModelId, scenario := .ec1, diagnosticOnly := false,
    rates := CostComponent.all.map fun c => ⟨c, 25, .modelled, evidence⟩ }

/-- The identity that the body of the sample fill hashes to. -/
def identify : FillBody ℚ → Outcome Uuid := fun _ => .ok fill.fillId.value

def markEvent : FinancialEvent ℚ :=
  { eventId := ⟨LedgerEventId.lead ++ "mark-1"⟩, sequence := 3, occurredAt := noon, kind := .mark,
    researchRunId := run, evidenceDigest := evidence, currency := some gbp, instrumentId := some instrument,
    unitAmount := some 21 }

/-- What the constructors of the sample check. -/
theorem constructed : marketState.Constructed ∧ modelledCosts.Constructed ∧ SideEvent markEvent ∧ order.Constructed :=
  ⟨⟨by decide +kernel, by decide +kernel, by decide +kernel⟩, ⟨by decide +kernel, by decide +kernel, by decide +kernel⟩,
    ⟨by decide +kernel, .inl rfl, by unfold MarkedAsFill; decide +kernel⟩,
    ⟨by decide, by decide, by decide +kernel, by decide +kernel, by decide +kernel⟩⟩

def snapshot : { s : ExecutionSnapshot ℚ // s.Constructed } := ⟨marketState, constructed.1⟩

def costModel : { m : ExecutionCostModel ℚ // m.Constructed } := ⟨modelledCosts, constructed.2.1⟩

def mark : { e : FinancialEvent ℚ // SideEvent e } := ⟨markEvent, constructed.2.2.1⟩

/-- An order is submitted and partly executed, the fill is posted, and the rest is cancelled. -/
def actions : List Action :=
  [.operate (.submit ⟨order, constructed.2.2.2⟩),
   .operate (.execute order.orderId 6 snapshot costModel), .post 0, .record mark,
   .operate (.cancel order.orderId)]

end Sample

theorem run_reconciles_sample : ∃ d,
    Desk.run Sample.identify Ledger.Sample.gbp Sample.opening Sample.actions = .ok d ∧ d.oms.fills.length = 1 ∧
    ∃ truth, reconcile d.oms d.ledger =
        .ok { state := .reconciled, discrepancies := [], performance := some truth } ∧
      truth.netPnl = truth.realisedPnl + truth.unrealisedPnl ∧
      truth.grossPnl - truth.executionCostDrag.total = truth.netPnl := by
  have hok : ((Desk.run Sample.identify Ledger.Sample.gbp Sample.opening Sample.actions).toOption.map
      fun d => (d.oms.fills.length, d.pending)) = some (1, []) := by decide +kernel
  obtain ⟨d, hd, hv⟩ := Option.map_eq_some_iff.mp hok
  have h := ok_of_toOption hd
  rw [Prod.mk.injEq] at hv
  refine ⟨d, h, hv.1, run_reconciles _ _ _ _ d (by decide +kernel) ?_ h hv.2⟩
  unfold MarkedAsFill
  decide +kernel

end ATB.Proof.Reconcile
