import AutomatedTradingBot.Proof.Ledger
import AutomatedTradingBot.Source.Execution

/-!
# Runs of the simulated OMS

`Effect` says everything that an accepted call can do to the three collections,
and `perform_effect` that the five operations do nothing else. The rest is about
effects: `Invariant` is what one effect keeps (`Invariant.step`), and so what a
run keeps, and `Extends` is how the collections grow.
-/

namespace ATB.Proof.Execution

open Ledger (sumBy_eq sumBy_append)

section Effects

variable {D : Type} [Zero D] [Add D] [Sub D] [BEq D] [LE D] [LT D] [DecidableLE D] [DecidableLT D]

/-- What is checked before a fill of `r` is retained. -/
structure Fits (r : OrderRecord D) (fill : SimulatedFill D) (requested : D) : Prop where
  payload : fill.validatePayload = .ok ()
  evidence : fill.executionEvidence.canonical
  orderId : fill.orderId = r.order.orderId
  instrumentId : fill.instrumentId = r.order.instrumentId
  side : fill.side = r.order.side
  currency : fill.currency = r.order.currency
  researchRunId : fill.researchRunId = r.order.researchRunId
  after : r.order.releaseAt.value < fill.executionAt.value
  total : ¬ r.order.quantity < r.filledQuantity + fill.quantity
  positive : ¬ requested ≤ 0
  covers : ¬ requested < fill.quantity
  remaining : ¬ r.remainingQuantity < requested

/-- The status of an order after a fill. -/
def statusAt (quantity cumulative : D) : OrderStatus :=
  if cumulative == quantity then .fullyFilled else .partiallyFilled

/-- What an accepted call does. -/
inductive Effect (oms : SimulatedOms D) : SimulatedOms D → Prop
  | same : Effect oms oms
  | admitted (o : SimulatedOrder D) (status : OrderStatus) (reasons : List String) (valid : o.Constructed)
      (fresh : ∀ r ∈ oms.orders, r.order.orderId ≠ o.orderId)
      (hstatus : status = .accepted ∨ status = .rejected) :
      Effect oms { oms with orders := oms.orders ++ [⟨o, status, 0, reasons⟩] }
  | cancelled (l₁ l₂ : List (OrderRecord D)) (r : OrderRecord D) (place : oms.orders = l₁ ++ r :: l₂)
      (active : r.status.terminal = false) :
      Effect oms { oms with orders := l₁ ++ { r with status := .cancelled } :: l₂ }
  | unfilled (l₁ l₂ : List (OrderRecord D)) (r : OrderRecord D) (requested : D) (reasons : List String)
      (place : oms.orders = l₁ ++ r :: l₂) (active : r.status.terminal = false)
      (empty : (r.filledQuantity == 0) = true)
      (hrequested : requested = r.remainingQuantity ∨ ¬ requested ≤ 0 ∧ ¬ r.remainingQuantity < requested)
      (explicit : reasons ≠ [] ∧ ∀ reason ∈ reasons, Text.nonblank reason) :
      Effect oms { oms with
        orders := l₁ ++ { r with status := .unfilled, reasons := reasons } :: l₂
        attempts := oms.attempts ++ [⟨r.order.orderId, requested, .unfilled, reasons, none⟩] }
  | missed (r : OrderRecord D) (requested : D) (reasons : List String)
      (mem : r ∈ oms.orders) (active : r.status.terminal = false)
      (hrequested : ¬ requested ≤ 0 ∧ ¬ r.remainingQuantity < requested)
      (explicit : reasons ≠ [] ∧ ∀ reason ∈ reasons, Text.nonblank reason) :
      Effect oms { oms with
        attempts := oms.attempts ++ [⟨r.order.orderId, requested, .unfilled, reasons, none⟩] }
  | filled (l₁ l₂ : List (OrderRecord D)) (r : OrderRecord D) (fill : SimulatedFill D) (requested : D)
      (place : oms.orders = l₁ ++ r :: l₂) (active : r.status.terminal = false)
      (fresh : ∀ f ∈ oms.fills, f.fillId ≠ fill.fillId) (fits : Fits r fill requested) :
      Effect oms { oms with
        orders := l₁ ++ { r with
          status := statusAt r.order.quantity (r.filledQuantity + fill.quantity)
          filledQuantity := r.filledQuantity + fill.quantity
          reasons := [] } :: l₂
        fills := oms.fills ++ [fill]
        attempts := oms.attempts ++ [⟨fill.orderId, requested,
          statusAt r.order.quantity (r.filledQuantity + fill.quantity), [], some fill.fillId⟩] }

end Effects

/-! ## The operations -/

section Operations

variable {D : Type}

theorem active_eq_ok {oms : SimulatedOms D} {i : OrderId} {r : OrderRecord D} :
    oms.active i = .ok r ↔ oms.order i = some r ∧ r.status.terminal = false := by
  simp only [SimulatedOms.active, bind_eq_ok, orRaise_eq_ok, raiseIf_eq_ok, exists_const, pure_eq_ok,
    Bool.not_eq_true]
  constructor
  · rintro ⟨record, h, ha, rfl⟩
    exact ⟨h, ha⟩
  · rintro ⟨h, ha⟩
    exact ⟨r, h, ha, rfl⟩

/-- Where the record that `order` finds stands, and what replacing it does. -/
theorem order_eq_some {oms : SimulatedOms D} {i : OrderId} {r : OrderRecord D} (h : oms.order i = some r) :
    r.order.orderId = i ∧ ∃ l₁ l₂, oms.orders = l₁ ++ r :: l₂ ∧
      ∀ new, oms.replaceOrder r new = { oms with orders := l₁ ++ new :: l₂ } := by
  obtain ⟨hr, l₁, l₂, hl, hfirst⟩ := List.find?_eq_some_iff_append.mp h
  have hi : r.order.orderId = i := by simpa using hr
  refine ⟨hi, l₁, l₂, hl, fun new => ?_⟩
  have hidx : oms.orders.findIdx (fun record => record.order.orderId = r.order.orderId) = l₁.length := by
    have hnone : l₁.findIdx (fun record => record.order.orderId = r.order.orderId) = l₁.length :=
      List.findIdx_eq_length.mpr fun x hx => by simpa [hi] using hfirst x hx
    rw [hl, List.findIdx_append, hnone, if_neg (Nat.lt_irrefl _), List.findIdx_cons]
    simp
  simp only [SimulatedOms.replaceOrder, hidx]
  rw [hl]
  simp

theorem nonblank_of_mem_executionReasons [Zero D] [LE D] [DecidableLE D] {o : SimulatedOrder D}
    {s : ExecutionSnapshot D} {reason : String} (h : reason ∈ executionReasons o s) :
    Text.nonblank reason = true := by
  have hstate (lead : String) (state : ExecutionInputState) (hl : Text.nonblank lead = true) :
      Text.nonblank (lead ++ state.value) = true := by
    simp only [Text.nonblank, Text.chars_eq, String.toList_append, List.any_append, Bool.or_eq_true] at hl ⊢
    exact .inl hl
  simp only [executionReasons, Text.mem_sortedSet, List.mem_append, List.mem_ite_nil_right,
    List.mem_singleton] at h
  rcases h with (((((h | ⟨-, rfl⟩) | ⟨-, rfl⟩) | ⟨-, rfl⟩) | ⟨-, rfl⟩) | h) | ⟨-, rfl⟩
  · split at h
    · rw [List.mem_ite_nil_right, List.mem_singleton] at h
      rw [h.2]; decide
    · rw [List.mem_singleton.mp h]; decide
  · exact hstate _ _ (by decide)
  · exact hstate _ _ (by decide)
  · decide
  · decide
  · split at h
    · rw [List.mem_singleton.mp h]; decide
    · rw [List.mem_ite_nil_right, List.mem_singleton] at h
      rw [h.2]; decide
  · decide

variable [Zero D] [Add D] [Sub D] [BEq D] [LE D] [LT D] [DecidableLE D] [DecidableLT D]
  {oms oms' : SimulatedOms D}

theorem submit_effect {o : SimulatedOrder D} (ho : o.Constructed) (h : oms.submit o = .ok oms') :
    Effect oms oms' := by
  simp only [SimulatedOms.submit] at h
  split at h
  · rw [raiseIf_bind_eq_ok, pure_eq_ok] at h
    rw [← h.2]
    exact .same
  · rename_i hnone
    rw [pure_eq_ok] at h
    subst h
    refine .admitted o _ _ ho (fun r hr => ?_) ?_
    · simpa using List.find?_eq_none.mp hnone r hr
    · exact ite_eq_or_eq _ _ _

theorem cancel_effect {i : OrderId} (h : oms.cancel i = .ok oms') : Effect oms oms' := by
  simp only [SimulatedOms.cancel, bind_eq_ok, active_eq_ok, pure_eq_ok] at h
  obtain ⟨r, ⟨hr, ha⟩, rfl⟩ := h
  obtain ⟨-, l₁, l₂, hl, hset⟩ := order_eq_some hr
  rw [hset]
  exact .cancelled l₁ l₂ r hl ha

theorem markUnfilled_effect {i : OrderId} {reason : String} (h : oms.markUnfilled i reason = .ok oms') :
    Effect oms oms' := by
  simp only [SimulatedOms.markUnfilled, bind_eq_ok, active_eq_ok, raiseIf_eq_ok, exists_const, pure_eq_ok,
    not_not, bne, Bool.not_eq_true', Bool.not_eq_false] at h
  obtain ⟨r, ⟨hr, ha⟩, hreason, hz, rfl⟩ := h
  obtain ⟨rfl, l₁, l₂, hl, hset⟩ := order_eq_some hr
  rw [hset]
  exact .unfilled l₁ l₂ r r.remainingQuantity [reason] hl ha hz (.inl rfl) ⟨by simp, by simpa using hreason⟩

theorem applyFill_effect {fill : SimulatedFill D} {requested : Option D}
    (he : fill.executionEvidence.canonical) (h : oms.applyFill fill requested = .ok oms') : Effect oms oms' := by
  simp only [SimulatedOms.applyFill] at h
  obtain ⟨_, hpayload, h⟩ := bind_eq_ok.mp h
  split at h
  · rw [raiseIf_bind_eq_ok, pure_eq_ok] at h
    rw [← h.2]
    exact .same
  · rename_i hnone
    simp only [bind_eq_ok, active_eq_ok, requirePositive, raiseIf_eq_ok, exists_const, pure_eq_ok, not_or,
      not_not, Datetime.not_le] at h
    obtain ⟨r, ⟨hr, ha⟩, ⟨hins, hside⟩, hcur, hrun, hafter, htotal, hpos, hcov, hrem, rfl⟩ := h
    obtain ⟨hi, l₁, l₂, hl, hset⟩ := order_eq_some hr
    rw [hset]
    refine .filled l₁ l₂ r fill _ hl ha (fun f hf => ?_)
      ⟨hpayload, he, hi.symm, hins, hside, hcur, hrun, hafter, htotal, hpos, hcov, hrem⟩
    simpa using List.find?_eq_none.mp hnone f hf

theorem execute_effect [Mul D] [Div D] [NatCast D] {identify : FillBody D → Outcome Uuid} {i : OrderId}
    {requested : D} {s : ExecutionSnapshot D} {m : ExecutionCostModel D} (hs : s.Constructed)
    (h : oms.execute identify i requested s m = .ok oms') : Effect oms oms' := by
  simp only [SimulatedOms.execute] at h
  obtain ⟨r, hr, h⟩ := bind_eq_ok.mp h
  obtain ⟨hr, ha⟩ := active_eq_ok.mp hr
  simp only [requirePositive, raiseIf_bind_eq_ok] at h
  obtain ⟨hpos, hrem, h⟩ := h
  split at h
  · -- the market could not be reached: an empty order ends, a partial one stays open
    rename_i hreasons
    obtain ⟨rfl, l₁, l₂, hl, hset⟩ := order_eq_some hr
    rw [pure_eq_ok] at h
    subst h
    have hexplicit : executionReasons r.order s ≠ [] ∧
        ∀ reason ∈ executionReasons r.order s, Text.nonblank reason :=
      ⟨hreasons, fun reason hreason => nonblank_of_mem_executionReasons hreason⟩
    split
    · rename_i hz
      rw [hset]
      exact .unfilled l₁ l₂ r requested _ hl ha hz (.inr ⟨hpos, hrem⟩) hexplicit
    · exact .missed r requested _ (hl ▸ by simp) ha ⟨hpos, hrem⟩ hexplicit
  · simp only [asserted, bind_eq_ok, orRaise_eq_ok] at h
    obtain ⟨q, -, price, -, c, -, evidence, hev, h⟩ := h
    generalize (if q < requested then q else requested) = fillQuantity at h
    split at h
    · exact markUnfilled_effect h
    · simp only [bind_eq_ok] at h
      obtain ⟨costs, -, fillId, -, _, -, h⟩ := h
      exact applyFill_effect (hs.evidenceDigest evidence hev) h

/-- An accepted call has one of the effects. -/
theorem perform_effect [Mul D] [Div D] [NatCast D] {identify : FillBody D → Outcome Uuid} {c : OmsCall D}
    (h : c.perform identify oms = .ok oms') : Effect oms oms' := by
  cases c with
  | submit o => exact submit_effect o.2 h
  | cancel i => exact cancel_effect h
  | markUnfilled i reason => exact markUnfilled_effect h
  | execute i q s m => exact execute_effect s.2 h
  | applyFill f q => exact applyFill_effect f.2.executionEvidence h

end Operations

/-! ## The invariant -/

/-- The fills of an order. -/
def fillsOf {D : Type} (fills : List (SimulatedFill D)) (i : OrderId) : List (SimulatedFill D) :=
  fills.filter fun f => f.orderId = i

/-- The quantity that the fills of an order execute. -/
def filledBy {D : Type} [Zero D] [Add D] (fills : List (SimulatedFill D)) (i : OrderId) : D :=
  sumBy SimulatedFill.quantity (fillsOf fills i)

/-- The attempts on an order. -/
def attemptsOf {D : Type} (attempts : List (ExecutionAttempt D)) (i : OrderId) : List (ExecutionAttempt D) :=
  attempts.filter fun a => a.orderId = i

/-- A legal sequence of attempts on an order of `quantity`, and what it executes: an
attempt asks for at most what remains, and either misses or retains a fill of at
most what it asks for, and then its outcome says whether the order is complete. -/
inductive History (fills : List (SimulatedFill ℚ)) (quantity : ℚ) : List (ExecutionAttempt ℚ) → ℚ → Prop
  | start : History fills quantity [] 0
  | miss {l : List (ExecutionAttempt ℚ)} {done : ℚ} {a : ExecutionAttempt ℚ} (past : History fills quantity l done)
      (fillId : a.fillId = none) (outcome : a.outcome = .unfilled)
      (requested : a.requestedQuantity ≤ quantity - done) : History fills quantity (l ++ [a]) done
  | fill {l : List (ExecutionAttempt ℚ)} {done : ℚ} {a : ExecutionAttempt ℚ} {f : SimulatedFill ℚ}
      (past : History fills quantity l done) (mem : f ∈ fills) (fillId : a.fillId = some f.fillId)
      (orderId : f.orderId = a.orderId) (covers : f.quantity ≤ a.requestedQuantity)
      (requested : a.requestedQuantity ≤ quantity - done)
      (outcome : a.outcome = statusAt quantity (done + f.quantity)) :
      History fills quantity (l ++ [a]) (done + f.quantity)

theorem History.mono {fills fills' : List (SimulatedFill ℚ)} {quantity done : ℚ}
    {l : List (ExecutionAttempt ℚ)} (hf : ∀ f ∈ fills, f ∈ fills') (h : History fills quantity l done) :
    History fills' quantity l done := by
  induction h with
  | start => exact .start
  | miss _ hid ho hr ih => exact .miss ih hid ho hr
  | fill _ hm hid hoid hc hr ho ih => exact .fill ih (hf _ hm) hid hoid hc hr ho

/-- What the status of a record says about its filled quantity. -/
def StatusOk (r : OrderRecord ℚ) : Prop :=
  match r.status with
  | .accepted | .rejected | .unfilled => r.filledQuantity = 0
  | .cancelled => r.filledQuantity < r.order.quantity
  | .partiallyFilled => 0 < r.filledQuantity ∧ r.filledQuantity < r.order.quantity
  | .fullyFilled => r.filledQuantity = r.order.quantity

/-- A record agrees with the fills and the attempts of its order. -/
structure RecordOk (fills : List (SimulatedFill ℚ)) (attempts : List (ExecutionAttempt ℚ))
    (r : OrderRecord ℚ) : Prop where
  order : r.order.Constructed
  filled : r.filledQuantity = filledBy fills r.order.orderId
  nonneg : 0 ≤ r.filledQuantity
  status : StatusOk r
  history : History fills r.order.quantity (attemptsOf attempts r.order.orderId) r.filledQuantity

/-- A retained fill and the order that it executes. -/
structure Matches (o : SimulatedOrder ℚ) (f : SimulatedFill ℚ) : Prop where
  payload : f.validatePayload = .ok ()
  evidence : f.executionEvidence.canonical
  orderId : f.orderId = o.orderId
  instrumentId : f.instrumentId = o.instrumentId
  side : f.side = o.side
  currency : f.currency = o.currency
  researchRunId : f.researchRunId = o.researchRunId
  after : o.releaseAt.value < f.executionAt.value

/-- A retained attempt by itself. -/
structure AttemptOk (a : ExecutionAttempt ℚ) : Prop where
  positive : 0 < a.requestedQuantity
  missed : a.fillId = none → a.outcome = .unfilled ∧ a.reasons ≠ [] ∧ ∀ reason ∈ a.reasons, Text.nonblank reason
  filled : a.fillId ≠ none → a.reasons = []

/-- The orders of the records. -/
def ordersOf (oms : SimulatedOms ℚ) : List (SimulatedOrder ℚ) := oms.orders.map OrderRecord.order

/-- What every reachable OMS keeps. -/
structure Invariant (oms : SimulatedOms ℚ) : Prop where
  orderIds : ((ordersOf oms).map SimulatedOrder.orderId).Nodup
  fillIds : (oms.fills.map SimulatedFill.fillId).Nodup
  attempted : oms.attempts.filterMap ExecutionAttempt.fillId = oms.fills.map SimulatedFill.fillId
  records : ∀ r ∈ oms.orders, RecordOk oms.fills oms.attempts r
  fills : ∀ f ∈ oms.fills, ∃ o ∈ ordersOf oms, Matches o f
  attempts : ∀ a ∈ oms.attempts, AttemptOk a ∧ ∃ o ∈ ordersOf oms, o.orderId = a.orderId

theorem Invariant.empty : Invariant {} where
  orderIds := List.nodup_nil
  fillIds := List.nodup_nil
  attempted := rfl
  records := fun _ hr => absurd hr List.not_mem_nil
  fills := fun _ hf => absurd hf List.not_mem_nil
  attempts := fun _ ha => absurd ha List.not_mem_nil

theorem quantity_pos {o : SimulatedOrder ℚ} (ho : o.Constructed) : 0 < o.quantity := by
  have h := ho.postInit
  simp only [SimulatedOrder.postInit, requirePositive, bind_eq_ok, raiseIf_eq_ok, not_le] at h
  obtain ⟨_, h, -⟩ := h
  exact h

theorem fill_quantity_pos {f : SimulatedFill ℚ} (hf : f.validatePayload = .ok ()) : 0 < f.quantity := by
  simp only [SimulatedFill.validatePayload, SimulatedFill.validate, requirePositive, bind_eq_ok,
    raiseIf_eq_ok, not_le] at hf
  obtain ⟨_, h, -⟩ := hf
  exact h

/-- An open order has something left. -/
theorem RecordOk.remaining_pos {fills : List (SimulatedFill ℚ)} {attempts : List (ExecutionAttempt ℚ)}
    {r : OrderRecord ℚ} (h : RecordOk fills attempts r) (ha : r.status.terminal = false) :
    r.filledQuantity < r.order.quantity := by
  have hs := h.status
  have hq := quantity_pos h.order
  cases hr : r.status with
  | accepted =>
    rw [StatusOk, hr] at hs
    rw [hs]
    exact hq
  | partiallyFilled =>
    rw [StatusOk, hr] at hs
    exact hs.2
  | rejected | cancelled | unfilled | fullyFilled => simp [hr, OrderStatus.terminal] at ha

/-- A record is not touched by the fills and attempts of other orders. -/
theorem RecordOk.other {fills fs : List (SimulatedFill ℚ)} {attempts as : List (ExecutionAttempt ℚ)}
    {r : OrderRecord ℚ} (h : RecordOk fills attempts r) (hf : ∀ f ∈ fs, f.orderId ≠ r.order.orderId)
    (ha : ∀ a ∈ as, a.orderId ≠ r.order.orderId) : RecordOk (fills ++ fs) (attempts ++ as) r := by
  have hfs : fillsOf (fills ++ fs) r.order.orderId = fillsOf fills r.order.orderId := by
    simpa [fillsOf] using hf
  have has : attemptsOf (attempts ++ as) r.order.orderId = attemptsOf attempts r.order.orderId := by
    simpa [attemptsOf] using ha
  refine ⟨h.order, ?_, h.nonneg, h.status, ?_⟩
  · rw [h.filled, filledBy, filledBy, hfs]
  · rw [has]
    exact h.history.mono fun f hf => List.mem_append_left _ hf

/-- The records after one of them was replaced. -/
theorem mem_replaced {l₁ l₂ : List (OrderRecord ℚ)} {r new x : OrderRecord ℚ}
    (hn : (((l₁ ++ r :: l₂).map OrderRecord.order).map SimulatedOrder.orderId).Nodup)
    (hx : x ∈ l₁ ++ new :: l₂) : x = new ∨ x ∈ l₁ ++ r :: l₂ ∧ x.order.orderId ≠ r.order.orderId := by
  simp only [List.map_append, List.map_cons, List.map_map, List.nodup_append, List.nodup_cons,
    List.mem_append, List.mem_cons] at hn hx ⊢
  obtain ⟨-, ⟨hr, -⟩, hdisj⟩ := hn
  rcases hx with hx | hx | hx
  · refine .inr ⟨.inl hx, ?_⟩
    exact hdisj _ (List.mem_map_of_mem hx) _ (.inl rfl)
  · exact .inl hx
  · exact .inr ⟨.inr (.inr hx), fun e => hr (e ▸ List.mem_map_of_mem hx)⟩

/-- One record replaced by one of the same order, with new fills and attempts of that order. -/
theorem Invariant.replace {oms : SimulatedOms ℚ} (h : Invariant oms) {l₁ l₂ : List (OrderRecord ℚ)}
    {r : OrderRecord ℚ} (new : OrderRecord ℚ) (fs : List (SimulatedFill ℚ)) (as : List (ExecutionAttempt ℚ))
    (place : oms.orders = l₁ ++ r :: l₂) (horder : new.order = r.order)
    (hnew : RecordOk (oms.fills ++ fs) (oms.attempts ++ as) new)
    (hids : ((oms.fills ++ fs).map SimulatedFill.fillId).Nodup)
    (hfs : ∀ f ∈ fs, Matches r.order f) (has : ∀ a ∈ as, AttemptOk a ∧ a.orderId = r.order.orderId)
    (hpair : as.filterMap ExecutionAttempt.fillId = fs.map SimulatedFill.fillId) :
    Invariant { oms with
      orders := l₁ ++ new :: l₂, fills := oms.fills ++ fs, attempts := oms.attempts ++ as } := by
  have hsame : (l₁ ++ new :: l₂).map OrderRecord.order = ordersOf oms := by
    simp [ordersOf, place, horder]
  have hmem : r.order ∈ ordersOf oms := List.mem_map_of_mem (by simp [place])
  have hn := h.orderIds
  rw [ordersOf, place] at hn
  refine ⟨(by rw [ordersOf, hsame]; exact h.orderIds), hids, ?_, fun x hx => ?_, fun f hf => ?_, fun a ha => ?_⟩
  · rw [List.filterMap_append, h.attempted, hpair, List.map_append]
  · rcases mem_replaced hn hx with rfl | ⟨hx, hne⟩
    · exact hnew
    · refine (h.records x (place ▸ hx)).other (fun f hf => ?_) fun a ha => ?_
      · exact (hfs f hf).orderId ▸ Ne.symm hne
      · exact (has a ha).2 ▸ Ne.symm hne
  · rw [ordersOf, hsame]
    rcases List.mem_append.mp hf with hf | hf
    · exact h.fills f hf
    · exact ⟨r.order, hmem, hfs f hf⟩
  · rw [ordersOf, hsame]
    rcases List.mem_append.mp ha with ha | ha
    · exact h.attempts a ha
    · exact ⟨(has a ha).1, r.order, hmem, (has a ha).2.symm⟩

theorem attemptsOf_append_self {attempts : List (ExecutionAttempt ℚ)} {a : ExecutionAttempt ℚ} {i : OrderId}
    (ha : a.orderId = i) : attemptsOf (attempts ++ [a]) i = attemptsOf attempts i ++ [a] := by
  simp [attemptsOf, ha]

theorem filledBy_append_self {fills : List (SimulatedFill ℚ)} {f : SimulatedFill ℚ} {i : OrderId}
    (hf : f.orderId = i) : filledBy (fills ++ [f]) i = filledBy fills i + f.quantity := by
  simp [filledBy, fillsOf, hf, sumBy]

/-- An attempt that misses, on an order that stays as far filled as it was. -/
theorem RecordOk.miss {fills : List (SimulatedFill ℚ)} {attempts : List (ExecutionAttempt ℚ)}
    {r new : OrderRecord ℚ} {requested : ℚ} {reasons : List String} (h : RecordOk fills attempts r)
    (horder : new.order = r.order) (hfilled : new.filledQuantity = r.filledQuantity) (hstatus : StatusOk new)
    (hr : requested ≤ r.remainingQuantity) :
    RecordOk fills (attempts ++ [⟨r.order.orderId, requested, .unfilled, reasons, none⟩]) new := by
  refine ⟨horder ▸ h.order, by rw [hfilled, horder, h.filled], hfilled ▸ h.nonneg, hstatus, ?_⟩
  rw [horder, hfilled, attemptsOf_append_self rfl]
  exact .miss h.history rfl rfl hr

/-- A fill of an open order. -/
theorem RecordOk.fill {fills : List (SimulatedFill ℚ)} {attempts : List (ExecutionAttempt ℚ)}
    {r : OrderRecord ℚ} {f : SimulatedFill ℚ} {requested : ℚ} (h : RecordOk fills attempts r)
    (hf : Fits r f requested) :
    RecordOk (fills ++ [f])
      (attempts ++ [⟨f.orderId, requested, statusAt r.order.quantity (r.filledQuantity + f.quantity), [],
        some f.fillId⟩])
      { r with
        status := statusAt r.order.quantity (r.filledQuantity + f.quantity)
        filledQuantity := r.filledQuantity + f.quantity
        reasons := [] } := by
  have hq := fill_quantity_pos hf.payload
  have hn := h.nonneg
  refine ⟨h.order, ?_, by linarith, ?_, ?_⟩
  · rw [filledBy_append_self hf.orderId, h.filled]
  · by_cases hz : r.filledQuantity + f.quantity = r.order.quantity
    · simp [StatusOk, statusAt, hz]
    · have hlt := lt_of_le_of_ne (not_lt.mp hf.total) hz
      simp only [StatusOk, statusAt, beq_iff_eq, hz, if_false]
      exact ⟨by linarith, hlt⟩
  · rw [attemptsOf_append_self hf.orderId]
    exact .fill (h.history.mono fun g hg => List.mem_append_left _ hg) (by simp) rfl rfl
      (not_lt.mp hf.covers) (not_lt.mp hf.remaining) rfl

/-- What one accepted call keeps. -/
theorem Invariant.step {oms oms' : SimulatedOms ℚ} (h : Invariant oms) (he : Effect oms oms') :
    Invariant oms' := by
  cases he with
  | same => exact h
  | admitted o status reasons valid fresh hstatus =>
    have hfresh : ∀ x ∈ ordersOf oms, x.orderId ≠ o.orderId := fun x hx => by
      obtain ⟨r, hr, rfl⟩ := List.mem_map.mp hx
      exact fresh r hr
    have hnone (i : OrderId) (hi : ∃ x ∈ ordersOf oms, x.orderId = i) : i ≠ o.orderId := by
      obtain ⟨x, hx, rfl⟩ := hi
      exact hfresh x hx
    have hfills : fillsOf oms.fills o.orderId = [] := List.filter_eq_nil_iff.mpr fun f hf => by
      obtain ⟨x, hx, hm⟩ := h.fills f hf
      simpa using hnone f.orderId ⟨x, hx, hm.orderId.symm⟩
    have hattempts : attemptsOf oms.attempts o.orderId = [] := List.filter_eq_nil_iff.mpr fun a ha => by
      simpa using hnone a.orderId (h.attempts a ha).2
    refine ⟨?_, h.fillIds, h.attempted, fun r hr => ?_, fun f hf => ?_, fun a ha => ?_⟩
    · rw [ordersOf, List.map_append, List.map_append, List.nodup_append]
      refine ⟨h.orderIds, List.nodup_singleton _, fun a ha b hb => ?_⟩
      obtain ⟨x, hx, rfl⟩ := List.mem_map.mp ha
      simp only [List.map_cons, List.map_nil, List.mem_singleton] at hb
      exact hb ▸ hfresh x hx
    · rcases List.mem_append.mp hr with hr | hr
      · exact h.records r hr
      · rw [List.mem_singleton.mp hr]
        refine ⟨valid, by simp [filledBy, hfills, sumBy], le_refl 0, ?_, hattempts ▸ .start⟩
        rcases hstatus with rfl | rfl <;> rfl
    · obtain ⟨x, hx, hm⟩ := h.fills f hf
      exact ⟨x, by simp [ordersOf] at hx ⊢; exact .inl hx, hm⟩
    · obtain ⟨hok, x, hx, hi⟩ := h.attempts a ha
      exact ⟨hok, x, by simp [ordersOf] at hx ⊢; exact .inl hx, hi⟩
  | cancelled l₁ l₂ r place active =>
    have hr := h.records r (by simp [place])
    simpa using h.replace { r with status := .cancelled } [] [] place rfl
      (by simpa using ⟨hr.order, hr.filled, hr.nonneg, hr.remaining_pos active, hr.history⟩)
      (by simpa using h.fillIds) (by simp) (by simp) rfl
  | unfilled l₁ l₂ r requested reasons place active empty hrequested explicit =>
    have hr := h.records r (by simp [place])
    have hrem : 0 < r.remainingQuantity := sub_pos.mpr (hr.remaining_pos active)
    have hpos : 0 < requested ∧ requested ≤ r.remainingQuantity := by
      rcases hrequested with rfl | ⟨h₁, h₂⟩
      · exact ⟨hrem, le_refl _⟩
      · exact ⟨not_le.mp h₁, not_lt.mp h₂⟩
    have hnew : StatusOk { r with status := .unfilled, reasons := reasons } := by simpa [StatusOk] using empty
    simpa using h.replace { r with status := .unfilled, reasons := reasons } [] [_] place rfl
      (by rw [List.append_nil]; exact hr.miss rfl rfl hnew hpos.2)
      (by simpa using h.fillIds) (by simp)
      (by simpa using ⟨hpos.1, fun _ => ⟨rfl, explicit⟩, by simp⟩) rfl
  | missed r requested reasons mem active hrequested explicit =>
    have hr := h.records r mem
    obtain ⟨l₁, l₂, place⟩ := List.append_of_mem mem
    simpa [place] using h.replace r [] [_] place rfl
      (by simpa using hr.miss rfl rfl hr.status (not_lt.mp hrequested.2))
      (by simpa using h.fillIds) (by simp)
      (by simpa using ⟨not_le.mp hrequested.1, fun _ => ⟨rfl, explicit⟩, by simp⟩) rfl
  | filled l₁ l₂ r fill requested place active fresh fits =>
    have hr := h.records r (by simp [place])
    refine h.replace _ _ _ place rfl (hr.fill fits) ?_ ?_ ?_ rfl
    · rw [List.map_append, List.nodup_append]
      refine ⟨h.fillIds, List.nodup_singleton _, fun a ha b hb => ?_⟩
      obtain ⟨f, hf, rfl⟩ := List.mem_map.mp ha
      rw [List.map_singleton, List.mem_singleton] at hb
      exact hb ▸ fresh f hf
    · simpa using ⟨fits.payload, fits.evidence, fits.orderId, fits.instrumentId, fits.side, fits.currency,
        fits.researchRunId, fits.after⟩
    · simpa using ⟨⟨not_le.mp fits.positive, by simp, by simp⟩, fits.orderId⟩

/-! ## Growth -/

/-- How the collections grow: orders, fills and attempts are appended, and the record
of a terminal order stays as it is. -/
structure Extends (oms oms' : SimulatedOms ℚ) : Prop where
  orders : oms.orders.map OrderRecord.order <+: oms'.orders.map OrderRecord.order
  fills : oms.fills <+: oms'.fills
  attempts : oms.attempts <+: oms'.attempts
  terminal : ∀ (k : Nat) (r : OrderRecord ℚ), oms.orders[k]? = some r → r.status.terminal = true → oms'.orders[k]? = some r

theorem Extends.refl (oms : SimulatedOms ℚ) : Extends oms oms :=
  ⟨List.prefix_refl _, List.prefix_refl _, List.prefix_refl _, fun _ _ h _ => h⟩

theorem Extends.trans {a b c : SimulatedOms ℚ} (h : Extends a b) (h' : Extends b c) : Extends a c :=
  ⟨h.orders.trans h'.orders, h.fills.trans h'.fills, h.attempts.trans h'.attempts,
    fun k r hr ht => h'.terminal k r (h.terminal k r hr ht) ht⟩

/-- Replacing an open record leaves the terminal ones in place. -/
theorem terminal_replaced {l₁ l₂ : List (OrderRecord ℚ)} {r new x : OrderRecord ℚ} {k : Nat}
    (ha : r.status.terminal = false) (hx : (l₁ ++ r :: l₂)[k]? = some x) (ht : x.status.terminal = true) :
    (l₁ ++ new :: l₂)[k]? = some x := by
  rcases Nat.lt_trichotomy k l₁.length with hk | rfl | hk
  · rwa [List.getElem?_append_left hk] at hx ⊢
  · simp only [List.getElem?_append_right (le_refl _), Nat.sub_self, List.getElem?_cons_zero,
      Option.some.injEq] at hx
    rw [← hx, ha] at ht
    cases ht
  · obtain ⟨d, hd⟩ : ∃ d, k - l₁.length = d + 1 := ⟨k - l₁.length - 1, by omega⟩
    rw [List.getElem?_append_right hk.le, hd, List.getElem?_cons_succ] at hx ⊢
    exact hx

theorem Effect.extends {oms oms' : SimulatedOms ℚ} (h : Effect oms oms') : Extends oms oms' := by
  cases h with
  | same => exact .refl oms
  | admitted o status reasons valid fresh hstatus =>
    refine ⟨by simp, List.prefix_refl _, List.prefix_refl _, fun k r hr _ => ?_⟩
    have hk : k < oms.orders.length := (List.getElem?_eq_some_iff.mp hr).1
    rwa [List.getElem?_append_left hk]
  | cancelled l₁ l₂ r place active =>
    exact ⟨by simp [place], List.prefix_refl _, List.prefix_refl _,
      fun k x hx ht => terminal_replaced active (place ▸ hx) ht⟩
  | unfilled l₁ l₂ r requested reasons place active empty hrequested explicit =>
    exact ⟨by simp [place], List.prefix_refl _, List.prefix_append _ _,
      fun k x hx ht => terminal_replaced active (place ▸ hx) ht⟩
  | missed r requested reasons mem active hrequested explicit =>
    exact ⟨List.prefix_refl _, List.prefix_refl _, List.prefix_append _ _, fun _ _ h _ => h⟩
  | filled l₁ l₂ r fill requested place active fresh fits =>
    exact ⟨by simp [place], List.prefix_append _ _, List.prefix_append _ _,
      fun k x hx ht => terminal_replaced active (place ▸ hx) ht⟩

/-! ## Runs -/

/-- A call, whether it is accepted or raises. -/
theorem call_effect (identify : FillBody ℚ → Outcome Uuid) (oms : SimulatedOms ℚ) (c : OmsCall ℚ) :
    Effect oms (oms.call identify c) := by
  unfold SimulatedOms.call
  split
  · rename_i h
    exact perform_effect h
  · exact .same

theorem run_invariant (identify : FillBody ℚ → Outcome Uuid) (calls : List (OmsCall ℚ)) {oms : SimulatedOms ℚ}
    (h : Invariant oms) : Invariant (oms.run identify calls) := by
  induction calls generalizing oms with
  | nil => exact h
  | cons c calls ih => exact ih (h.step (call_effect identify oms c))

theorem run_extends (identify : FillBody ℚ → Outcome Uuid) (calls : List (OmsCall ℚ)) (oms : SimulatedOms ℚ) :
    Extends oms (oms.run identify calls) := by
  induction calls generalizing oms with
  | nil => exact .refl oms
  | cons c calls ih => exact (call_effect identify oms c).extends.trans (ih _)

/-- A record's quantities and status. -/
theorem RecordOk.quantities {fills : List (SimulatedFill ℚ)} {attempts : List (ExecutionAttempt ℚ)}
    {r : OrderRecord ℚ} (h : RecordOk fills attempts r) :
    r.filledQuantity ≤ r.order.quantity ∧ (r.status = .fullyFilled ↔ r.filledQuantity = r.order.quantity) ∧
      (r.status = .partiallyFilled → 0 < r.filledQuantity ∧ r.filledQuantity < r.order.quantity) ∧
      (r.status = .accepted ∨ r.status = .rejected ∨ r.status = .unfilled → r.filledQuantity = 0) := by
  have hq := quantity_pos h.order
  have hs := h.status
  cases hr : r.status with
  | accepted | rejected | unfilled =>
    simp only [StatusOk, hr] at hs
    simp [hs, hq.le, hq.ne]
  | cancelled =>
    simp only [StatusOk, hr] at hs
    simp [hs.le, hs.ne]
  | partiallyFilled =>
    simp only [StatusOk, hr] at hs
    simp [hs, hs.2.le, hs.2.ne]
  | fullyFilled =>
    simp only [StatusOk, hr] at hs
    simp [hs]

/-- A retained fill has exactly one attempt. -/
theorem Invariant.count_attempts {oms : SimulatedOms ℚ} (h : Invariant oms) {f : SimulatedFill ℚ}
    (hf : f ∈ oms.fills) : oms.attempts.countP (fun a => a.fillId = some f.fillId) = 1 := by
  have hone : (oms.attempts.filterMap ExecutionAttempt.fillId).count f.fillId = 1 := by
    rw [h.attempted]
    exact List.count_eq_one_of_mem h.fillIds (List.mem_map_of_mem hf)
  rw [List.count_filterMap] at hone
  rw [← hone]
  exact List.countP_congr fun a _ => by simp

end ATB.Proof.Execution
