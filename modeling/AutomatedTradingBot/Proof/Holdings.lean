import AutomatedTradingBot.Proof.Ledger

/-!
# What the ledger holds

A position's quantity is what was traded in its instrument, as long as no split
rescaled it (`replay_holding`). Nothing is assumed of the events: a replay may be
given events that no constructor accepted.
-/

namespace ATB.Proof.Ledger

open Dict (get?)

/-- The quantity that a state holds of an instrument. -/
def holding (s : LedgerState ℚ) (i : InstrumentId) : ℚ := ((s.position i).map PositionState.quantity).getD 0

/-- The trades of an event list. -/
def trades (events : List (FinancialEvent ℚ)) : List (FinancialEvent ℚ) :=
  events.filter fun e => e.kind = .trade

/-- The signed quantity that an event trades in an instrument. -/
def tradedIn (i : InstrumentId) (e : FinancialEvent ℚ) : ℚ :=
  if e.instrumentId = some i then e.quantity.getD 0 else 0

/-- One position per instrument. -/
def OnePerInstrument (s : LedgerState ℚ) : Prop := (s.positions.map PositionState.instrumentId).Nodup

theorem position_eq {s : LedgerState ℚ} (hs : OnePerInstrument s) (i : InstrumentId) :
    s.position i = get? i (book s) := by
  refine Option.ext fun p => ?_
  rw [Dict.get?_ofKeys hs]
  constructor
  · intro h
    exact ⟨List.mem_of_find?_eq_some h, by simpa using List.find?_some h⟩
  · rintro ⟨hp, rfl⟩
    cases hf : s.position p.instrumentId with
    | none => simpa using List.find?_eq_none.mp hf p hp
    | some x =>
      have hx : x.instrumentId = p.instrumentId := by simpa using List.find?_some hf
      rw [List.inj_on_of_nodup_map hs (List.mem_of_find?_eq_some hf) hp hx]

/-- Settling after writing one position. -/
theorem holding_settle {s s' : LedgerState ℚ} {cash : ℚ} {j : InstrumentId} (new : PositionState ℚ)
    (hs : OnePerInstrument s) (hj : new.instrumentId = j)
    (h : settle s.currency cash (Dict.set j new (book s)) = .ok s') :
    OnePerInstrument s' ∧ ∀ i, holding s' i = if j = i then new.quantity else holding s i := by
  obtain ⟨hone, hget⟩ := settle_book h (keyed_book s hj).1 (keyed_book s hj).2
  refine ⟨hone, fun i => ?_⟩
  rw [holding, holding, position_eq hone, position_eq hs, hget, Dict.get?_set]
  split <;> rfl

/-- The same quantity was written. -/
theorem holding_settle_same {s s' : LedgerState ℚ} {cash : ℚ} {j : InstrumentId} {old : PositionState ℚ}
    (new : PositionState ℚ) (hs : OnePerInstrument s) (ho : get? j (book s) = some old) (hi : new.instrumentId = old.instrumentId)
    (hq : new.quantity = old.quantity) (h : settle s.currency cash (Dict.set j new (book s)) = .ok s') :
    OnePerInstrument s' ∧ ∀ i, holding s' i = holding s i := by
  have hj := ((Dict.get?_ofKeys hs).mp ho).2
  obtain ⟨hone, hhold⟩ := holding_settle new hs (hi.trans hj) h
  refine ⟨hone, fun i => ?_⟩
  rw [hhold]
  split
  · rename_i hji
    rw [holding, position_eq hs, ← hji, ho, hq]
    rfl
  · rfl

/-- One event: a trade adds its quantity to its instrument, and only a split rescales. -/
theorem transition_holding {s s' : LedgerState ℚ} {e : FinancialEvent ℚ} (hs : OnePerInstrument s)
    (h : transition s e = .ok s') : OnePerInstrument s' ∧ ∀ i,
      ¬ (e.kind = .split ∧ e.instrumentId = some i) →
        holding s' i = holding s i + sumBy (tradedIn i) (trades [e]) := by
  have hnot : e.kind ≠ .trade → ∀ i, sumBy (tradedIn i) (trades [e]) = 0 := fun hk i => by
    simp [trades, hk, sumBy]
  rcases transition_cases h with ⟨hk, δ, hδ, h⟩ | ⟨hk, j, q, u, p, hj, hq, hu, hp, h⟩ |
    ⟨hk, j, u, old, -, -, hold, hz, h⟩ | ⟨hk, j, u, old, -, -, hold, hz, h⟩ |
    ⟨hk, j, q, old, m, hj, hq, hold, hz, -, h⟩
  · obtain ⟨hone, hget⟩ := settle_book h (Dict.keyed_ofKeys _ _) (Dict.nodup_keys_ofKeys _ _)
    refine ⟨hone, fun i _ => ?_⟩
    have hne : e.kind ≠ .trade := fun ht => by rw [ht] at hk; cases hk
    rw [hnot hne, add_zero, holding, holding, position_eq hone, position_eq hs, hget]
  · obtain ⟨hi, hquantity⟩ := tradePosition_quantity hp
    obtain ⟨hone, hhold⟩ := holding_settle p hs hi h
    refine ⟨hone, fun i _ => ?_⟩
    have htraded : sumBy (tradedIn i) (trades [e]) = if j = i then q else 0 := by
      simp [trades, hk, sumBy, tradedIn, hj, hq]
    rw [hhold, htraded]
    split
    · rename_i hji
      rw [hquantity, before, holding, position_eq hs, ← hji]
      cases get? j (book s) <;> simp
    · rw [add_zero]
  · obtain ⟨hone, hhold⟩ := holding_settle_same { old with markPrice := u } hs hold rfl rfl h
    refine ⟨hone, fun i _ => ?_⟩
    rw [hhold, hnot (by rw [hk]; decide), add_zero]
  · obtain ⟨hone, hhold⟩ := holding_settle_same
      { old with realisedPnl := old.realisedPnl + old.quantity * u } hs hold rfl rfl h
    refine ⟨hone, fun i _ => ?_⟩
    rw [hhold, hnot (by rw [hk]; decide), add_zero]
  · have hi := ((Dict.get?_ofKeys hs).mp hold).2
    obtain ⟨hone, hhold⟩ := holding_settle { old with quantity := old.quantity * q, markPrice := m } hs hi h
    refine ⟨hone, fun i hsplit => ?_⟩
    have hne : j ≠ i := fun hji => hsplit ⟨hk, by rw [hj, hji]⟩
    rw [hhold, if_neg hne, hnot (by rw [hk]; decide), add_zero]

/-- A replayed ledger holds, of an instrument without splits, what it traded. -/
theorem replay_holding {c : Currency} {events : List (FinancialEvent ℚ)} {l : SimulationLedger ℚ}
    (h : SimulationLedger.replay c events = .ok l) {i : InstrumentId}
    (hsplit : ∀ e ∈ l.events, ¬ (e.kind = .split ∧ e.instrumentId = some i)) :
    holding l.state i = sumBy (tradedIn i) (trades l.events) := by
  suffices OnePerInstrument l.state ∧ ((∀ e ∈ l.events, ¬ (e.kind = .split ∧ e.instrumentId = some i)) →
      holding l.state i = sumBy (tradedIn i) (trades l.events)) from this.2 hsplit
  refine foldlM_ok_induction (fun l : SimulationLedger ℚ => OnePerInstrument l.state ∧
    ((∀ e ∈ l.events, ¬ (e.kind = .split ∧ e.instrumentId = some i)) →
      holding l.state i = sumBy (tradedIn i) (trades l.events))) (fun l e l' _ hl hp => ?_) h
    ⟨List.nodup_nil, fun _ => rfl⟩
  rcases apply_cases hl with ⟨rfl, -⟩ | ⟨-, -, -, -, s', ht, rfl⟩
  · exact hp
  · obtain ⟨hone, hhold⟩ := transition_holding hp.1 ht
    refine ⟨hone, fun hns => ?_⟩
    rw [hhold i (hns e (by simp)), hp.2 fun x hx => hns x (List.mem_append_left _ hx), trades, trades, trades,
      List.filter_append, sumBy_append]

end ATB.Proof.Ledger
