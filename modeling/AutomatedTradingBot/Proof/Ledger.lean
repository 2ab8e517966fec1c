import Mathlib.Algebra.BigOperators.Group.List.Lemmas
import Mathlib.Algebra.Order.Field.Rat
import Mathlib.Tactic.FieldSimp
import Mathlib.Tactic.Linarith
import Mathlib.Tactic.Ring
import AutomatedTradingBot.Source.Ledger

/-!
# The accounting identity of the ledger

What one accepted event does to the ledger is said once: `transition_cases`
(the state) and `apply_cases` (the history). An event either funds the account,
or moves the position of one instrument together with the cash (`Move`), and a
move keeps `cash + cost basis - realised`. `Accounts` is the invariant that
follows, and `replay_accounts` is that every replayed ledger has it.
-/

namespace ATB.Proof.Ledger

open Dict (get? values)

/-! ## Sums -/

theorem foldl_add {α : Type} (f : α → ℚ) (l : List α) (a : ℚ) :
    l.foldl (fun a x => a + f x) a = a + (l.map f).sum := by
  induction l generalizing a with
  | nil => simp
  | cons x l ih => rw [List.foldl_cons, ih, List.map_cons, List.sum_cons, add_assoc]

theorem sumBy_eq {α : Type} (f : α → ℚ) (l : List α) : sumBy f l = (l.map f).sum := by
  rw [sumBy, foldl_add, zero_add]

theorem sumBy_append {α : Type} (f : α → ℚ) (l m : List α) :
    sumBy f (l ++ m) = sumBy f l + sumBy f m := by
  simp only [sumBy_eq, List.map_append, List.sum_append]

/-- What external funding contributed: the sum that `_performance` takes. -/
def funding (events : List (FinancialEvent ℚ)) : ℚ :=
  sumBy (fun e => if e.kind.funding then e.cashDelta.getD 0 else 0) events

/-! ## What an event does -/

theorem held_eq_ok {D : Type} [Zero D] [BEq D] {d : List (InstrumentId × PositionState D)} {i : InstrumentId} {m : String}
    {p : PositionState D} : held d i m = .ok p ↔ get? i d = some p ∧ (p.quantity == 0) = false := by
  simp only [held, bind_eq_ok, orRaise_eq_ok, raiseIf_eq_ok, exists_const, pure_eq_ok, Bool.not_eq_true]
  constructor
  · rintro ⟨old, h, hq, rfl⟩
    exact ⟨h, hq⟩
  · rintro ⟨h, hq⟩
    exact ⟨p, h, hq, rfl⟩

section Cases

variable {D : Type} [Zero D] [Add D] [Sub D] [Neg D] [Mul D] [Div D] [BEq D] [LT D] [DecidableLT D]

/-- The positions of a state, by instrument. -/
abbrev book (s : LedgerState D) : List (InstrumentId × PositionState D) :=
  Dict.ofKeys PositionState.instrumentId s.positions

/-- The position of `i` that a trade at `u` starts from. -/
def before (s : LedgerState D) (i : InstrumentId) (u : D) : PositionState D :=
  (get? i (book s)).getD ⟨i, 0, 0, u, 0⟩

/-- What an accepted event does to the state, kind by kind. -/
theorem transition_cases {s s' : LedgerState D} {e : FinancialEvent D} (h : transition s e = .ok s') :
    (e.kind.funding = true ∧ ∃ δ, e.cashDelta = some δ ∧
      settle s.currency (s.cash + δ) (book s) = .ok s') ∨
    (e.kind = .trade ∧ ∃ i q u p, e.instrumentId = some i ∧ e.quantity = some q ∧
      e.unitAmount = some u ∧ tradePosition (before s i u) i q u = .ok p ∧
      settle s.currency (s.cash - q * u) (Dict.set i p (book s)) = .ok s') ∨
    (e.kind = .mark ∧ ∃ i u old, e.instrumentId = some i ∧ e.unitAmount = some u ∧
      get? i (book s) = some old ∧ (old.quantity == 0) = false ∧
      settle s.currency s.cash (Dict.set i { old with markPrice := u } (book s)) = .ok s') ∨
    (e.kind = .cashDividend ∧ ∃ i u old, e.instrumentId = some i ∧ e.unitAmount = some u ∧
      get? i (book s) = some old ∧ (old.quantity == 0) = false ∧
      settle s.currency (s.cash + old.quantity * u)
        (Dict.set i { old with realisedPnl := old.realisedPnl + old.quantity * u } (book s)) = .ok s') ∨
    (e.kind = .split ∧ ∃ i q old m, e.instrumentId = some i ∧ e.quantity = some q ∧
      get? i (book s) = some old ∧ (old.quantity == 0) = false ∧ divide old.markPrice q = .ok m ∧
      settle s.currency s.cash
        (Dict.set i { old with quantity := old.quantity * q, markPrice := m } (book s)) = .ok s') := by
  cases hk : e.kind with
  | openingCash | cashAdjustment =>
    simp only [transition, hk, asserted, bind_eq_ok, orRaise_eq_ok] at h
    obtain ⟨δ, hδ, h⟩ := h
    exact .inl ⟨rfl, δ, hδ, h⟩
  | trade =>
    simp only [transition, hk, asserted, bind_eq_ok, orRaise_eq_ok] at h
    obtain ⟨i, hi, q, hq, u, hu, p, hp, h⟩ := h
    exact .inr (.inl ⟨rfl, i, q, u, p, hi, hq, hu, hp, h⟩)
  | mark =>
    simp only [transition, hk, asserted, bind_eq_ok, orRaise_eq_ok, held_eq_ok] at h
    obtain ⟨i, hi, u, hu, old, ⟨ho, hz⟩, h⟩ := h
    exact .inr (.inr (.inl ⟨rfl, i, u, old, hi, hu, ho, hz, h⟩))
  | cashDividend =>
    simp only [transition, hk, asserted, bind_eq_ok, orRaise_eq_ok, held_eq_ok] at h
    obtain ⟨i, hi, u, hu, old, ⟨ho, hz⟩, h⟩ := h
    exact .inr (.inr (.inr (.inl ⟨rfl, i, u, old, hi, hu, ho, hz, h⟩)))
  | split =>
    simp only [transition, hk, asserted, bind_eq_ok, orRaise_eq_ok, held_eq_ok] at h
    obtain ⟨i, hi, q, hq, old, ⟨ho, hz⟩, m, hm, h⟩ := h
    exact .inr (.inr (.inr (.inr ⟨rfl, i, q, old, m, hi, hq, ho, hz, hm, h⟩)))

variable [LawfulBEq D]

/-- What an accepted event does to the history: a retained one changes nothing, and
a new one is appended. -/
theorem apply_cases {l l' : SimulationLedger D} {e : FinancialEvent D} (h : l.apply e = .ok l') :
    (l' = l ∧ e ∈ l.events) ∨
    ((∀ x ∈ l.events, x.eventId ≠ e.eventId) ∧ (e.currency = none ∨ e.currency = some l.currency) ∧
      e.sequence = l.events.length + 1 ∧ (e.kind = .openingCash ↔ l.events = []) ∧
      ∃ s', transition l.state e = .ok s' ∧
        l' = ⟨l.currency, l.events ++ [e], s', simulationOnlyAuthority⟩) := by
  simp only [SimulationLedger.apply, raiseIf_bind_eq_ok] at h
  obtain ⟨hc, h⟩ := h
  split at h
  · rename_i x hx
    simp only [raiseIf_bind_eq_ok, pure_eq_ok, bne_iff_ne, ne_eq, not_not] at h
    exact .inl ⟨h.2.symm, h.1 ▸ List.mem_of_find?_eq_some hx⟩
  · rename_i hx
    simp only [bind_eq_ok, raiseIf_eq_ok, exists_const, pure_eq_ok, not_and, not_not] at h
    obtain ⟨hs, hf, ho, s', ht, rfl⟩ := h
    refine .inr ⟨fun y hy e' => ?_, ?_, hs, ⟨fun hk => ?_, hf⟩, s', ht, rfl⟩
    · simpa [e'] using List.find?_eq_none.mp hx y hy
    · by_cases hn : e.currency = none
      · exact .inl hn
      · exact .inr (not_not.mp fun hne => hc ⟨hn, hne⟩)
    · exact not_not.mp fun hne => ho hne hk

/-- A retained event of a ledger with distinct event ids, applied again. -/
theorem apply_retained {l : SimulationLedger D} {e : FinancialEvent D} (he : e ∈ l.events)
    (hn : (l.events.map FinancialEvent.eventId).Nodup)
    (hc : e.currency = none ∨ e.currency = some l.currency) : l.apply e = .ok l := by
  have hfind : l.events.find? (fun item => item.eventId = e.eventId) = some e := by
    cases hf : l.events.find? fun item => item.eventId = e.eventId with
    | none => simpa using List.find?_eq_none.mp hf e he
    | some x =>
      have hx : x.eventId = e.eventId := by simpa using List.find?_some hf
      rw [List.inj_on_of_nodup_map hn (List.mem_of_find?_eq_some hf) he hx]
  simp only [SimulationLedger.apply, raiseIf_bind_eq_ok, hfind, pure_eq_ok, and_true]
  refine ⟨?_, by simp⟩
  rintro ⟨h₁, h₂⟩
  exact hc.elim h₁ h₂

end Cases

/-! ## Positions -/

/-- A position that long-only, average-cost accounting allows. -/
structure Solvent (p : PositionState ℚ) : Prop where
  quantity : 0 ≤ p.quantity
  costBasis : 0 ≤ p.costBasis
  closed : p.quantity = 0 → p.costBasis = 0

/-- One position and the cash move together: what the cash gains, the cost basis
loses or the realised profit gains. -/
structure Move (old new : PositionState ℚ) (cash : ℚ) : Prop where
  balance : cash + (new.costBasis - old.costBasis) = new.realisedPnl - old.realisedPnl
  solvent : Solvent new

theorem divide_eq_ok {a b c : ℚ} : divide a b = .ok c ↔ b ≠ 0 ∧ a / b = c := by
  simp [divide]

/-- Selling `s` of `q` at average cost leaves the same share of the cost basis. -/
theorem remaining_basis {q c s : ℚ} (hq : q ≠ 0) : c - c / q * s = c * ((q - s) / q) := by
  field_simp

theorem tradePosition_quantity {D : Type} [Zero D] [Add D] [Sub D] [Neg D] [Mul D] [Div D] [BEq D] [LT D]
    [DecidableLT D] {old new : PositionState D} {i : InstrumentId} {q u : D}
    (h : tradePosition old i q u = .ok new) : new.instrumentId = i ∧ new.quantity = old.quantity + q := by
  simp only [tradePosition, raiseIf_bind_eq_ok] at h
  obtain ⟨-, h⟩ := h
  split at h
  · cases h
    exact ⟨rfl, rfl⟩
  · simp only [bind_eq_ok, pure_eq_ok, pure_bind] at h
    obtain ⟨_, -, _, -, rfl⟩ := h
    exact ⟨rfl, rfl⟩

theorem tradePosition_move {old new : PositionState ℚ} {i : InstrumentId} {q u : ℚ} (hu : 0 < u)
    (ho : Solvent old) (h : tradePosition old i q u = .ok new) : Move old new (-(q * u)) := by
  simp only [tradePosition, raiseIf_bind_eq_ok, not_lt] at h
  obtain ⟨hnew, h⟩ := h
  by_cases hq : 0 < q
  · -- a purchase adds its amount to the cost basis
    have hz : old.quantity + q ≠ 0 := by linarith [ho.quantity]
    simp only [if_pos hq, pure_bind, pure_eq_ok, beq_iff_eq, if_neg hz] at h
    subst h
    refine ⟨by simp, hnew, ?_, fun h => absurd h hz⟩
    exact add_nonneg ho.costBasis (mul_nonneg hq.le hu.le)
  · -- a sale takes its share of the cost basis out, and realises the rest of its proceeds
    simp only [if_neg hq, bind_eq_ok, raiseIf_eq_ok, exists_const, divide_eq_ok,
      pure_eq_ok, pure_bind, beq_iff_eq] at h
    obtain ⟨h0, _, ⟨-, rfl⟩, rfl⟩ := h
    by_cases hz : old.quantity + q = 0
    · have hq' : q = -old.quantity := by linarith
      refine ⟨?_, hnew, ?_, fun _ => ?_⟩
      · simp only [if_pos hz]
        rw [hq']
        field_simp
        ring
      · simp [hz]
      · simp [hz]
    · have hpos : 0 < old.quantity := lt_of_le_of_ne ho.quantity (Ne.symm h0)
      refine ⟨?_, hnew, ?_, fun h => absurd h hz⟩
      · simp only [if_neg hz]
        ring
      · simp only [if_neg hz]
        rw [remaining_basis h0]
        exact mul_nonneg ho.costBasis (div_nonneg (by linarith) hpos.le)

theorem validateAmounts_of_postInit {e : FinancialEvent ℚ} (he : e.postInit = .ok ()) :
    e.validateAmounts = .ok () := by
  simp only [FinancialEvent.postInit, FinancialEvent.validateShape, bind_eq_ok] at he
  obtain ⟨_, -, _, -, _, -, h⟩ := he
  exact h

theorem trade_amount_pos {e : FinancialEvent ℚ} (he : e.postInit = .ok ()) (hk : e.kind = .trade)
    {u : ℚ} (hu : e.unitAmount = some u) : 0 < u := by
  have h := validateAmounts_of_postInit he
  simp only [FinancialEvent.validateAmounts, hk, bind_eq_ok, raiseIf_eq_ok, exists_const] at h
  simpa [hu] using h.2.1

theorem split_factor_pos {e : FinancialEvent ℚ} (he : e.postInit = .ok ()) (hk : e.kind = .split)
    {q : ℚ} (hq : e.quantity = some q) : 0 < q := by
  have h := validateAmounts_of_postInit he
  simp only [FinancialEvent.validateAmounts, hk, bind_eq_ok, raiseIf_eq_ok, exists_const] at h
  simpa [hq] using h.1

/-! ## States -/

/-- The state balances against the funding that it received. -/
structure Balanced (s : LedgerState ℚ) (funds : ℚ) : Prop where
  instruments : (s.positions.map PositionState.instrumentId).Nodup
  solvent : ∀ p ∈ s.positions, Solvent p
  cash : s.cash = funds - sumBy PositionState.costBasis s.positions +
    sumBy PositionState.realisedPnl s.positions
  realised : s.realisedPnl = sumBy PositionState.realisedPnl s.positions
  unrealised : s.unrealisedPnl = sumBy PositionState.unrealisedPnl s.positions
  value : s.portfolioValue = s.cash + sumBy PositionState.marketValue s.positions

theorem balanced_empty (c : Currency) : Balanced (SimulationLedger.empty c : SimulationLedger ℚ).state 0 := by
  refine ⟨List.nodup_nil, fun p hp => absurd hp List.not_mem_nil, ?_, rfl, rfl, ?_⟩ <;>
    simp [SimulationLedger.empty, sumBy]

theorem settle_eq_ok {c : Currency} {cash : ℚ} {d : List (InstrumentId × PositionState ℚ)} {s : LedgerState ℚ}
    (h : settle c cash d = .ok s) :
    s.currency = c ∧ s.cash = cash ∧ s.positions.Perm (values d) ∧
      s.realisedPnl = sumBy PositionState.realisedPnl s.positions ∧
      s.unrealisedPnl = sumBy PositionState.unrealisedPnl s.positions ∧
      s.portfolioValue = s.cash + sumBy PositionState.marketValue s.positions := by
  simp only [settle, raiseIf_bind_eq_ok, pure_eq_ok] at h
  obtain ⟨-, rfl⟩ := h
  exact ⟨rfl, rfl, List.perm_insertionSort _ _, rfl, rfl, rfl⟩

theorem sumBy_perm {α : Type} (f : α → ℚ) {l m : List α} (h : l.Perm m) : sumBy f l = sumBy f m := by
  rw [sumBy_eq, sumBy_eq, (h.map f).sum_eq]

/-- The positions of a settled state are those of the dictionary, one per instrument. -/
theorem settle_book {c : Currency} {cash : ℚ} {d : List (InstrumentId × PositionState ℚ)} {s : LedgerState ℚ}
    (h : settle c cash d = .ok s) (hk : Dict.Keyed PositionState.instrumentId d) (hn : (Dict.keys d).Nodup) :
    (s.positions.map PositionState.instrumentId).Nodup ∧ ∀ i, get? i (book s) = get? i d := by
  obtain ⟨-, -, hperm, -⟩ := settle_eq_ok h
  have hnodup : (s.positions.map PositionState.instrumentId).Nodup := by
    rw [(hperm.map _).nodup_iff, Dict.map_values_of_keyed hk]
    exact hn
  refine ⟨hnodup, fun i => Option.ext fun p => ?_⟩
  rw [Dict.get?_ofKeys hnodup, hperm.mem_iff]
  constructor
  · rintro ⟨hp, rfl⟩
    obtain ⟨⟨k, v⟩, hv, rfl⟩ := List.mem_map.mp hp
    exact Dict.get?_of_mem hn (hk _ hv ▸ hv)
  · intro hp
    have hmem := Dict.mem_of_get? hp
    exact ⟨List.mem_map_of_mem hmem, hk _ hmem⟩

/-- Writing one position keeps the dictionary of a state keyed. -/
theorem keyed_book (s : LedgerState ℚ) {i : InstrumentId} {new : PositionState ℚ} (hi : new.instrumentId = i) :
    Dict.Keyed PositionState.instrumentId (Dict.set i new (book s)) ∧
      (Dict.keys (Dict.set i new (book s))).Nodup :=
  ⟨Dict.keyed_set (Dict.keyed_ofKeys _ _) hi, Dict.nodup_keys_set (Dict.nodup_keys_ofKeys _ _) i new⟩

/-- Settling after one position and the cash have moved together. -/
theorem Balanced.move {s s' : LedgerState ℚ} {funds : ℚ} {i : InstrumentId} {old : PositionState ℚ}
    (hs : Balanced s funds) (new : PositionState ℚ) (cash : ℚ)
    (hold : get? i (book s) = some old ∨
      get? i (book s) = none ∧ old.costBasis = 0 ∧ old.realisedPnl = 0)
    (hi : new.instrumentId = i) (hm : Move old new cash)
    (h : settle s.currency (s.cash + cash) (Dict.set i new (book s)) = .ok s') : Balanced s' funds := by
  obtain ⟨-, hcash, hperm, hr, hu, hv⟩ := settle_eq_ok h
  have hvals : values (book s) = s.positions := Dict.values_ofKeys_of_nodup hs.instruments
  have hsum (f : PositionState ℚ → ℚ) (hf : f old = 0 ∨ get? i (book s) = some old) :
      sumBy f s'.positions = sumBy f s.positions - f old + f new := by
    rw [sumBy_perm f hperm, sumBy_eq, sumBy_eq, Dict.sum_values_set, hvals]
    rcases hold with ho | ⟨ho, -⟩ <;> rcases hf with hf | hf <;> simp_all
  have hbasis := hsum PositionState.costBasis (hold.elim .inr fun h => .inl h.2.1)
  have hreal := hsum PositionState.realisedPnl (hold.elim .inr fun h => .inl h.2.2)
  refine ⟨(settle_book h (keyed_book s hi).1 (keyed_book s hi).2).1, fun p hp => ?_, ?_, hr, hu, hv⟩
  · rcases Dict.mem_values_set (hperm.mem_iff.mp hp) with rfl | hp
    · exact hm.solvent
    · exact hs.solvent p (hvals ▸ hp)
  · rw [hcash, hs.cash, hbasis, hreal]
    linarith [hm.balance]

theorem Balanced.get_book {s : LedgerState ℚ} {funds : ℚ} (hs : Balanced s funds) {i : InstrumentId}
    {p : PositionState ℚ} (h : get? i (book s) = some p) : Solvent p ∧ p.instrumentId = i := by
  obtain ⟨hp, hi⟩ := (Dict.get?_ofKeys hs.instruments).mp h
  exact ⟨hs.solvent p hp, hi⟩

/-- One event of the ledger: it adds its funding, and nothing else enters the balance. -/
theorem Balanced.transition {s s' : LedgerState ℚ} {funds : ℚ} {e : FinancialEvent ℚ}
    (hs : Balanced s funds) (he : e.postInit = .ok ()) (h : transition s e = .ok s') :
    Balanced s' (funds + funding [e]) := by
  have hfund : e.kind.funding = false → funding [e] = 0 := fun hk => by simp [funding, sumBy, hk]
  rcases transition_cases h with ⟨hk, δ, hδ, h⟩ | ⟨hk, i, q, u, p, -, -, hu, hp, h⟩ |
    ⟨hk, i, u, old, -, -, hold, hz, h⟩ | ⟨hk, i, u, old, -, -, hold, hz, h⟩ |
    ⟨hk, i, q, old, m, -, hq, hold, hz, -, h⟩
  · obtain ⟨-, hcash, hperm, hr, hu, hv⟩ := settle_eq_ok h
    rw [Dict.values_ofKeys_of_nodup hs.instruments] at hperm
    refine ⟨(hperm.map _).nodup_iff.mpr hs.instruments,
      fun p hp => hs.solvent p (hperm.mem_iff.mp hp), ?_, hr, hu, hv⟩
    rw [hcash, hs.cash, sumBy_perm _ hperm, sumBy_perm _ hperm]
    simp only [funding, sumBy, List.foldl_cons, List.foldl_nil, hk, if_true, hδ, Option.getD_some]
    ring
  · rw [hfund (by rw [hk]; rfl), add_zero]
    have hu0 := trade_amount_pos he hk hu
    have hsolvent : Solvent (before s i u) := by
      cases hg : get? i (book s) with
      | none => rw [before, hg]; exact ⟨le_refl 0, le_refl 0, fun _ => rfl⟩
      | some old => rw [before, hg]; exact (hs.get_book hg).1
    refine hs.move p (-(q * u)) ?_ (tradePosition_quantity hp).1 (tradePosition_move hu0 hsolvent hp)
      (by rwa [← sub_eq_add_neg])
    cases hg : get? i (book s) with
    | none => right; simp [before, hg]
    | some old => left; simp [before, hg]
  · rw [hfund (by rw [hk]; rfl), add_zero]
    obtain ⟨ho, hi⟩ := hs.get_book hold
    exact hs.move { old with markPrice := u } 0 (.inl hold) hi
      ⟨by simp, ho.quantity, ho.costBasis, ho.closed⟩ (by simpa using h)
  · rw [hfund (by rw [hk]; rfl), add_zero]
    obtain ⟨ho, hi⟩ := hs.get_book hold
    exact hs.move { old with realisedPnl := old.realisedPnl + old.quantity * u } _ (.inl hold) hi
      ⟨by simp, ho.quantity, ho.costBasis, ho.closed⟩ h
  · rw [hfund (by rw [hk]; rfl), add_zero]
    obtain ⟨ho, hi⟩ := hs.get_book hold
    have hq0 := split_factor_pos he hk hq
    refine hs.move { old with quantity := old.quantity * q, markPrice := m } 0 (.inl hold)
      hi ⟨by simp, mul_nonneg ho.quantity hq0.le, ho.costBasis, fun h0 => ?_⟩ (by simpa using h)
    exact ho.closed ((mul_eq_zero.mp h0).resolve_right hq0.ne')

/-! ## Histories -/

section History

variable {D : Type}

/-- What every ledger keeps about its history. -/
structure Chronicle (l : SimulationLedger D) : Prop where
  ids : (l.events.map FinancialEvent.eventId).Nodup
  sequence : ∀ i e, l.events[i]? = some e → e.sequence = i + 1
  opening : ∀ i e, l.events[i]? = some e → (e.kind = .openingCash ↔ i = 0)
  currency : ∀ e ∈ l.events, e.currency = none ∨ e.currency = some l.currency

theorem Chronicle.empty [Zero D] (c : Currency) : Chronicle (SimulationLedger.empty c : SimulationLedger D) :=
  ⟨List.nodup_nil, fun i e h => by simp [SimulationLedger.empty] at h,
    fun i e h => by simp [SimulationLedger.empty] at h, fun e h => absurd h List.not_mem_nil⟩

variable [Zero D] [Add D] [Sub D] [Neg D] [Mul D] [Div D] [BEq D] [LT D] [DecidableLT D] [LawfulBEq D]

theorem Chronicle.apply {l l' : SimulationLedger D} {e : FinancialEvent D}
    (hl : Chronicle l) (h : l.apply e = .ok l') : Chronicle l' := by
  rcases apply_cases h with ⟨rfl, -⟩ | ⟨hid, hc, hs, ho, s', -, rfl⟩
  · exact hl
  · have hlast : ∀ i x, (l.events ++ [e])[i]? = some x →
        l.events[i]? = some x ∨ i = l.events.length ∧ x = e := by
      intro i x hx
      rcases Nat.lt_or_ge i l.events.length with hi | hi
      · rw [List.getElem?_append_left hi] at hx
        exact .inl hx
      · rw [List.getElem?_append_right hi, List.getElem?_singleton] at hx
        split at hx
        · exact .inr ⟨by omega, by simpa using hx.symm⟩
        · cases hx
    refine ⟨?_, fun i x hx => ?_, fun i x hx => ?_, fun x hx => ?_⟩
    · rw [List.map_append, List.nodup_append]
      refine ⟨hl.ids, List.nodup_singleton _, fun a ha b hb => ?_⟩
      obtain ⟨x, hx, rfl⟩ := List.mem_map.mp ha
      rw [List.map_singleton, List.mem_singleton] at hb
      exact hb ▸ hid x hx
    · rcases hlast i x hx with hx | ⟨rfl, rfl⟩
      · exact hl.sequence i x hx
      · exact hs
    · rcases hlast i x hx with hx | ⟨rfl, rfl⟩
      · exact hl.opening i x hx
      · rw [ho, List.length_eq_zero_iff]
    · rcases List.mem_append.mp hx with hx | hx
      · exact hl.currency x hx
      · rw [List.mem_singleton.mp hx]
        exact hc

theorem replay_chronicle {c : Currency} {events : List (FinancialEvent D)} {l : SimulationLedger D}
    (h : SimulationLedger.replay c events = .ok l) : Chronicle l :=
  foldlM_ok_induction Chronicle (fun _ _ _ _ hl hp => hp.apply hl) h (Chronicle.empty c)

/-- A ledger retains the events that it was given, and no others. -/
theorem replay_events {c : Currency} {events : List (FinancialEvent D)} {l : SimulationLedger D}
    (h : SimulationLedger.replay c events = .ok l) (e : FinancialEvent D) : e ∈ l.events ↔ e ∈ events := by
  suffices ∀ l₀ : SimulationLedger D, events.foldlM SimulationLedger.apply l₀ = .ok l →
      (e ∈ l.events ↔ e ∈ l₀.events ∨ e ∈ events) by
    simpa [SimulationLedger.empty] using this _ h
  clear h
  induction events with
  | nil => rintro l₀ h; cases h; simp
  | cons x events ih =>
    intro l₀ h
    obtain ⟨l₁, h₁, h₂⟩ := bind_eq_ok.mp h
    rw [ih l₁ h₂]
    rcases apply_cases h₁ with ⟨rfl, hx⟩ | ⟨-, -, -, -, s', -, rfl⟩
    · simp only [List.mem_cons]
      exact ⟨fun h => h.imp_right .inr, fun h => h.elim .inl fun h => h.elim (fun h => .inl (h ▸ hx)) .inr⟩
    · simp [or_assoc]

/-- A retained funding event carries its amount. -/
theorem replay_cashDelta {c : Currency} {events : List (FinancialEvent D)} {l : SimulationLedger D}
    (h : SimulationLedger.replay c events = .ok l) :
    ∀ e ∈ l.events, e.kind.funding = true → e.cashDelta.isSome := by
  refine foldlM_ok_induction (fun l : SimulationLedger D => ∀ e ∈ l.events, e.kind.funding = true →
    e.cashDelta.isSome) (fun l e l' _ hl hp x hx hk => ?_) h fun e he => absurd he List.not_mem_nil
  rcases apply_cases hl with ⟨rfl, -⟩ | ⟨-, -, -, -, s', ht, rfl⟩
  · exact hp x hx hk
  · rcases List.mem_append.mp hx with hx | hx
    · exact hp x hx hk
    · rw [List.mem_singleton.mp hx] at hk ⊢
      rcases transition_cases ht with ⟨-, δ, hδ, -⟩ | ⟨ht, -⟩ | ⟨ht, -⟩ | ⟨ht, -⟩ | ⟨ht, -⟩
      · rw [hδ]; rfl
      all_goals rw [ht] at hk; cases hk

end History

/-! ## Ledgers -/

/-- A ledger whose history is in order, and whose state balances against its funding. -/
structure Accounts (l : SimulationLedger ℚ) : Prop where
  history : Chronicle l
  balanced : Balanced l.state (funding l.events)

theorem Accounts.empty (c : Currency) : Accounts (SimulationLedger.empty c) :=
  ⟨Chronicle.empty c, balanced_empty c⟩

theorem Accounts.apply {l l' : SimulationLedger ℚ} {e : FinancialEvent ℚ} (hl : Accounts l)
    (he : e.postInit = .ok ()) (h : l.apply e = .ok l') : Accounts l' := by
  refine ⟨hl.history.apply h, ?_⟩
  rcases apply_cases h with ⟨rfl, -⟩ | ⟨-, -, -, -, s', ht, rfl⟩
  · exact hl.balanced
  · simp only [funding, sumBy_append]
    exact hl.balanced.transition he ht

/-- Every ledger that a replay of constructed events returns. -/
theorem replay_accounts {c : Currency} {events : List (ConstructedEvent ℚ)} {l : SimulationLedger ℚ}
    (h : SimulationLedger.replay c (events.map Subtype.val) = .ok l) : Accounts l := by
  refine foldlM_ok_induction Accounts (fun l e l' he hl hp => ?_) h (Accounts.empty c)
  obtain ⟨⟨e, hinit⟩, -, rfl⟩ := List.mem_map.mp he
  exact hp.apply hinit hl

theorem Balanced.portfolioValue {s : LedgerState ℚ} {funds : ℚ} (hs : Balanced s funds) :
    s.portfolioValue = funds + s.realisedPnl + s.unrealisedPnl := by
  have h : sumBy PositionState.unrealisedPnl s.positions =
      sumBy PositionState.marketValue s.positions - sumBy PositionState.costBasis s.positions := by
    rw [eq_sub_iff_add_eq, sumBy_eq, sumBy_eq, sumBy_eq, ← List.sum_map_add]
    simp [PositionState.unrealisedPnl]
  rw [hs.value, hs.cash, hs.realised, hs.unrealised, h]
  ring

theorem Accounts.apply_retained {l : SimulationLedger ℚ} (hl : Accounts l) {e : FinancialEvent ℚ}
    (he : e ∈ l.events) : l.apply e = .ok l :=
  Ledger.apply_retained he hl.history.ids (hl.history.currency e he)

/-- The accounting identity: every ledger that a replay accepts balances, is long
only at average cost, has its history in order, and is stable under its own events. -/
theorem replay_accounting (c : Currency) (events : List (ConstructedEvent ℚ)) (l : SimulationLedger ℚ)
    (h : SimulationLedger.replay c (events.map Subtype.val) = .ok l) :
    (∀ e, e ∈ l.events ↔ e ∈ events.map Subtype.val) ∧
    l.state.cash = funding l.events - sumBy PositionState.costBasis l.state.positions +
      sumBy PositionState.realisedPnl l.state.positions ∧
    l.state.realisedPnl = sumBy PositionState.realisedPnl l.state.positions ∧
    l.state.unrealisedPnl = sumBy PositionState.unrealisedPnl l.state.positions ∧
    l.state.portfolioValue = funding l.events + l.state.realisedPnl + l.state.unrealisedPnl ∧
    (∀ p ∈ l.state.positions, 0 ≤ p.quantity ∧ 0 ≤ p.costBasis ∧ (p.quantity = 0 → p.costBasis = 0)) ∧
    (l.state.positions.map PositionState.instrumentId).Nodup ∧
    (l.events.map FinancialEvent.eventId).Nodup ∧
    (∀ i e, l.events[i]? = some e → e.sequence = i + 1 ∧ (e.kind = .openingCash ↔ i = 0)) ∧
    ∀ e ∈ l.events, l.apply e = .ok l := by
  have ha := replay_accounts h
  have hs := ha.balanced
  refine ⟨replay_events h, hs.cash, hs.realised, hs.unrealised, hs.portfolioValue, fun p hp => ?_,
    hs.instruments, ha.history.ids, fun i e he => ?_, fun e he => ha.apply_retained he⟩
  · exact ⟨(hs.solvent p hp).quantity, (hs.solvent p hp).costBasis, (hs.solvent p hp).closed⟩
  · exact ⟨ha.history.sequence i e he, ha.history.opening i e he⟩

/-! ### A sample account -/

namespace Sample

def gbp : Currency := ⟨"GBP"⟩
def run : ResearchRunId := ⟨"atis:research:run:v1:sha256:" ++ String.ofList (List.replicate 64 '1')⟩
def evidence : EvidenceContentDigest := ⟨"sha256:" ++ String.ofList (List.replicate 64 '2')⟩
/-- The hour of the sample day. -/
def clock (hour : Nat) (h : hour < 24) : Timestamp :=
  ⟨⟨2026, 1, 5, hour, 0, 0, 0, ⟨by decide, by decide, by decide, h, by decide, by decide, by decide⟩⟩⟩

def nine : Timestamp := clock 9 (by decide)
def ten : Timestamp := clock 10 (by decide)
def eleven : Timestamp := clock 11 (by decide)
def noon : Timestamp := clock 12 (by decide)
def instrument : InstrumentId := ⟨.ofInt 0x12345678123441238123123456789abc⟩
def action : ActionVersionId := ⟨"atis:corporate-action-version:v1:" ++ String.ofList (List.replicate 64 '3')⟩

/-- Opening cash of 1000, ten bought at 20, a two-for-one split, eight sold at 15, a
dividend and a mark; the sale arrives twice. -/
def records : List (FinancialEvent ℚ) :=
  let base (n : Nat) (kind : FinancialEventKind) : FinancialEvent ℚ :=
    { eventId := ⟨LedgerEventId.lead ++ "e" ++ toString n⟩, sequence := n, occurredAt := nine,
      kind := kind, researchRunId := run, evidenceDigest := evidence }
  [{ base 1 .openingCash with currency := some gbp, cashDelta := some 1000 },
   { base 2 .trade with
      currency := some gbp, instrumentId := some instrument, quantity := some 10, unitAmount := some 20 },
   { base 3 .split with
      instrumentId := some instrument, quantity := some 2, corporateActionVersionId := some action },
   { base 4 .trade with
      currency := some gbp, instrumentId := some instrument, quantity := some (-8), unitAmount := some 15 },
   { base 4 .trade with
      currency := some gbp, instrumentId := some instrument, quantity := some (-8), unitAmount := some 15 },
   { base 5 .cashDividend with
      currency := some gbp, instrumentId := some instrument, unitAmount := some (1 / 4),
      corporateActionVersionId := some action },
   { base 6 .mark with currency := some gbp, instrumentId := some instrument, unitAmount := some 12 }]

theorem records_constructed : ∀ e ∈ records, e.postInit = .ok () := by decide +kernel

def events : List (ConstructedEvent ℚ) := records.attachWith _ records_constructed

end Sample

theorem replay_accounting_sample : ∃ l : SimulationLedger ℚ,
    SimulationLedger.replay Sample.gbp (Sample.events.map Subtype.val) = .ok l ∧
    l.events.length = 6 ∧ l.state.cash = 923 ∧
    l.state.portfolioValue = funding l.events + l.state.realisedPnl + l.state.unrealisedPnl := by
  have hok : ((SimulationLedger.replay Sample.gbp (Sample.events.map Subtype.val)).toOption.map
      fun l => (l.events.length, l.state.cash)) = some (6, 923) := by decide +kernel
  obtain ⟨l, hl, hv⟩ := Option.map_eq_some_iff.mp hok
  have h := ok_of_toOption hl
  rw [Prod.mk.injEq] at hv
  exact ⟨l, h, hv.1, hv.2, (replay_accounting _ _ l h).2.2.2.2.1⟩

end ATB.Proof.Ledger
