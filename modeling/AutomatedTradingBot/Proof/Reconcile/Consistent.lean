import AutomatedTradingBot.Proof.Execution
import AutomatedTradingBot.Source.Reconcile

/-!
# What `reconcile` decides

`reconciled_iff`: a pair of histories reconciles exactly when it is `Consistent`.
Each stage is characterised by when it adds nothing (`Clean`), so the whole check
is the conjunction of its stages. The loop over the attempts is the only one with
a memory: `loop_spec` takes it from the back, one attempt at a time, with the
cumulative quantities of the prefix (`executed`) and the histories of the orders
(`History`) as its invariant.
-/

namespace ATB.Proof.Reconcile

open Execution Ledger
open Dict (get?)

/-! ## Findings -/

/-- Nothing was found. -/
def Clean (f : Findings) : Prop := f.items = [] ∧ f.invalid = false

theorem add_items_ne_nil (f : Findings) (code : DiscrepancyCode) (subject : String) :
    (f.add code subject).items ≠ [] := by
  unfold Findings.add
  split
  · rename_i h
    exact List.ne_nil_of_mem h
  · simp

@[simp] theorem not_clean_add (f : Findings) (code : DiscrepancyCode) (subject : String) :
    ¬ Clean (f.add code subject) := fun h => add_items_ne_nil f code subject h.1

@[simp] theorem clean_addIf {f : Findings} {c : Prop} [Decidable c] {code : DiscrepancyCode} {subject : String} :
    Clean (f.addIf c code subject) ↔ Clean f ∧ ¬ c := by
  by_cases h : c <;> simp [Findings.addIf, h]

@[simp] theorem not_clean_reject (f : Findings) (subject : String) : ¬ Clean (f.reject subject) :=
  fun h => Bool.noConfusion h.2

@[simp] theorem clean_rejectIf {f : Findings} {c : Prop} [Decidable c] {subject : String} :
    Clean (f.rejectIf c subject) ↔ Clean f ∧ ¬ c := by
  by_cases h : c <;> simp [Findings.rejectIf, h]

/-- A loop that checks its items one by one. -/
theorem clean_foldl {α : Type} {step : Findings → α → Findings} {P : α → Prop} {l : List α}
    (hstep : ∀ f, ∀ x ∈ l, Clean (step f x) ↔ Clean f ∧ P x) (f : Findings) :
    Clean (l.foldl step f) ↔ Clean f ∧ ∀ x ∈ l, P x := by
  induction l generalizing f with
  | nil => simp
  | cons x l ih =>
    rw [List.foldl_cons, ih (fun f y hy => hstep f y (List.mem_cons_of_mem _ hy)),
      hstep f x (List.mem_cons_self ..), List.forall_mem_cons, and_assoc]

theorem clean_checkCounts {κ : Type} [DecidableEq κ] {code : DiscrepancyCode} {str : κ → String} {l : List κ}
    {f : Findings} : Clean (checkCounts code str l f) ↔ Clean f ∧ l.Nodup := by
  rw [checkCounts, clean_foldl (P := fun p : κ × Nat => p.2 = 1), Dict.counter_all_one]
  rintro f ⟨k, n⟩ -
  simp

/-! ## The attempts -/

/-- The fill that an attempt carries. -/
def fillOf (fills : List (SimulatedFill ℚ)) (a : ExecutionAttempt ℚ) : Option (SimulatedFill ℚ) :=
  a.fillId.bind fun i => get? i (Dict.ofKeys SimulatedFill.fillId fills)

/-- The quantity that a sequence of attempts executes. -/
def executed (fills : List (SimulatedFill ℚ)) (attempts : List (ExecutionAttempt ℚ)) : ℚ :=
  sumBy SimulatedFill.quantity (attempts.filterMap (fillOf fills))

theorem history_append {fills : List (SimulatedFill ℚ)} {quantity total : ℚ} {l : List (ExecutionAttempt ℚ)}
    {a : ExecutionAttempt ℚ} : History fills quantity (l ++ [a]) total ↔
      ∃ done, History fills quantity l done ∧ a.requestedQuantity ≤ quantity - done ∧
        ((a.fillId = none ∧ a.outcome = .unfilled ∧ total = done) ∨
          ∃ f ∈ fills, a.fillId = some f.fillId ∧ f.orderId = a.orderId ∧ f.quantity ≤ a.requestedQuantity ∧
            a.outcome = statusAt quantity (done + f.quantity) ∧ total = done + f.quantity) := by
  constructor
  · intro h
    generalize hl : l ++ [a] = l' at h
    cases h with
    | start => simp at hl
    | miss past hid ho hr =>
      obtain ⟨rfl, h⟩ := List.append_inj' hl rfl
      cases h
      exact ⟨_, past, hr, .inl ⟨hid, ho, rfl⟩⟩
    | fill past hm hid hoid hc hr ho =>
      obtain ⟨rfl, h⟩ := List.append_inj' hl rfl
      cases h
      exact ⟨_, past, hr, .inr ⟨_, hm, hid, hoid, hc, ho, rfl⟩⟩
  · rintro ⟨done, past, hr, ⟨hid, ho, rfl⟩ | ⟨f, hm, hid, hoid, hc, ho, rfl⟩⟩
    · exact .miss past hid ho hr
    · exact .fill past hm hid hoid hc hr ho

theorem fillOf_of_mem {fills : List (SimulatedFill ℚ)} (hn : (fills.map SimulatedFill.fillId).Nodup)
    {f : SimulatedFill ℚ} (hf : f ∈ fills) {a : ExecutionAttempt ℚ} (ha : a.fillId = some f.fillId) :
    fillOf fills a = some f := by
  rw [fillOf, ha, Option.bind_some]
  exact (Dict.get?_ofKeys hn).mpr ⟨hf, rfl⟩

/-- A history executes the fills that its attempts carry. -/
theorem history_total {fills : List (SimulatedFill ℚ)} (hn : (fills.map SimulatedFill.fillId).Nodup)
    {quantity total : ℚ} {l : List (ExecutionAttempt ℚ)} (h : History fills quantity l total) :
    total = executed fills l := by
  induction h with
  | start => rfl
  | miss _ hid _ _ ih =>
    rw [ih]
    simp [executed, fillOf, hid]
  | fill _ hm hid _ _ _ _ ih =>
    rw [ih]
    simp [executed, fillOf_of_mem hn hm hid, sumBy]

theorem history_mem {fills : List (SimulatedFill ℚ)} {quantity total : ℚ} {l : List (ExecutionAttempt ℚ)}
    (h : History fills quantity l total) {a : ExecutionAttempt ℚ} (ha : a ∈ l) {i : TradeId}
    (hi : a.fillId = some i) : ∃ f ∈ fills, f.fillId = i ∧ f.orderId = a.orderId := by
  induction h with
  | start => cases ha
  | miss _ hid _ _ ih =>
    rcases List.mem_append.mp ha with ha | ha
    · exact ih ha
    · rw [List.mem_singleton.mp ha, hid] at hi
      cases hi
  | fill _ hm hid ho _ _ _ ih =>
    rcases List.mem_append.mp ha with ha | ha
    · exact ih ha
    · rw [List.mem_singleton] at ha
      subst ha
      rw [hid] at hi
      cases hi
      exact ⟨_, hm, rfl, ho⟩

/-- What one iteration checks, when `done` was executed before. -/
structure Sound (orders : List (OrderId × OrderRecord ℚ)) (fills : List (TradeId × SimulatedFill ℚ)) (done : ℚ)
    (a : ExecutionAttempt ℚ) : Prop where
  record : ∃ r, get? a.orderId orders = some r ∧ a.requestedQuantity ≤ r.order.quantity - done ∧
    ∀ i, a.fillId = some i → ∃ f, get? i fills = some f ∧ f.orderId = a.orderId ∧ 0 < f.quantity ∧
      f.quantity ≤ a.requestedQuantity ∧ a.outcome = statusAt r.order.quantity (done + f.quantity)
  missed : a.fillId = none → a.outcome = .unfilled ∧ a.reasons ≠ [] ∧ ∀ reason ∈ a.reasons, Text.nonblank reason
  filled : a.fillId ≠ none → a.reasons = []

theorem attempt_fillAttempts (orders : List (OrderId × OrderRecord ℚ)) (fills : List (TradeId × SimulatedFill ℚ))
    (t : Tally ℚ) (a : ExecutionAttempt ℚ) :
    (t.attempt orders fills a).fillAttempts =
      a.fillId.elim t.fillAttempts fun i => Dict.set i ((get? i t.fillAttempts).getD 0 + 1) t.fillAttempts := by
  cases hid : a.fillId with
  | none => simp [Tally.attempt, hid]
  | some i =>
    simp only [Tally.attempt, hid, Option.elim_some]
    split
    · rfl
    · split
      · rfl
      · split
        · rfl
        · split <;> rfl

/-- The quantity that the tally has counted for an order. -/
def counted (t : Tally ℚ) (i : OrderId) : ℚ := (get? i t.cumulative).getD 0

theorem statusAt_eq_or (quantity cumulative : ℚ) :
    statusAt quantity cumulative = .partiallyFilled ∨ statusAt quantity cumulative = .fullyFilled := by
  unfold statusAt
  split
  · exact .inr rfl
  · exact .inl rfl

section Iteration

variable {orders : List (OrderId × OrderRecord ℚ)} {fills : List (TradeId × SimulatedFill ℚ)} {t : Tally ℚ}
  {a : ExecutionAttempt ℚ}

/-- An iteration over an attempt without a fill. -/
theorem attempt_clean_none (hid : a.fillId = none) :
    Clean (t.attempt orders fills a).findings ↔
      Clean t.findings ∧ Sound orders fills (counted t a.orderId) a := by
  cases hr : get? a.orderId orders with
  | none =>
    simp only [Tally.attempt, hid, hr]
    constructor
    · intro h
      split at h
      · simp at h
      · simp at h
    · rintro ⟨-, h⟩
      obtain ⟨r, hr', -⟩ := h.record
      rw [hr] at hr'
      cases hr'
  | some r =>
    simp only [Tally.attempt, hid, hr]
    constructor
    · intro h
      split at h
      · simp at h
      · rename_i ho
        simp only [clean_addIf, not_or, not_lt, not_exists, not_and, not_not] at h ho
        exact ⟨h.1.1, ⟨r, hr, h.1.2, fun i hi => by rw [hid] at hi; cases hi⟩, fun _ => ⟨ho, h.2⟩,
          fun h => absurd hid h⟩
    · rintro ⟨hc, hrec, hmiss, -⟩
      obtain ⟨r', hr', hreq, -⟩ := hrec
      rw [hr] at hr'
      cases hr'
      obtain ⟨ho, hne, hnb⟩ := hmiss hid
      rw [if_neg (by simpa using ho)]
      simp only [clean_addIf, not_or, not_lt, not_exists, not_and, not_not]
      exact ⟨⟨hc, hreq⟩, hne, hnb⟩

/-- An iteration over an attempt that carries a fill of its order. -/
theorem attempt_eq {i : TradeId} {f : SimulatedFill ℚ} {r : OrderRecord ℚ} (hid : a.fillId = some i)
    (hr : get? a.orderId orders = some r) (hf : get? i fills = some f) (hq : 0 < f.quantity)
    (ho : f.orderId = a.orderId) :
    (Clean (t.attempt orders fills a).findings ↔
      Clean t.findings ∧ a.requestedQuantity ≤ r.order.quantity - counted t a.orderId ∧ a.reasons = [] ∧
        f.quantity ≤ a.requestedQuantity ∧
        a.outcome = statusAt r.order.quantity (counted t a.orderId + f.quantity)) ∧
    (Clean (t.attempt orders fills a).findings → get? i t.fillAttempts = none →
      (t.attempt orders fills a).cumulative =
        Dict.set a.orderId (counted t a.orderId + f.quantity) t.cumulative) := by
  simp only [Tally.attempt, hid, hr, hf, if_neg (not_le.mpr hq), if_neg (not_not.mpr ho), clean_addIf,
    not_or, not_and, not_not, not_lt]
  have hiff : ((((((Clean t.findings ∧ a.requestedQuantity ≤ r.order.quantity - counted t a.orderId) ∧
      (a.outcome ≠ .partiallyFilled → a.outcome = .fullyFilled)) ∧ a.reasons = []) ∧
      f.orderId = a.orderId) ∧ f.quantity ≤ a.requestedQuantity) ∧
      counted t a.orderId + f.quantity ≤ r.order.quantity ∧
      a.outcome = statusAt r.order.quantity (counted t a.orderId + f.quantity)) ↔
      Clean t.findings ∧ a.requestedQuantity ≤ r.order.quantity - counted t a.orderId ∧ a.reasons = [] ∧
        f.quantity ≤ a.requestedQuantity ∧
        a.outcome = statusAt r.order.quantity (counted t a.orderId + f.quantity) := by
    constructor
    · rintro ⟨⟨⟨⟨⟨⟨hc, hreq⟩, -⟩, hreasons⟩, -⟩, hcov⟩, -, hout⟩
      exact ⟨hc, hreq, hreasons, hcov, hout⟩
    · rintro ⟨hc, hreq, hreasons, hcov, hout⟩
      refine ⟨⟨⟨⟨⟨⟨hc, hreq⟩, fun hne => ?_⟩, hreasons⟩, ho⟩, hcov⟩, by linarith, hout⟩
      rw [hout] at hne ⊢
      exact (statusAt_eq_or _ _).resolve_left hne
  refine ⟨hiff, fun hclean hnone => ?_⟩
  obtain ⟨-, hreq, hreasons, hcov, hout⟩ := hiff.mp hclean
  have hne : a.outcome ≠ .partiallyFilled → a.outcome = .fullyFilled := hclean.1.1.1.1.2
  rw [if_pos]
  · rfl
  · exact ⟨by rw [hnone]; rfl, hne, hreasons, hcov, hreq, hclean.2⟩

/-- An iteration over an attempt with a fill. -/
theorem attempt_clean_some {i : TradeId} (hid : a.fillId = some i) :
    (Clean (t.attempt orders fills a).findings ↔
      Clean t.findings ∧ Sound orders fills (counted t a.orderId) a) ∧
    (Clean (t.attempt orders fills a).findings → get? i t.fillAttempts = none →
      ∃ f, get? i fills = some f ∧
        (t.attempt orders fills a).cumulative =
          Dict.set a.orderId (counted t a.orderId + f.quantity) t.cumulative) := by
  by_cases hgood : ∃ r f, get? a.orderId orders = some r ∧ get? i fills = some f ∧ 0 < f.quantity ∧
      f.orderId = a.orderId
  · obtain ⟨r, f, hr, hf, hq, ho⟩ := hgood
    obtain ⟨hiff, hcum⟩ := attempt_eq (t := t) hid hr hf hq ho
    refine ⟨hiff.trans (and_congr_right fun _ => ⟨?_, ?_⟩), fun hc hn => ⟨f, hf, hcum hc hn⟩⟩
    · rintro ⟨hreq, hreasons, hcov, hout⟩
      refine ⟨⟨r, hr, hreq, fun j hj => ?_⟩, fun h => ?_, fun _ => hreasons⟩
      · rw [hid] at hj
        cases hj
        exact ⟨f, hf, ho, hq, hcov, hout⟩
      · rw [hid] at h
        cases h
    · rintro ⟨⟨r', hr', hreq, hfill⟩, -, hreasons⟩
      obtain ⟨f', hf', -, -, hcov, hout⟩ := hfill i hid
      rw [hr] at hr'
      rw [hf] at hf'
      cases hr'
      cases hf'
      exact ⟨hreq, hreasons (by simp [hid]), hcov, hout⟩
  · have hsound : ¬ Sound orders fills (counted t a.orderId) a := by
      rintro ⟨⟨r, hr, -, hfill⟩, -, -⟩
      obtain ⟨f, hf, ho, hq, -⟩ := hfill i hid
      exact hgood ⟨r, f, hr, hf, hq, ho⟩
    have hbad : ¬ Clean (t.attempt orders fills a).findings := by
      intro h
      simp only [Tally.attempt, hid] at h
      split at h
      · simp at h
      · rename_i f hf
        split at h
        · simp at h
        · rename_i hq
          split at h
          · rename_i hr
            simp at h
          · rename_i r hr
            split at h
            · rename_i ho
              simp [ho] at h
            · rename_i ho
              exact hgood ⟨r, f, hr, hf, not_le.mp hq, not_not.mp ho⟩
    exact ⟨⟨fun h => absurd h hbad, fun h => absurd h.2 hsound⟩, fun h => absurd h hbad⟩

theorem attempt_clean : Clean (t.attempt orders fills a).findings ↔
    Clean t.findings ∧ Sound orders fills (counted t a.orderId) a := by
  cases hid : a.fillId with
  | none => exact attempt_clean_none hid
  | some i => exact (attempt_clean_some hid).1

end Iteration

section Loop

variable {orders : List (OrderId × OrderRecord ℚ)} {fs : List (SimulatedFill ℚ)}

/-- The loop over the attempts. -/
def loop (orders : List (OrderId × OrderRecord ℚ)) (fs : List (SimulatedFill ℚ)) (f : Findings)
    (attempts : List (ExecutionAttempt ℚ)) : Tally ℚ :=
  attempts.foldl (Tally.attempt orders (Dict.ofKeys SimulatedFill.fillId fs)) { findings := f }

theorem loop_append (f : Findings) (l : List (ExecutionAttempt ℚ)) (a : ExecutionAttempt ℚ) :
    loop orders fs f (l ++ [a]) =
      (loop orders fs f l).attempt orders (Dict.ofKeys SimulatedFill.fillId fs) a := by
  rw [loop, List.foldl_append]
  rfl

/-- The loop counts the fills that the attempts carry. -/
theorem loop_fillAttempts (orders : List (OrderId × OrderRecord ℚ)) (fs : List (SimulatedFill ℚ))
    (f : Findings) (attempts : List (ExecutionAttempt ℚ)) :
    (loop orders fs f attempts).fillAttempts = Dict.counter (attempts.filterMap ExecutionAttempt.fillId) := by
  induction attempts using List.reverseRecOn with
  | nil => rfl
  | append_singleton l a ih =>
    rw [loop_append, attempt_fillAttempts, ih, List.filterMap_append, Dict.counter, Dict.counter,
      List.foldl_append]
    cases hid : a.fillId <;> simp [hid]

/-- Every attempt is on a known order and explains itself, and every order has a legal history. -/
structure Audited (orders : List (OrderId × OrderRecord ℚ)) (fs : List (SimulatedFill ℚ))
    (attempts : List (ExecutionAttempt ℚ)) : Prop where
  each : ∀ a ∈ attempts, AttemptOk a ∧ ∃ r, get? a.orderId orders = some r
  histories : ∀ i r, get? i orders = some r →
    ∃ total, History fs r.order.quantity (attemptsOf attempts i) total

theorem attemptsOf_append_other {attempts : List (ExecutionAttempt ℚ)} {a : ExecutionAttempt ℚ} {i : OrderId}
    (ha : a.orderId ≠ i) : attemptsOf (attempts ++ [a]) i = attemptsOf attempts i := by
  simp [attemptsOf, ha]

theorem audited_append (hn : (fs.map SimulatedFill.fillId).Nodup) (hq : ∀ f ∈ fs, 0 < f.quantity)
    {l : List (ExecutionAttempt ℚ)} {a : ExecutionAttempt ℚ} (ha : 0 < a.requestedQuantity) :
    Audited orders fs (l ++ [a]) ↔ Audited orders fs l ∧
      Sound orders (Dict.ofKeys SimulatedFill.fillId fs) (executed fs (attemptsOf l a.orderId)) a := by
  constructor
  · intro h
    have hlast := h.each a (by simp)
    refine ⟨⟨fun x hx => h.each x (List.mem_append_left _ hx), fun i r hr => ?_⟩, ?_, hlast.1.missed,
      hlast.1.filled⟩
    · obtain ⟨total, ht⟩ := h.histories i r hr
      by_cases hi : a.orderId = i
      · rw [attemptsOf_append_self hi] at ht
        obtain ⟨done, hd, -⟩ := history_append.mp ht
        exact ⟨done, hd⟩
      · exact ⟨total, attemptsOf_append_other hi ▸ ht⟩
    · obtain ⟨r, hr⟩ := hlast.2
      obtain ⟨total, ht⟩ := h.histories _ r hr
      rw [attemptsOf_append_self rfl] at ht
      obtain ⟨done, hd, hreq, hcase⟩ := history_append.mp ht
      obtain rfl := history_total hn hd
      refine ⟨r, hr, hreq, fun i hi => ?_⟩
      rcases hcase with ⟨hid, -⟩ | ⟨f, hf, hid, ho, hcov, hout, -⟩
      · rw [hid] at hi
        cases hi
      · rw [hid] at hi
        cases hi
        exact ⟨f, (Dict.get?_ofKeys hn).mpr ⟨hf, rfl⟩, ho, hq f hf, hcov, hout⟩
  · rintro ⟨h, hs⟩
    obtain ⟨r, hr, hreq, hfill⟩ := hs.record
    refine ⟨fun x hx => ?_, fun i r' hr' => ?_⟩
    · rcases List.mem_append.mp hx with hx | hx
      · exact h.each x hx
      · rw [List.mem_singleton.mp hx]
        exact ⟨⟨ha, hs.missed, hs.filled⟩, r, hr⟩
    · obtain ⟨done, hd⟩ := h.histories i r' hr'
      by_cases hi : a.orderId = i
      · subst hi
        rw [hr] at hr'
        cases hr'
        obtain rfl := history_total hn hd
        rw [attemptsOf_append_self rfl]
        cases hid : a.fillId with
        | none => exact ⟨_, .miss hd hid (hs.missed hid).1 hreq⟩
        | some j =>
          obtain ⟨f, hf, ho, -, hcov, hout⟩ := hfill j hid
          obtain ⟨hmem, rfl⟩ := (Dict.get?_ofKeys hn).mp hf
          exact ⟨_, .fill hd hmem hid ho hcov hreq hout⟩
      · exact ⟨done, (attemptsOf_append_other hi).symm ▸ hd⟩

/-- The loop adds nothing exactly on audited attempts, and has then counted what the
attempts of each order execute; from the back, so that the last iteration starts
from the counts of the prefix. -/
theorem loop_spec (hn : (fs.map SimulatedFill.fillId).Nodup) (hq : ∀ f ∈ fs, 0 < f.quantity) (f : Findings)
    {attempts : List (ExecutionAttempt ℚ)} (hpos : ∀ a ∈ attempts, 0 < a.requestedQuantity)
    (hu : (attempts.filterMap ExecutionAttempt.fillId).Nodup) :
    (Clean (loop orders fs f attempts).findings ↔ Clean f ∧ Audited orders fs attempts) ∧
    (Clean (loop orders fs f attempts).findings →
      ∀ i, counted (loop orders fs f attempts) i = executed fs (attemptsOf attempts i)) := by
  induction attempts using List.reverseRecOn with
  | nil =>
    refine ⟨⟨fun h => ⟨h, ?_, fun i r _ => ⟨0, .start⟩⟩, And.left⟩, fun _ i => rfl⟩
    exact fun a ha => absurd ha List.not_mem_nil
  | append_singleton l a ih =>
    rw [List.filterMap_append, List.nodup_append] at hu
    obtain ⟨ih, ihc⟩ := ih (fun x hx => hpos x (List.mem_append_left _ hx)) hu.1
    rw [loop_append, attempt_clean, audited_append hn hq (hpos a (by simp)), ← and_assoc, ← ih]
    refine ⟨and_congr_right fun hc => by rw [ihc hc], fun ⟨hc, hs⟩ i => ?_⟩
    have hclean := attempt_clean.mpr ⟨hc, hs⟩
    have hcount := ihc hc
    cases hid : a.fillId with
    | none =>
      have hsame : counted ((loop orders fs f l).attempt orders (Dict.ofKeys SimulatedFill.fillId fs) a) i =
          counted (loop orders fs f l) i := by simp [counted, Tally.attempt, hid]
      rw [hsame, hcount i]
      by_cases hi : a.orderId = i
      · simp [attemptsOf_append_self hi, executed, fillOf, hid]
      · rw [attemptsOf_append_other hi]
    | some j =>
      have hfresh : get? j (loop orders fs f l).fillAttempts = none := by
        rw [loop_fillAttempts, Dict.get?_eq_none, Dict.mem_keys_counter]
        exact fun hj => hu.2.2 j hj j (by simp [hid]) rfl
      obtain ⟨g, hg, hcum⟩ := (attempt_clean_some hid).2 hclean hfresh
      rw [counted, hcum, Dict.get?_set]
      by_cases hi : a.orderId = i
      · subst hi
        have hgo : fillOf fs a = some g := by rw [fillOf, hid]; exact hg
        rw [if_pos rfl, Option.getD_some, hcount, attemptsOf_append_self rfl]
        simp [executed, hgo, sumBy]
      · rw [if_neg hi, attemptsOf_append_other hi]
        exact hcount i

/-- The attempts carry each fill once: on the side of the loop. -/
theorem carried_of_clean {f : Findings} {attempts : List (ExecutionAttempt ℚ)}
    (h : Clean (loop orders fs f attempts).findings) {i : TradeId}
    (hi : i ∈ attempts.filterMap ExecutionAttempt.fillId) :
    ∃ g, get? i (Dict.ofKeys SimulatedFill.fillId fs) = some g := by
  induction attempts using List.reverseRecOn with
  | nil => cases hi
  | append_singleton l a ih =>
    rw [loop_append, attempt_clean] at h
    rw [List.filterMap_append, List.mem_append] at hi
    rcases hi with hi | hi
    · exact ih h.1 hi
    · obtain ⟨r, -, -, hfill⟩ := h.2.record
      obtain ⟨g, hg, -⟩ := hfill i (by simpa using hi)
      exact ⟨g, hg⟩

/-- The attempts carry known fills: on the side of the histories. -/
theorem carried_of_audited {attempts : List (ExecutionAttempt ℚ)} (h : Audited orders fs attempts) {i : TradeId}
    (hi : i ∈ attempts.filterMap ExecutionAttempt.fillId) : i ∈ fs.map SimulatedFill.fillId := by
  obtain ⟨a, ha, hid⟩ := List.mem_filterMap.mp hi
  obtain ⟨-, r, hr⟩ := h.each a ha
  obtain ⟨total, ht⟩ := h.histories a.orderId r hr
  obtain ⟨g, hg, rfl, -⟩ := history_mem ht (List.mem_filter.mpr ⟨ha, by simp⟩) hid
  exact List.mem_map_of_mem hg

/-- The attempts carry every fill exactly once. -/
def CarriedOnce (fs : List (SimulatedFill ℚ)) (attempts : List (ExecutionAttempt ℚ)) : Prop :=
  ∀ f ∈ fs, (attempts.filterMap ExecutionAttempt.fillId).count f.fillId = 1

theorem nodup_of_carriedOnce {attempts : List (ExecutionAttempt ℚ)} (h : CarriedOnce fs attempts)
    (hmem : ∀ i ∈ attempts.filterMap ExecutionAttempt.fillId, i ∈ fs.map SimulatedFill.fillId) :
    (attempts.filterMap ExecutionAttempt.fillId).Nodup := by
  rw [List.nodup_iff_count_eq_one]
  intro i hi
  obtain ⟨f, hf, rfl⟩ := List.mem_map.mp (hmem i hi)
  exact h f hf

/-- The loop, when the fills turn out to be carried once. -/
theorem loop_clean (hn : (fs.map SimulatedFill.fillId).Nodup) (hq : ∀ f ∈ fs, 0 < f.quantity) (f : Findings)
    {attempts : List (ExecutionAttempt ℚ)} (hpos : ∀ a ∈ attempts, 0 < a.requestedQuantity)
    (hc : CarriedOnce fs attempts) :
    Clean (loop orders fs f attempts).findings ↔ Clean f ∧ Audited orders fs attempts := by
  constructor
  · intro h
    refine (loop_spec hn hq f hpos (nodup_of_carriedOnce hc fun i hi => ?_)).1.mp h
    obtain ⟨g, hg⟩ := carried_of_clean h hi
    obtain ⟨hmem, rfl⟩ := (Dict.get?_ofKeys hn).mp hg
    exact List.mem_map_of_mem hmem
  · intro h
    exact (loop_spec hn hq f hpos (nodup_of_carriedOnce hc fun i hi => carried_of_audited h.2 hi)).1.mpr h

end Loop

/-! ## The fills, the postings and the orders -/

theorem costs_validate_eq_ok {c : CostBreakdown ℚ} : c.validate = .ok () ↔ c.valid = true := by
  simp [CostBreakdown.validate, CostBreakdown.valid, requireNonnegative]

theorem validatePayload_eq_ok {f : SimulatedFill ℚ} :
    f.validatePayload = .ok () ↔ 0 < f.quantity ∧ 0 < f.executionPrice ∧
      Text.fullmatch "atis:simulation-cost-model:v1:" Text.isTokenChar 1 160 f.costModelId = true ∧
      f.costs.valid = true := by
  simp only [SimulatedFill.validatePayload, SimulatedFill.validate, validateCostBinding, requirePositive,
    bind_eq_ok, raiseIf_eq_ok, exists_const, costs_validate_eq_ok, not_le, not_not]

/-- The event posts the fill. -/
structure Posts (f : SimulatedFill ℚ) (e : FinancialEvent ℚ) : Prop where
  eventId : e.eventId.value = f.eventKey
  kind : e.kind = .trade
  instrumentId : e.instrumentId = some f.instrumentId
  quantity : e.quantity = some f.signedQuantity
  currency : e.currency = some f.currency
  occurredAt : f.executionAt.value ≤ e.occurredAt.value
  researchRunId : e.researchRunId = f.researchRunId
  evidence : e.evidenceDigest = f.executionEvidence
  unitAmount : e.unitAmount = some f.unitAmount

theorem expectedUnitAmount_eq {f : SimulatedFill ℚ} (hc : f.costs.valid = true) (hq : 0 < f.quantity) :
    expectedUnitAmount f = .ok f.unitAmount := by
  simp only [expectedUnitAmount, validatedCosts, bind_eq_ok, raiseIf_eq_ok, exists_const, divide_eq_ok,
    pure_eq_ok, not_not, not_le]
  exact ⟨f.costs, ⟨hc, rfl⟩, hq, _, ⟨hq.ne', rfl⟩, rfl⟩

theorem clean_checkEvent {f : SimulatedFill ℚ} (hc : f.costs.valid = true) (hq : 0 < f.quantity)
    {e : FinancialEvent ℚ} (hid : e.eventId.value = f.eventKey) {g : Findings} :
    Clean (checkEvent f e g) ↔ Clean g ∧ Posts f e := by
  simp only [checkEvent, expectedUnitAmount_eq hc hq, clean_addIf, not_not, not_or, bne_iff_ne,
    Datetime.not_lt]
  constructor
  · rintro ⟨⟨⟨⟨⟨⟨⟨hg, hk⟩, hi⟩, hqu⟩, hcu⟩, ht⟩, hr, he⟩, hu⟩
    exact ⟨hg, hid, hk, hi, hqu, hcu, ht, hr, he, hu⟩
  · rintro ⟨hg, -, hk, hi, hqu, hcu, ht, hr, he, hu⟩
    exact ⟨⟨⟨⟨⟨⟨⟨hg, hk⟩, hi⟩, hqu⟩, hcu⟩, ht⟩, hr, he⟩, hu⟩

/-- What the loop over the fills checks. -/
structure Settled (orders : List (OrderId × OrderRecord ℚ)) (events : List (String × FinancialEvent ℚ))
    (counts : List (TradeId × Nat)) (f : SimulatedFill ℚ) : Prop where
  order : ∃ r, get? f.orderId orders = some r ∧ f.instrumentId = r.order.instrumentId ∧
    f.side = r.order.side ∧ f.currency = r.order.currency ∧ f.researchRunId = r.order.researchRunId ∧
    r.order.releaseAt.value < f.executionAt.value
  count : (get? f.fillId counts).getD 0 = 1
  posted : ∃ e, get? f.eventKey events = some e ∧ Posts f e

theorem valid_fill {f : SimulatedFill ℚ} (h : f.valid = true) : f.costs.valid = true ∧ 0 < f.quantity := by
  simp only [SimulatedFill.valid, Bool.and_eq_true, decide_eq_true_eq] at h
  exact ⟨h.1.2, h.1.1.1.1.1.1.2⟩

theorem clean_checkFill {orders : List (OrderId × OrderRecord ℚ)} {events : List (String × FinancialEvent ℚ)}
    {counts : List (TradeId × Nat)} {f : SimulatedFill ℚ} (hv : f.valid = true)
    (hkeys : ∀ e, get? f.eventKey events = some e → e.eventId.value = f.eventKey) (g : Findings) :
    Clean (checkFill orders events counts g f) ↔ Clean g ∧ Settled orders events counts f := by
  obtain ⟨hc, hq⟩ := valid_fill hv
  cases hr : get? f.orderId orders with
  | none =>
    simp only [checkFill, hr, not_clean_add, false_iff, not_and]
    rintro - ⟨⟨r, h, -⟩, -, -⟩
    rw [hr] at h
    cases h
  | some r =>
    cases he : get? f.eventKey events with
    | none =>
      simp only [checkFill, hr, he, not_clean_add, false_iff, not_and]
      rintro - ⟨-, -, ⟨e, h, -⟩⟩
      rw [he] at h
      cases h
    | some e =>
      simp only [checkFill, hr, he, clean_checkEvent hc hq (hkeys e he), clean_addIf, not_not, Datetime.not_le]
      constructor
      · rintro ⟨⟨⟨⟨⟨⟨⟨hg, hn⟩, hi⟩, hs⟩, hcu⟩, hru⟩, ht⟩, hp⟩
        exact ⟨hg, ⟨r, hr, hi, hs, hcu, hru, ht⟩, hn, e, he, hp⟩
      · rintro ⟨hg, ⟨r', hr', hi, hs, hcu, hru, ht⟩, hn, e', he', hp⟩
        rw [hr] at hr'
        rw [he] at he'
        cases hr'
        cases he'
        exact ⟨⟨⟨⟨⟨⟨⟨hg, hn⟩, hi⟩, hs⟩, hcu⟩, hru⟩, ht⟩, hp⟩

/-- The status that the filled quantity of a record allows. -/
def StatusFits (r : OrderRecord ℚ) : Prop :=
  if 0 < r.filledQuantity then
    (r.status = .cancelled ∧ r.filledQuantity < r.order.quantity) ∨
      r.status = statusAt r.order.quantity r.filledQuantity
  else r.status ≠ .partiallyFilled ∧ r.status ≠ .fullyFilled

theorem clean_checkOrder {oms : SimulatedOms ℚ} {i : OrderId} {r : OrderRecord ℚ}
    (hr : r.filledQuantity ≤ r.order.quantity) (g : Findings) :
    Clean (checkOrder oms g (i, r)) ↔ Clean g ∧ filledBy oms.fills i = r.filledQuantity ∧ StatusFits r := by
  have htotal : sumBy SimulatedFill.quantity (oms.fills.filter fun fill => fill.orderId = i) =
      filledBy oms.fills i := rfl
  simp only [checkOrder, htotal, clean_addIf, bne_iff_ne, ne_eq, not_not, and_assoc]
  refine and_congr_right fun _ => and_congr_right fun h => ?_
  rw [h]
  by_cases hpos : 0 < r.filledQuantity
  · simp only [StatusFits, hpos, not_true, false_and, if_true, not_false_eq_true, true_and, not_or, not_lt, hr,
      not_not]
    by_cases hcan : r.status = .cancelled ∧ r.filledQuantity < r.order.quantity
    · rw [if_pos hcan]
      exact ⟨fun _ => .inl hcan, fun _ => hcan.1.symm⟩
    · rw [if_neg hcan]
      exact ⟨fun h => .inr h.symm, fun h => (h.resolve_left hcan).symm⟩
  · simp only [StatusFits, hpos, if_false, not_false_eq_true, true_and, not_or, not_lt, hr, not_true, and_true]

/-! ## The whole check -/

/-- Histories that agree. -/
structure Consistent (oms : SimulatedOms ℚ) (ledger : SimulationLedger ℚ) : Prop where
  replayed : ∃ l, SimulationLedger.replay ledger.currency ledger.events = .ok l ∧ l.state = ledger.state
  validRecords : ∀ r ∈ oms.orders, r.valid = true
  validFills : ∀ f ∈ oms.fills, f.valid = true
  orderIds : (oms.orders.map fun r => r.order.orderId).Nodup
  fillIds : (oms.fills.map SimulatedFill.fillId).Nodup
  postings : ((fillEvents ledger).map FinancialEvent.eventId).Nodup
  attempts : ∀ a ∈ oms.attempts, AttemptOk a ∧ ∃ r ∈ oms.orders, r.order.orderId = a.orderId
  histories : ∀ r ∈ oms.orders, ∃ total,
    History oms.fills r.order.quantity (attemptsOf oms.attempts r.order.orderId) total
  carried : CarriedOnce oms.fills oms.attempts
  executes : ∀ f ∈ oms.fills, ∃ r ∈ oms.orders, f.orderId = r.order.orderId ∧
    f.instrumentId = r.order.instrumentId ∧ f.side = r.order.side ∧ f.currency = r.order.currency ∧
    f.researchRunId = r.order.researchRunId ∧ r.order.releaseAt.value < f.executionAt.value
  posted : ∀ f ∈ oms.fills, ∃ e ∈ fillEvents ledger, Posts f e
  explained : ∀ e ∈ fillEvents ledger, ∃ f ∈ oms.fills, e.eventId.value = f.eventKey
  totals : ∀ r ∈ oms.orders, filledBy oms.fills r.order.orderId = r.filledQuantity
  statuses : ∀ r ∈ oms.orders, StatusFits r

theorem valid_record {r : OrderRecord ℚ} (h : r.valid = true) :
    0 ≤ r.filledQuantity ∧ r.filledQuantity ≤ r.order.quantity := by
  simp only [OrderRecord.valid, Bool.and_eq_true, decide_eq_true_eq] at h
  exact ⟨h.1.2, h.2⟩

theorem nodup_eventKeys {events : List (FinancialEvent ℚ)} (h : (events.map FinancialEvent.eventId).Nodup) :
    (events.map fun e => e.eventId.value).Nodup := by
  have := h.map (f := LedgerEventId.value) (fun a b hab => by cases a; cases b; simp_all)
  simpa [Function.comp_def] using this

theorem clean_of_loop {orders : List (OrderId × OrderRecord ℚ)} {fs : List (SimulatedFill ℚ)} {f : Findings}
    {attempts : List (ExecutionAttempt ℚ)} (h : Clean (loop orders fs f attempts).findings) : Clean f := by
  induction attempts using List.reverseRecOn with
  | nil => exact h
  | append_singleton l a ih =>
    rw [loop_append, attempt_clean] at h
    exact ih h.1

section Relations

variable {oms : SimulatedOms ℚ} {ledger : SimulationLedger ℚ} {g : Findings}

/-- Identities occur once. -/
structure Distinct (oms : SimulatedOms ℚ) (ledger : SimulationLedger ℚ) : Prop where
  orderIds : (oms.orders.map fun r => r.order.orderId).Nodup
  fillIds : (oms.fills.map SimulatedFill.fillId).Nodup
  postings : ((fillEvents ledger).map FinancialEvent.eventId).Nodup

theorem clean_checkIdentities : Clean (checkIdentities oms ledger g) ↔ Clean g ∧ Distinct oms ledger := by
  simp only [checkIdentities, clean_checkCounts]
  exact ⟨fun ⟨⟨⟨hg, ho⟩, hf⟩, hp⟩ => ⟨hg, ho, hf, hp⟩, fun ⟨hg, ho, hf, hp⟩ => ⟨⟨⟨hg, ho⟩, hf⟩, hp⟩⟩

/-- The records by order, and the audited events by their key. -/
abbrev recordBook (oms : SimulatedOms ℚ) : List (OrderId × OrderRecord ℚ) :=
  Dict.ofKeys (fun r : OrderRecord ℚ => r.order.orderId) oms.orders

abbrev eventBook (ledger : SimulationLedger ℚ) : List (String × FinancialEvent ℚ) :=
  Dict.ofKeys (fun e : FinancialEvent ℚ => e.eventId.value) (fillEvents ledger)

/-- The stages after the identities, as one conjunction. -/
theorem clean_stages (hrec : ∀ r ∈ oms.orders, r.valid = true) (hfill : ∀ f ∈ oms.fills, f.valid = true) :
    Clean (checkRelations oms ledger g) ↔
      Clean (loop (recordBook oms) oms.fills (checkIdentities oms ledger g) oms.attempts).findings ∧
      (∀ f ∈ oms.fills, Settled (recordBook oms) (eventBook ledger)
        (Dict.counter (oms.attempts.filterMap ExecutionAttempt.fillId)) f) ∧
      (∀ key ∈ Dict.keys (eventBook ledger), key ∈ oms.fills.map SimulatedFill.eventKey) ∧
      ∀ p ∈ recordBook oms, filledBy oms.fills p.1 = p.2.filledQuantity ∧ StatusFits p.2 := by
  have horders (f : Findings) : ∀ p ∈ recordBook oms, Clean (checkOrder oms f p) ↔
      Clean f ∧ filledBy oms.fills p.1 = p.2.filledQuantity ∧ StatusFits p.2 :=
    fun p hp => clean_checkOrder (valid_record (hrec p.2 (Dict.mem_of_mem_ofKeys hp))).2 f
  have hevents (f : Findings) : ∀ key ∈ Dict.keys (eventBook ledger),
      Clean (f.addIf (key ∉ oms.fills.map SimulatedFill.eventKey) .missingFill key) ↔
        Clean f ∧ key ∈ oms.fills.map SimulatedFill.eventKey := by
    intro key _
    rw [clean_addIf, not_not]
  have hfills (counts : List (TradeId × Nat)) (f : Findings) : ∀ x ∈ oms.fills,
      Clean (checkFill (recordBook oms) (eventBook ledger) counts f x) ↔
        Clean f ∧ Settled (recordBook oms) (eventBook ledger) counts x :=
    fun x hx => clean_checkFill (hfill x hx)
      (fun e he => Dict.keyed_ofKeys _ _ (x.eventKey, e) (Dict.mem_of_get? he)) f
  rw [← loop_fillAttempts (recordBook oms) oms.fills (checkIdentities oms ledger g),
    checkRelations, clean_foldl horders, clean_foldl hevents, clean_foldl (hfills _), and_assoc, and_assoc]
  rfl

/-- The relations between valid histories. -/
theorem clean_checkRelations (hrec : ∀ r ∈ oms.orders, r.valid = true)
    (hfill : ∀ f ∈ oms.fills, f.valid = true) (hatt : ∀ a ∈ oms.attempts, 0 < a.requestedQuantity)
    (hrep : Clean g → ∃ l, SimulationLedger.replay ledger.currency ledger.events = .ok l ∧
      l.state = ledger.state) :
    Clean (checkRelations oms ledger g) ↔ Clean g ∧ Consistent oms ledger := by
  by_cases hd : Distinct oms ledger
  · have hkeys := nodup_eventKeys hd.postings
    have hq : ∀ f ∈ oms.fills, 0 < f.quantity := fun f hf => (valid_fill (hfill f hf)).2
    rw [clean_stages hrec hfill]
    constructor
    · rintro ⟨hloop, hset, hev, hord⟩
      have hcar : CarriedOnce oms.fills oms.attempts := fun f hf => by
        rw [← Dict.get?_counter]
        exact (hset f hf).count
      obtain ⟨hid, haud⟩ := (loop_clean hd.fillIds hq _ hatt hcar).mp hloop
      have hord' (r : OrderRecord ℚ) (hr : r ∈ oms.orders) :=
        hord (r.order.orderId, r) ((Dict.mem_ofKeys hd.orderIds).mpr ⟨hr, rfl⟩)
      have hg := (clean_checkIdentities.mp hid).1
      refine ⟨hg, hrep hg, hrec, hfill, hd.orderIds, hd.fillIds, hd.postings,
        fun a ha => ?_, fun r hr => ?_, hcar, fun f hf => ?_, fun f hf => ?_, fun e he => ?_,
        fun r hr => (hord' r hr).1, fun r hr => (hord' r hr).2⟩
      · obtain ⟨hok, r, hr⟩ := haud.each a ha
        exact ⟨hok, r, (Dict.get?_ofKeys hd.orderIds).mp hr⟩
      · exact haud.histories _ r ((Dict.get?_ofKeys hd.orderIds).mpr ⟨hr, rfl⟩)
      · obtain ⟨r, hr, hrest⟩ := (hset f hf).order
        obtain ⟨hr, hi⟩ := (Dict.get?_ofKeys hd.orderIds).mp hr
        exact ⟨r, hr, hi.symm, hrest⟩
      · obtain ⟨e, he, hp⟩ := (hset f hf).posted
        exact ⟨e, ((Dict.get?_ofKeys hkeys).mp he).1, hp⟩
      · have hmem := hev e.eventId.value (List.mem_map_of_mem ((Dict.mem_ofKeys hkeys).mpr ⟨he, rfl⟩))
        obtain ⟨f, hf, hfe⟩ := List.mem_map.mp hmem
        exact ⟨f, hf, hfe.symm⟩
    · rintro ⟨hg, h⟩
      refine ⟨(loop_clean hd.fillIds hq _ hatt h.carried).mpr ⟨clean_checkIdentities.mpr ⟨hg, hd⟩, ?_, ?_⟩,
        fun f hf => ⟨?_, ?_, ?_⟩, fun key hkey => ?_, fun p hp => ?_⟩
      · intro a ha
        obtain ⟨hok, r, hr⟩ := h.attempts a ha
        exact ⟨hok, r, (Dict.get?_ofKeys hd.orderIds).mpr hr⟩
      · intro i r hr
        obtain ⟨hmem, rfl⟩ := (Dict.get?_ofKeys hd.orderIds).mp hr
        exact h.histories r hmem
      · obtain ⟨r, hr, hi, hrest⟩ := h.executes f hf
        exact ⟨r, (Dict.get?_ofKeys hd.orderIds).mpr ⟨hr, hi.symm⟩, hrest⟩
      · rw [Dict.get?_counter]
        exact h.carried f hf
      · obtain ⟨e, he, hp⟩ := h.posted f hf
        exact ⟨e, (Dict.get?_ofKeys hkeys).mpr ⟨he, hp.eventId⟩, hp⟩
      · obtain ⟨⟨k, e⟩, hp, rfl⟩ := List.mem_map.mp hkey
        obtain ⟨he, rfl⟩ := (Dict.mem_ofKeys hkeys).mp hp
        obtain ⟨f, hf, hfe⟩ := h.explained e he
        exact hfe ▸ List.mem_map_of_mem hf
      · obtain ⟨i, r⟩ := p
        obtain ⟨hr, rfl⟩ := (Dict.mem_ofKeys hd.orderIds).mp hp
        exact ⟨h.totals r hr, h.statuses r hr⟩
  · refine ⟨fun h => absurd ?_ hd, fun h => absurd ⟨h.2.orderIds, h.2.fillIds, h.2.postings⟩ hd⟩
    exact (clean_checkIdentities.mp (clean_of_loop ((clean_stages hrec hfill).mp h).1)).2

theorem clean_checkLedger {f : Findings} (h : checkLedger ledger = .ok f) : Clean f ↔
    ∃ l, SimulationLedger.replay ledger.currency ledger.events = .ok l ∧ l.state = ledger.state := by
  unfold checkLedger at h
  split at h
  · rename_i l hl
    cases h
    rw [clean_addIf, bne_iff_ne, not_not]
    exact ⟨fun ⟨_, hs⟩ => ⟨l, hl, hs⟩, fun ⟨l', hl', hs⟩ => ⟨⟨rfl, rfl⟩, by rw [hl] at hl'; cases hl'; exact hs⟩⟩
  · rename_i e he
    split at h
    · cases h
      simp [he]
    · cases h

/-! ### Performance -/

theorem dragAndTurnover_ok {fills : List (SimulatedFill ℚ)} (h : ∀ f ∈ fills, f.costs.valid = true) :
    ∃ p, dragAndTurnover fills = .ok p := by
  unfold dragAndTurnover
  generalize ((⟨0, 0, 0, 0, 0⟩, 0) : CostDrag ℚ × ℚ) = acc
  induction fills generalizing acc with
  | nil => exact ⟨acc, rfl⟩
  | cons f fills ih =>
    have hc : validatedCosts f.costs = .ok f.costs := by simp [validatedCosts, h f]
    simp only [List.foldlM_cons, hc]
    exact ih (fun g hg => h g (List.mem_cons_of_mem _ hg)) _

theorem fundingSum_eq {events : List (FinancialEvent ℚ)}
    (h : ∀ e ∈ events, e.kind.funding = true → e.cashDelta.isSome) : fundingSum events = .ok (funding events) := by
  suffices ∀ acc : ℚ, (events.filter fun e => e.kind.funding).foldlM (fun total event => do
      return total + (← orRaise ⟨.typeError, "cash_delta must be a Decimal"⟩ event.cashDelta)) acc =
      (.ok (acc + funding events) : Outcome ℚ) by
    simpa [fundingSum] using this 0
  induction events with
  | nil => intro acc; simp [funding, sumBy]
  | cons e events ih =>
    intro acc
    have ih := ih fun x hx => h x (List.mem_cons_of_mem _ hx)
    have hcons : funding (e :: events) = funding [e] + funding events := sumBy_append _ [e] events
    by_cases hk : e.kind.funding = true
    · obtain ⟨δ, hδ⟩ := Option.isSome_iff_exists.mp (h e (List.mem_cons_self ..) hk)
      have hone : funding [e] = δ := by simp [funding, sumBy, hk, hδ]
      rw [List.filter_cons_of_pos (by simpa using hk), List.foldlM_cons, hδ, hcons, hone, ← add_assoc]
      exact ih (acc + δ)
    · have hone : funding [e] = 0 := by simp [funding, sumBy, hk]
      rw [List.filter_cons_of_neg (by simpa using hk), hcons, hone, zero_add]
      exact ih acc

/-- The performance of valid fills against a replayed ledger. -/
theorem performance_ok (hcosts : ∀ f ∈ oms.fills, f.costs.valid = true)
    (hfund : ∀ e ∈ ledger.events, e.kind.funding = true → e.cashDelta.isSome) :
    ∃ truth, performance oms ledger = .ok truth ∧
      truth.netPnl = ledger.state.portfolioValue - funding ledger.events ∧
      truth.grossPnl - truth.executionCostDrag.total = truth.netPnl ∧
      truth.realisedPnl = ledger.state.realisedPnl ∧ truth.unrealisedPnl = ledger.state.unrealisedPnl := by
  obtain ⟨⟨drag, turnover⟩, hdrag⟩ := dragAndTurnover_ok hcosts
  refine ⟨⟨ledger.state.portfolioValue - funding ledger.events + drag.total, drag,
    ledger.state.portfolioValue - funding ledger.events, ledger.state.realisedPnl, ledger.state.unrealisedPnl,
    ledger.state.portfolioValue, turnover, .notEstablished, .notEstablished⟩, ?_, rfl, by simp, rfl, rfl⟩
  simp only [performance, bind_eq_ok, hdrag, fundingSum_eq hfund, raiseIf_eq_ok, exists_const, pure_eq_ok]
  exact ⟨(drag, turnover), rfl, funding ledger.events, rfl, by simp, rfl⟩

theorem conclude_reconciled {f : Findings} {result : ReconciliationResult ℚ}
    (h : conclude oms ledger f = .ok result) (hs : result.state = .reconciled) : Clean f := by
  unfold conclude at h
  split at h
  · cases h; cases hs
  · rename_i hinv
    split at h
    · cases h; cases hs
    · rename_i hitems
      exact ⟨not_not.mp hitems, Bool.eq_false_iff.mpr hinv⟩

theorem rejectIf_invalid {f : Findings} {c : Prop} [Decidable c] {subject : String} :
    (f.rejectIf c subject).invalid = false ↔ f.invalid = false ∧ ¬ c := by
  by_cases h : c <;> simp [Findings.rejectIf, Findings.reject, h]

theorem valid_of_checkValues {f : Findings} (h : (checkValues oms f).invalid = false) :
    (∀ r ∈ oms.orders, r.valid = true) ∧ ∀ x ∈ oms.fills, x.valid = true := by
  simp only [checkValues, rejectIf_invalid, not_not] at h
  exact ⟨h.1.2, h.2⟩

theorem clean_checkValues {f : Findings} : Clean (checkValues oms f) ↔
    Clean f ∧ (∀ r ∈ oms.orders, r.valid = true) ∧ ∀ x ∈ oms.fills, x.valid = true := by
  simp only [checkValues, clean_rejectIf, not_not, and_assoc]

theorem consistent_performance (h : Consistent oms ledger) : ∃ truth, performance oms ledger = .ok truth ∧
    truth.netPnl = ledger.state.portfolioValue - funding ledger.events ∧
    truth.grossPnl - truth.executionCostDrag.total = truth.netPnl ∧
    truth.realisedPnl = ledger.state.realisedPnl ∧ truth.unrealisedPnl = ledger.state.unrealisedPnl := by
  obtain ⟨l, hl, -⟩ := h.replayed
  refine performance_ok (fun f hf => (valid_fill (h.validFills f hf)).1) fun e he => ?_
  exact replay_cashDelta hl e ((replay_events hl e).mpr he)

/-- The result over consistent histories. -/
theorem consistent_reconcile (h : Consistent oms ledger) : ∃ truth, performance oms ledger = .ok truth ∧
    reconcile oms ledger = .ok { state := .reconciled, discrepancies := [], performance := some truth } := by
  obtain ⟨truth, ht, -⟩ := consistent_performance h
  obtain ⟨l, hl, hs⟩ := h.replayed
  have hledger : checkLedger ledger = .ok {} := by simp [checkLedger, hl, hs, Findings.addIf]
  have hpos : ∀ a ∈ oms.attempts, 0 < a.requestedQuantity := fun a ha => (h.attempts a ha).1.positive
  have hvalues : Clean (checkValues oms {}) :=
    clean_checkValues.mpr ⟨⟨rfl, rfl⟩, h.validRecords, h.validFills⟩
  obtain ⟨hitems, hinv⟩ := (clean_checkRelations h.validRecords h.validFills hpos
    fun _ => ⟨l, hl, hs⟩).mpr ⟨hvalues, h⟩
  have hatt : ∀ a ∈ oms.attempts, a.valid = true := fun a ha => by simpa [ExecutionAttempt.valid] using hpos a ha
  refine ⟨truth, ht, ?_⟩
  unfold reconcile
  rw [bind_of_eq_ok hledger]
  simp only [hvalues.2, Bool.false_eq_true, if_false, if_neg (not_not.mpr hatt)]
  simp [conclude, hitems, hinv, ht]

/-- A pair of histories reconciles exactly when it is consistent. -/
theorem reconciled_iff : (∃ result, reconcile oms ledger = .ok result ∧ result.state = .reconciled) ↔
    Consistent oms ledger := by
  constructor
  · rintro ⟨result, h, hs⟩
    unfold reconcile at h
    obtain ⟨f, hf, h⟩ := bind_eq_ok.mp h
    by_cases hinv : (checkValues oms f).invalid = true
    · simp only [hinv, if_true] at h
      cases h; cases hs
    · by_cases hatt : ∀ a ∈ oms.attempts, a.valid = true
      · simp only [hinv, if_neg (not_not.mpr hatt)] at h
        obtain ⟨hrec, hfill⟩ := valid_of_checkValues (Bool.eq_false_iff.mpr hinv)
        have hpos : ∀ a ∈ oms.attempts, 0 < a.requestedQuantity := fun a ha => by
          simpa [ExecutionAttempt.valid] using hatt a ha
        exact ((clean_checkRelations hrec hfill hpos fun hc =>
          (clean_checkLedger hf).mp (clean_checkValues.mp hc).1).mp (conclude_reconciled h hs)).2
      · simp only [hinv, if_pos hatt] at h
        cases h; cases hs
  · intro h
    obtain ⟨truth, -, hr⟩ := consistent_reconcile h
    exact ⟨_, hr, rfl⟩

end Relations

end ATB.Proof.Reconcile
