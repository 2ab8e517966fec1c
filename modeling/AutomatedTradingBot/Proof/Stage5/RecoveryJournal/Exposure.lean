import AutomatedTradingBot.Proof.Stage5.RecoveryJournal.Finality

/-!
# New exposure

When the journal allows new exposure, and whether a denial survives a call that
opens the gate at the same time. The denial has three copies: the row of the gate,
the sentinel file and the volatile reason.

* `restart_denies`: after a restart exposure is denied until an authenticated call
  succeeds, which needs every attempt resolved;
* `denial_kept`: a denial that overlaps a call that has evaluated its evidence is
  lost exactly when that call succeeds, and one that begins after it is kept.
-/

namespace ATB.Proof.RecoveryJournal

open ATB.Stage5 ATB.Trace

/-! ## Restarts -/

section Restart

variable {ι : Type} [DecidableEq ι] {py : Platform} {w w' : World ι} {e : Event ι}

/-- The step ends a call of `requalify_exposure` or `authorize_bootstrap` with success, and the
receipt of the call has been accepted and consumed by the journal's authority. -/
def Requalifies (py : Platform) (w : World ι) (e : Event ι) : Prop :=
  ∃ t now fault r b, e = .work t now fault ∧ w.threads t = [.clearReason r] ∧ Authenticated py w (openingType b) r

omit [DecidableEq ι] in
theorem exposureAllowed_congr (h : w'.memory = w.memory) (ha : w'.exposureAllowed) : w.exposureAllowed := by
  rwa [World.exposureAllowed, ← h]

/-- Exposure comes to be allowed only by the end of such a call. -/
theorem exposure_step (h : w.step py e = some w') (hi : Inv py w) (hn : ¬ w.exposureAllowed)
    (ha : w'.exposureAllowed) : Requalifies py w e := by
  cases e with
  | reopen t a c =>
    simp only [World.step] at h
    split at h <;> cases h
    obtain ⟨m, hm, hr, -⟩ := ha
    cases hm
    cases hr
  | call t op =>
    simp only [World.step] at h
    split at h
    · split at h <;> cases h
      exact absurd (exposureAllowed_congr (w := w) rfl ha) hn
    · cases h
  | work t now fault =>
    obtain ⟨work, rest, w₁, next, ht, hp, rfl⟩ := work_cases h
    have hmem : (w₁.proceed t rest next).memory = w.memory.map (assign work) := by
      rw [memory_proceed, (perform_frame hp).memory]
    have hs := hi.shape t
    rw [ht] at hs
    obtain ⟨m', hm', hr', hnone⟩ := ha
    rw [hmem] at hm'
    obtain ⟨m, hm, rfl⟩ := Option.map_eq_some_iff.mp hm'
    cases work with
    | clearReason r =>
      cases hs with
      | plain hp => exact (hp _ (List.mem_cons_self ..)).elim
      | clearReason _ hauth => exact ⟨t, now, fault, r, _, rfl, ht, hauth⟩
    | setReason reason =>
      cases hreason : m.persistenceUnresolved <;> simp [assign, World.setReason, hreason] at hnone
    | publish =>
      cases hs with
      | plain hp => exact (hp _ (List.mem_cons_self ..)).elim
      | publish _ hd =>
        obtain ⟨m₀, hm₀, hd⟩ := hd
        obtain rfl := Option.mem_unique hm hm₀
        exact absurd hnone hd
    | _ => exact absurd ⟨m, hm, hr', hnone⟩ hn
  | stop =>
    cases h
    obtain ⟨m, hm, -⟩ := ha
    cases hm

end Restart

/-- For every sequential history of calls, faults, stops and restarts: after a reopening, new
exposure is allowed only once a call of `authorize_bootstrap` or `requalify_exposure` has
succeeded since, on an authenticated receipt; and when such a call succeeds no attempt is
unresolved. -/
theorem restart_denies {py : Platform} {consumed : List Receipt} {es : List (Event Unit)} {w : World Unit}
    (h : run (World.step py) (World.init consumed) es = some w) :
    (∀ a c w₁, w.step py (.reopen () a c) = some w₁ → ∀ es' w₂, run (World.step py) w₁ es' = some w₂ →
      w₂.exposureAllowed → ∃ es₁ e es₂ x y, es' = es₁ ++ e :: es₂ ∧ run (World.step py) w₁ es₁ = some x ∧
        x.step py e = some y ∧ Requalifies py x e) ∧
    ∀ e, Requalifies py w e →
      ∀ r ∈ (rows w).intents, r.state.requiresRecovery = false ∧ ¬ Uncertain w r.key := by
  constructor
  · intro a c w₁ h₁ es' w₂ h₂ hallowed
    have hdenied : ¬ w₁.exposureAllowed := by
      rintro ⟨m, hm, hready, -⟩
      simp only [World.step] at h₁
      split at h₁ <;> cases h₁
      cases hm
      cases hready
    have hinv : Inv py w₁ := inv_step _ h₁ (inv_run h)
    obtain ⟨es₁, e, es₂, x, y, rfl, hx, hy, hno, hyes⟩ := run_switch h₂ hdenied hallowed
    have hix : Inv py x := run_invariant (Inv py) (fun _ e _ h => inv_step e h) hx hinv
    exact ⟨es₁, e, es₂, x, y, rfl, hx, hy, exposure_step hy hix hno hyes⟩
  · rintro e ⟨t, now, fault, r, b, -, ht, -⟩ row hrow
    have hquiet := quiet_run (fun _ _ => rfl) h (t := t) ⟨r, by rw [ht]; simp⟩
    have hall := unresolved?_eq_none.mp hquiet
    refine ⟨hall row hrow, ?_⟩
    rintro ⟨s, hs⟩
    obtain ⟨row', hrow', he⟩ := Option.map_eq_some_iff.mp hs
    have hreq := hall row' (List.mem_of_find?_eq_some hrow')
    rw [(Prod.mk.inj he).1, ← marked_run h _ _ _ hs] at hreq
    cases hreq

open Sample in
/-- After a restart the authorised journal of the sample denies exposure again. -/
theorem restart_denies_sample : ∃ w w₁ : World Unit,
    run (World.step platform) (World.init [])
        (opened ++ .call () (.authorizeBootstrap bootstrap) :: steps 5 ++ [.stop]) = some w ∧
      w.step platform (.reopen () (some policy) "challenge-2") = some w₁ ∧
      ∀ es' w₂, run (World.step platform) w₁ es' = some w₂ → w₂.exposureAllowed →
        ∃ es₁ e es₂ x y, es' = es₁ ++ e :: es₂ ∧ run (World.step platform) w₁ es₁ = some x ∧
          x.step platform e = some y ∧ Requalifies platform x e := by
  have hrun : ((run (World.step platform) (World.init [])
      (opened ++ .call () (.authorizeBootstrap bootstrap) :: steps 5 ++ [.stop])).any fun w =>
        (w.step platform (.reopen () (some policy) "challenge-2")).isSome) = true := by decide +kernel
  obtain ⟨w, hw, hw₁⟩ := (Option.any_eq_true _ _).mp hrun
  obtain ⟨w₁, hw₁⟩ := Option.isSome_iff_exists.mp hw₁
  exact ⟨w, w₁, hw, hw₁, (restart_denies hw).1 _ _ w₁ hw₁⟩

/-! ## Denials -/

section Denial

variable {ι : Type}

/-- Exposure is denied in the volatile reason, in the sentinel file and in the durable row. -/
def DeniedEverywhere (w : World ι) : Prop :=
  Denied w ∧ w.sentinel ≠ none ∧ ∃ st ∈ w.store, ∃ g ∈ st.gate, g.state = .closed

/-- The call holds the write lock. -/
def Locks (l : List Work) : Prop :=
  (∃ k d g o r, l = .consumeRequalify k d g o r :: World.opening false r) ∨ ∃ b r, l = World.opening b r

variable {py : Platform} {w w' : World ι} {t u : ι} {now : Int} {fault : Fault} {next : Next}

theorem commit_writer {tx : Tx} (h : w.commit now fault tx = some (w', next)) : w'.writer = w.writer := by
  unfold World.commit at h
  (repeat' split at h) <;> cases h <;> rfl

/-- The write lock is taken by an evaluation and kept until the commit. -/
theorem perform_writer {work : Work} {rest : List Work} (hs : Shape py w (work :: rest))
    (h : w.perform py t now fault work = some (w', next)) (hw : w'.writer = some u) :
    w.writer = some u ∧ (Locks (work :: rest) → Locks (after rest next)) ∨ u = t ∧ Locks (after rest next) := by
  have hkeep : w'.writer = w.writer → ¬ Locks (work :: rest) →
      w.writer = some u ∧ (Locks (work :: rest) → Locks (after rest next)) ∨ u = t ∧ Locks (after rest next) :=
    fun he hl => .inl ⟨he ▸ hw, fun hl' => absurd hl' hl⟩
  have hfront : (∀ k d g o r, work ≠ .consumeRequalify k d g o r) → (∀ b r, work ≠ .openGate b r) →
      ¬ Locks (work :: rest) := by
    rintro h₁ h₂ (⟨k, d, g, o, r, he⟩ | ⟨b, r, he⟩)
    · exact h₁ k d g o r (List.cons.inj he).1
    · exact h₂ b r (List.cons.inj he).1
  cases work
  case consumeRequalify k d g o r =>
    cases hs with
    | plain hp => exact (hp _ (List.mem_cons_self ..)).elim
    | consumeRequalify =>
      simp only [World.perform] at h
      split at h
      · split at h <;> cases h
        · exact .inl ⟨hw, fun _ => .inr ⟨false, r, rfl⟩⟩
        · cases hw
      · cases h
        cases hw
  case openGate b r =>
    simp only [World.perform] at h
    split at h
    · cases h
    split at h <;> cases h <;> cases hw
  case evaluateRequalify op d r f =>
    cases hs with
    | plain hp => exact (hp _ (List.mem_cons_self ..)).elim
    | evaluateRequalify =>
      simp only [World.perform] at h
      split at h
      · cases h
        exact hkeep rfl (hfront (by simp) (by simp))
      · obtain ⟨row, -, h⟩ := Option.bind_eq_some_iff.mp h
        split at h <;> cases h
        · exact hkeep rfl (hfront (by simp) (by simp))
        · cases hw
          exact .inr ⟨rfl, .inl ⟨_, _, _, _, _, rfl⟩⟩
      · cases h
  case evaluateBootstrap r =>
    cases hs with
    | plain hp => exact (hp _ (List.mem_cons_self ..)).elim
    | evaluateBootstrap =>
      simp only [World.perform] at h
      split at h
      · cases h
        exact hkeep rfl (hfront (by simp) (by simp))
      · split at h <;> cases h
        · exact hkeep rfl (hfront (by simp) (by simp))
        · cases hw
          exact .inr ⟨rfl, .inr ⟨true, r, rfl⟩⟩
      · cases h
  case commit tx => exact hkeep (commit_writer h) (hfront (by simp) (by simp))
  all_goals
    refine hkeep ?_ (hfront (by simp) (by simp))
    simp only [World.perform, World.orElse] at h
    (repeat' split at h) <;> cases h <;> rfl

variable [DecidableEq ι]

@[simp] theorem writer_proceed (rest : List Work) (next : Next) : (w.proceed t rest next).writer = w.writer := by
  cases next <;> rfl

/-- Whoever holds the write lock has evaluated its evidence and not yet committed. -/
theorem locks_step {e : Event ι} (h : w.step py e = some w') (hi : Inv py w)
    (hl : ∀ u, w.writer = some u → Locks (w.threads u)) (hw : w'.writer = some u) : Locks (w'.threads u) := by
  have hbusy : ∀ {u}, w.writer = some u → w.threads u ≠ [] := by
    intro u hu hnil
    have := hl u hu
    rw [hnil] at this
    rcases this with ⟨_, _, _, _, _, he⟩ | ⟨_, _, he⟩ <;> cases he
  cases e with
  | reopen t a c =>
    simp only [World.step] at h
    split at h <;> cases h
    next hm => exact absurd (hi.idle hm u) (hbusy hw)
  | call t op =>
    simp only [World.step] at h
    split at h
    · next ht =>
      split at h <;> cases h
      have hu : u ≠ t := fun he => hbusy hw (he ▸ ht)
      simpa only [World.setThread, Function.update_of_ne hu] using hl u hw
    · cases h
  | work t now fault =>
    obtain ⟨work, rest, w₁, next, ht, hp, rfl⟩ := work_cases h
    rw [writer_proceed] at hw
    have hs := hi.shape t
    rw [ht] at hs
    rcases perform_writer hs hp hw with ⟨hw₀, hkeep⟩ | ⟨rfl, hlock⟩
    · by_cases hu : u = t
      · subst hu
        rw [threads_proceed_self]
        exact hkeep (ht ▸ hl u hw₀)
      · rw [threads_proceed_ne hu, (perform_frame hp).threads]
        exact hl u hw₀
    · rw [threads_proceed_self]
      exact hlock
  | stop =>
    cases h
    cases hw

theorem locks_run {consumed : List Receipt} {es : List (Event ι)}
    (h : run (World.step py) (World.init consumed) es = some w) (hw : w.writer = some u) : Locks (w.threads u) :=
  (run_invariant (fun x => Inv py x ∧ ∀ u, x.writer = some u → Locks (x.threads u))
    (fun _ e _ hx hi => ⟨inv_step e hx hi.1, fun _ => locks_step hx hi.1 hi.2⟩) h
    ⟨inv_init consumed, fun _ h => by cases h⟩).2 u hw

/-! ### The store exists -/

omit [DecidableEq ι] in
theorem perform_store {work : Work} (h : w.perform py t now fault work = some (w', next)) (hs : w'.store = none) :
    w.store = none ∧ work ≠ .createStore := by
  cases work
  case commit tx =>
    simp only [World.perform, World.commit] at h
    (repeat' split at h) <;> cases h <;> simp_all
  case evaluateRequalify op d r f =>
    simp only [World.perform] at h
    split at h
    · cases h
      exact ⟨hs, by simp⟩
    · obtain ⟨row, -, h⟩ := Option.bind_eq_some_iff.mp h
      split at h <;> cases h <;> exact ⟨hs, by simp⟩
    · cases h
  case createStore =>
    simp only [World.perform] at h
    cases h
    cases hst : w.store <;> simp [hst] at hs
  case closeGate reason =>
    simp only [World.perform] at h
    split at h <;> cases h
    · exact ⟨by simpa using hs, by simp⟩
    · exact ⟨hs, by simp⟩
  all_goals
    simp only [World.perform, World.orElse] at h
    (repeat' split at h) <;> cases h <;> first | exact ⟨hs, by simp⟩ | cases hs

/-- Without a store there is only the constructor, before its first step. -/
def Stored (w : World ι) : Prop :=
  w.store = none → ¬ Ready w ∧ ∀ t, w.threads t = [] ∨ ∃ rest, w.threads t = .createStore :: rest

theorem stored_step {e : Event ι} (h : w.step py e = some w') (hw : Stored w) : Stored w' := by
  intro hs
  cases e with
  | reopen t a c =>
    simp only [World.step] at h
    split at h <;> cases h
    next hm =>
    constructor
    · rintro ⟨m, hm, hr⟩
      cases hm
      cases hr
    intro u
    by_cases hu : u = t
    · subst hu
      exact .inr ⟨_, Function.update_self ..⟩
    · simp only [World.setThread, Function.update_of_ne hu]
      exact (hw hs).2 u
  | call t op =>
    simp only [World.step] at h
    split at h
    · next m hm _ =>
      split at h <;> cases h
      next hr => exact absurd ⟨m, hm, hr⟩ (hw hs).1
    · cases h
  | work t now fault =>
    obtain ⟨work, rest, w₁, next, ht, hp, rfl⟩ := work_cases h
    have hstore : (w₁.proceed t rest next).store = w₁.store := by cases next <;> rfl
    obtain ⟨hs₀, hne⟩ := perform_store hp (hstore ▸ hs)
    rcases (hw hs₀).2 t with hnil | ⟨rest', hcons⟩
    · rw [hnil] at ht
      cases ht
    · exact absurd (List.cons.inj (ht.symm.trans hcons)).1 hne
  | stop =>
    cases h
    constructor
    · rintro ⟨m, hm, -⟩
      cases hm
    · exact fun _ => .inl rfl

theorem store_of_opens {consumed : List Receipt} {es : List (Event ι)}
    (h : run (World.step py) (World.init consumed) es = some w) (ho : Opens (w.threads t)) : w.store ≠ none := by
  intro hs
  have hstored : Stored w := run_invariant Stored (fun _ _ _ hx hw => stored_step hx hw) h
    (fun _ => ⟨fun ⟨m, hm, _⟩ => (by cases hm), fun _ => .inl rfl⟩)
  have hshape := (inv_run h).shape t
  obtain ⟨r, hr⟩ := ho
  rcases (hstored hs).2 t with hnil | ⟨rest, hcons⟩
  · rw [hnil] at hr
    cases hr
  · rw [hcons] at hr hshape
    cases hshape with
    | plain hp => exact hp _ hr
    | create => simp at hr

/-! ### A denial beside a call that opens the gate -/

/-- The call only denies exposure and then raises. -/
def Raises (l : List Work) : Prop :=
  ∃ steps e, l = steps ++ [.raise e] ∧ ∀ x ∈ steps, ∃ reason, x ∈ deny reason

omit [DecidableEq ι] in
theorem perform_deny {work : Work} {reason : String} (hd : work ∈ deny reason)
    (h : w.perform py t now fault work = some (w', next)) : next = .go [] := by
  simp only [deny, List.mem_cons, List.not_mem_nil, or_false] at hd
  rcases hd with rfl | rfl | rfl <;> simp only [World.perform] at h
  · cases h
    rfl
  · split at h <;> cases h <;> rfl
  · split at h <;> cases h <;> rfl

omit [DecidableEq ι] in
theorem perform_raises {work : Work} {rest : List Work} (hr : Raises (work :: rest))
    (h : w.perform py t now fault work = some (w', next)) : Raises (after rest next) ∨ ∃ e, next = .raise e := by
  obtain ⟨steps, e, he, hsteps⟩ := hr
  cases steps with
  | nil =>
    cases he
    cases h
    exact .inr ⟨e, rfl⟩
  | cons x steps =>
    obtain ⟨rfl, rfl⟩ := List.cons.inj he
    obtain ⟨reason, hx⟩ := hsteps work (List.mem_cons_self ..)
    rw [perform_deny hx h]
    exact .inl ⟨steps, e, rfl, fun y hy => hsteps y (List.mem_cons_of_mem _ hy)⟩

omit [DecidableEq ι] in
theorem raises_deny (reason : String) (e : JournalError) : Raises (deny reason ++ [.raise e]) :=
  ⟨deny reason, e, rfl, fun _ hx => ⟨reason, hx⟩⟩

omit [DecidableEq ι] in
/-- A call that opens the gate goes on to do so, raises, or has cleared the reason. -/
theorem perform_opening {work : Work} {rest : List Work} (hs : Shape py w (work :: rest)) (ho : Opens (work :: rest))
    (h : w.perform py t now fault work = some (w', next)) :
    Opens (after rest next) ∨ Raises (after rest next) ∨ (∃ e, next = .raise e) ∨
      after rest next = [] ∧ ¬ Denied w' := by
  have hopens : ∀ b r, Opens (World.opening b r) := fun b r => ⟨r, by simp [World.opening]⟩
  cases hs with
  | plain hp => exact absurd ho (not_opens_of_plain hp)
  | consumeRequalify hr k d g o r =>
    simp only [World.perform] at h
    split at h
    · split at h <;> cases h
      · exact .inl (hopens false r)
      · exact .inr (.inr (.inl ⟨_, rfl⟩))
    · cases h
      exact .inr (.inr (.inl ⟨_, rfl⟩))
  | @opening hr b r ha =>
    simp only [World.perform] at h
    split at h
    · cases h
    split at h <;> cases h
    · exact .inl ⟨r, by simp [after]⟩
    · exact .inr (.inl (raises_deny _ _))
  | @unlinkSentinel hr b r ha =>
    simp only [World.perform] at h
    split at h
    · cases h
      exact .inl ⟨r, by simp [after]⟩
    split at h <;> cases h
    · exact .inr (.inr (.inl ⟨_, rfl⟩))
    · exact .inr (.inl (raises_deny _ _))
  | clearReason hr ha =>
    cases h
    refine .inr (.inr (.inr ⟨rfl, ?_⟩))
    rintro ⟨m, hm, hn⟩
    obtain ⟨m', -, rfl⟩ := Option.map_eq_some_iff.mp hm
    exact hn rfl
  | _ => simp [Opens] at ho

/-- A step of the denial, which meets no fault, or of the other call. -/
def Moves (d q : ι) (e : Event ι) : Prop := (∃ now, e = .work d now .none) ∨ ∃ now fault, e = .work q now fault

/-- A step of the denial is taken only after the other call has returned. -/
def Waits (d q : ι) (w : World ι) (e : Event ι) : Prop := (∃ now fault, e = .work d now fault) → w.threads q = []

/-- The state of a denial whose steps all come after the other call. -/
inductive Phase (reason : String) (w : World ι) (d q : ι) : Prop where
  | waiting (hd : w.threads d = deny reason)
  | setReason (hq : w.threads q = []) (hd : w.threads d = [.writeSentinel reason, .closeGate reason]) (hm : Denied w)
  | writeSentinel (hq : w.threads q = []) (hd : w.threads d = [.closeGate reason]) (hm : Denied w)
      (hs : w.sentinel ≠ none)
  | closeGate (hq : w.threads q = []) (hd : w.threads d = []) (h : DeniedEverywhere w)

variable {d q : ι} {reason : String}

/-- The other threads are idle, and the write lock is free or with one of the two calls. -/
structure Alone (py : Platform) (d q : ι) (w : World ι) : Prop where
  inv : Inv py w
  locks : ∀ u, w.writer = some u → Locks (w.threads u)
  store : w.store ≠ none
  idle : ∀ u, u ≠ d → u ≠ q → w.threads u = []

theorem alone_step {e : Event ι} (he : Moves d q e) (h : w.step py e = some w') (ha : Alone py d q w) :
    Alone py d q w' := by
  refine ⟨inv_step e h ha.inv, fun u => locks_step h ha.inv ha.locks, fun hs => ?_, fun u hd hq => ?_⟩
  all_goals
    obtain ⟨t, now, fault, rfl, ht⟩ : ∃ t now fault, e = .work t now fault ∧ (t = d ∨ t = q) := by
      rcases he with ⟨now, rfl⟩ | ⟨now, fault, rfl⟩
      · exact ⟨d, now, .none, rfl, .inl rfl⟩
      · exact ⟨q, now, fault, rfl, .inr rfl⟩
    obtain ⟨work, rest, w₁, next, -, hp, rfl⟩ := work_cases h
  · have hstore : (w₁.proceed t rest next).store = w₁.store := by cases next <;> rfl
    exact ha.store (perform_store hp (hstore ▸ hs)).1
  · have hu : u ≠ t := by
      rintro rfl
      exact ht.elim hd hq
    rw [threads_proceed_ne hu, (perform_frame hp).threads]
    exact ha.idle u hd hq

/-- A denial that takes its steps after the other call goes through its phases. -/
theorem phase_step (hdq : d ≠ q) {e : Event ι} (he : Moves d q e) (h : w.step py e = some w')
    (hw : Waits d q w e) (ha : Alone py d q w) (hp : Phase reason w d q) : Phase reason w' d q := by
  rcases he with ⟨now, rfl⟩ | ⟨now, fault, rfl⟩
  · have hq := hw ⟨now, .none, rfl⟩
    obtain ⟨work, rest, w₁, next, ht, hperf, rfl⟩ := work_cases h
    have hq' : (w₁.proceed d rest next).threads q = [] := by
      rw [threads_proceed_ne hdq.symm, (perform_frame hperf).threads, hq]
    have hmem : w.memory ≠ none := fun hm => by
      have := ha.inv.idle hm d
      rw [ht] at this
      cases this
    cases hp with
    | waiting hd =>
      obtain ⟨rfl, rfl⟩ := List.cons.inj (ht.symm.trans hd)
      cases hperf
      refine .setReason hq' (threads_proceed_self ..) ?_
      cases hm : w.memory with
      | none => exact absurd hm hmem
      | some m =>
        refine ⟨World.setReason reason m, by simp [World.proceed, World.setThread], ?_⟩
        cases hr : m.persistenceUnresolved <;> simp [World.setReason, hr]
    | setReason _ hd hm =>
      obtain ⟨rfl, rfl⟩ := List.cons.inj (ht.symm.trans hd)
      cases hperf
      exact .writeSentinel hq' (threads_proceed_self ..) hm (by simp [World.proceed, World.setThread])
    | writeSentinel _ hd hm hs =>
      obtain ⟨rfl, rfl⟩ := List.cons.inj (ht.symm.trans hd)
      have hwriter : w.writer = none := by
        -- the lock is with neither call, and nobody else is there to hold it
        cases hwr : w.writer with
        | none => rfl
        | some u =>
          have hl := ha.locks u hwr
          have hnot : ¬ Locks (w.threads u) := by
            by_cases hu : u = d
            · rw [hu, hd]
              rintro (⟨_, _, _, _, _, he⟩ | ⟨_, _, he⟩) <;> cases he
            · have hnil : w.threads u = [] := by
                by_cases huq : u = q
                · rw [huq, hq]
                · exact ha.idle u hu huq
              rw [hnil]
              rintro (⟨_, _, _, _, _, he⟩ | ⟨_, _, he⟩) <;> cases he
          exact absurd hl hnot
      simp only [World.perform, hwriter, Option.isNone_none, and_self, if_true] at hperf
      cases hperf
      refine .closeGate hq' (threads_proceed_self ..) ⟨hm, hs, ?_⟩
      cases hst : w.store with
      | none => exact absurd hst ha.store
      | some st =>
        exact ⟨st.closeGate reason now, by simp [World.proceed, World.setThread], _, rfl, rfl⟩
    | closeGate _ hd _ =>
      rw [hd] at ht
      cases ht
  · obtain ⟨work, rest, w₁, next, ht, hperf, rfl⟩ := work_cases h
    have hq : w.threads q ≠ [] := by rw [ht]; simp
    cases hp with
    | waiting hd =>
      refine .waiting ?_
      rw [threads_proceed_ne hdq, (perform_frame hperf).threads, hd]
    | setReason h => exact absurd h hq
    | writeSentinel h => exact absurd h hq
    | closeGate h => exact absurd h hq

/-- The call goes on to open the gate, or raises, or has cleared the reason. -/
def Opening (q : ι) (w : World ι) : Prop :=
  Opens (w.threads q) ∨ Raises (w.threads q) ∨ w.threads q = [] ∧ (w.raised q ≠ none ∨ ¬ Denied w)

/-- A step of the other call, once it has evaluated its evidence. -/
theorem opening_step (ha : Alone py d q w) (h : w.step py (.work q now fault) = some w')
    (ho : Opening q w) : Opening q w' := by
  obtain ⟨work, rest, w₁, next, ht, hp, rfl⟩ := work_cases h
  have hraise : (∃ e, next = .raise e) →
      (w₁.proceed q rest next).threads q = [] ∧ (w₁.proceed q rest next).raised q ≠ none := by
    rintro ⟨e, rfl⟩
    exact ⟨threads_proceed_self .., by simp [World.proceed]⟩
  have hshape := ha.inv.shape q
  rw [Opening, ht] at ho
  rw [ht] at hshape
  rcases ho with ho | hr | ⟨hnil, -⟩
  · rcases perform_opening hshape ho hp with h' | h' | h' | ⟨hnil, hden⟩
    · exact .inl (threads_proceed_self (w := w₁) rest next ▸ h')
    · exact .inr (.inl (threads_proceed_self (w := w₁) rest next ▸ h'))
    · exact .inr (.inr ⟨(hraise h').1, .inl (hraise h').2⟩)
    · refine .inr (.inr ⟨(threads_proceed_self rest next).trans hnil, .inr ?_⟩)
      rwa [Denied, memory_proceed]
  · rcases perform_raises hr hp with h' | h'
    · exact .inr (.inl (threads_proceed_self (w := w₁) rest next ▸ h'))
    · exact .inr (.inr ⟨(hraise h').1, .inl (hraise h').2⟩)
  · cases hnil

omit [DecidableEq ι] in
theorem work_memory {work : Work} {reason : String} (hw : work ∈ [Work.writeSentinel reason, .closeGate reason])
    (h : w.perform py t now fault work = some (w', next)) :
    next = .go [] ∧ w'.memory = w.memory ∧ w'.raised = w.raised := by
  simp only [List.mem_cons, List.not_mem_nil, or_false] at hw
  rcases hw with rfl | rfl <;> simp only [World.perform] at h
  · split at h <;> cases h <;> exact ⟨rfl, rfl, rfl⟩
  · split at h <;> cases h <;> exact ⟨rfl, rfl, rfl⟩

/-- A denial that has set its reason does not set it again, so the other call has the last word on it. -/
theorem opening_kept (hdq : d ≠ q) {e : Event ι} (he : Moves d q e) (h : w.step py e = some w') (ha : Alone py d q w)
    (hd : w.threads d <:+ [Work.writeSentinel reason, .closeGate reason]) (ho : Opening q w) :
    w'.threads d <:+ [Work.writeSentinel reason, .closeGate reason] ∧ Opening q w' := by
  rcases he with ⟨now, rfl⟩ | ⟨now, fault, rfl⟩
  · obtain ⟨work, rest, w₁, next, ht, hp, rfl⟩ := work_cases h
    rw [ht] at hd
    obtain ⟨rfl, hm, hr⟩ := work_memory (hd.mem (List.mem_cons_self ..)) hp
    have hthreads : (w₁.proceed d rest (.go [])).threads q = w.threads q := by
      rw [threads_proceed_ne hdq.symm, (perform_frame hp).threads]
    refine ⟨?_, ?_⟩
    · rw [threads_proceed_self]
      exact (List.suffix_cons work rest).trans hd
    · rw [Opening, hthreads, Denied, memory_proceed, hm]
      exact hr ▸ ho
  · refine ⟨?_, opening_step ha h ho⟩
    obtain ⟨work, rest, w₁, next, ht, hp, rfl⟩ := work_cases h
    rwa [threads_proceed_ne hdq, (perform_frame hp).threads]

theorem along_waits_of_idle (hdq : d ≠ q) {es : List (Event ι)} (hes : ∀ e ∈ es, Moves d q e)
    (hq : w.threads q = []) : Along (World.step py) (Waits d q) w es := by
  induction es generalizing w with
  | nil => trivial
  | cons e es ih =>
    refine ⟨fun _ => hq, fun x hx => ih (fun e he => hes e (List.mem_cons_of_mem _ he)) ?_⟩
    rcases hes e (List.mem_cons_self ..) with ⟨now, rfl⟩ | ⟨now, fault, rfl⟩
    · obtain ⟨work, rest, w₁, next, -, hp, rfl⟩ := work_cases hx
      rw [threads_proceed_ne hdq.symm, (perform_frame hp).threads, hq]
    · obtain ⟨work, rest, w₁, next, ht, -⟩ := work_cases hx
      rw [hq] at ht
      cases ht

/-- A denial that outlives the success of the other call has waited for it. -/
theorem waits_of_denied (hdq : d ≠ q) {es : List (Event ι)} (hes : ∀ e ∈ es, Moves d q e)
    (h : run (World.step py) w es = some w') (ha : Alone py d q w) (hd : w.threads d = deny reason)
    (ho : Opening q w) (hq' : w'.threads q = []) (hr' : w'.raised q = none) (hd' : Denied w') :
    Along (World.step py) (Waits d q) w es := by
  induction es generalizing w with
  | nil => trivial
  | cons e es ih =>
    obtain ⟨x, hx, hrun⟩ := run_cons.mp h
    have he := hes e (List.mem_cons_self ..)
    have hes' : ∀ e ∈ es, Moves d q e := fun e he => hes e (List.mem_cons_of_mem _ he)
    have hax := alone_step he hx ha
    by_cases hq : w.threads q = []
    · exact along_waits_of_idle hdq hes hq
    rcases he with ⟨now, rfl⟩ | ⟨now, fault, rfl⟩
    · -- the reason is set before the other call clears it
      exfalso
      obtain ⟨work, rest, w₁, next, ht, hp, rfl⟩ := work_cases hx
      obtain ⟨rfl, rfl⟩ := List.cons.inj (ht.symm.trans hd)
      have hthreads : (w₁.proceed d [.writeSentinel reason, .closeGate reason] next).threads q = w.threads q := by
        rw [threads_proceed_ne hdq.symm, (perform_frame hp).threads]
      have hox : Opening q (w₁.proceed d [.writeSentinel reason, .closeGate reason] next) := by
        rw [Opening, hthreads]
        rcases ho with ho | ho | ⟨hnil, -⟩
        · exact .inl ho
        · exact .inr (.inl ho)
        · exact absurd hnil hq
      cases hp
      have hlast : _ ∧ Opening q w' := (run_invariant_along
        (fun y => Alone py d q y ∧ y.threads d <:+ [Work.writeSentinel reason, .closeGate reason] ∧ Opening q y)
        (fun _ _ _ hy he hi => ⟨alone_step he hy hi.1, opening_kept hdq he hy hi.1 hi.2.1 hi.2.2⟩) hrun
        (along_of_mem hes' _) ⟨hax, by rw [threads_proceed_self]; exact List.suffix_rfl, hox⟩).2
      rcases hlast.2 with ⟨r, hr⟩ | ⟨steps, e, he, -⟩ | ⟨-, hr | hr⟩
      · rw [hq'] at hr
        cases hr
      · rw [hq'] at he
        simp at he
      · exact hr hr'
      · exact hr hd'
    · refine ⟨fun ⟨_, _, he⟩ => ?_, fun y hy => ?_⟩
      · exact absurd (by cases he; rfl) hdq
      · obtain rfl : x = y := Option.some.inj (hx.symm.trans hy)
        refine ih hes' hrun hax ?_ (opening_step ha hx ho)
        obtain ⟨work, rest, w₁, next, -, hp, rfl⟩ := work_cases hx
        rw [threads_proceed_ne hdq, (perform_frame hp).threads, hd]

/-- For every interleaving of a denial with a call of `requalify_exposure` or `authorize_bootstrap`
that has evaluated its evidence: if no step of the denial is taken before that call returns,
exposure is denied at the end in the row, in the sentinel and in the volatile reason. If the
other call returns without an exception, this is also necessary. -/
theorem denial_kept {consumed : List Receipt} {es₀ es : List (Event ι)} {w w' : World ι} {d q : ι} {reason : String}
    (h₀ : run (World.step py) (World.init consumed) es₀ = some w) (hdq : d ≠ q) (hq : Opens (w.threads q))
    (hd : w.threads d = deny reason) (hidle : ∀ u, u ≠ d → u ≠ q → w.threads u = [])
    (hes : ∀ e ∈ es, Moves d q e) (h : run (World.step py) w es = some w')
    (hd' : w'.threads d = []) (hq' : w'.threads q = []) :
    (Along (World.step py) (Waits d q) w es → DeniedEverywhere w') ∧
      (w'.raised q = none → DeniedEverywhere w' → Along (World.step py) (Waits d q) w es) := by
  have ha : Alone py d q w := ⟨inv_run h₀, fun u hu => locks_run h₀ hu, store_of_opens h₀ hq, hidle⟩
  constructor
  · intro hw
    have hlast := run_invariant_along (fun x => Alone py d q x ∧ Phase reason x d q)
      (fun _ _ _ hx he hi => ⟨alone_step he.1 hx hi.1, phase_step hdq he.1 hx he.2 hi.1 hi.2⟩) h
      ((along_of_mem hes w).and hw) ⟨ha, .waiting hd⟩
    cases hlast.2 with
    | waiting h =>
      rw [hd'] at h
      cases h
    | setReason _ h =>
      rw [hd'] at h
      cases h
    | writeSentinel _ h =>
      rw [hd'] at h
      cases h
    | closeGate _ _ h => exact h
  · intro hr hden
    exact waits_of_denied hdq hes h ha hd (.inl hq) hq' hr hden.1

end Denial

namespace Sample

def moves (t : Bool) (n : Nat) : List (Event Bool) := List.replicate n (.work t 5 .none)

/-- One thread has evaluated the bootstrap receipt when the other comes to deny exposure. -/
def evaluated : List (Event Bool) :=
  .reopen false (some policy) "challenge-1" :: moves false 7 ++
    .call false (.authorizeBootstrap bootstrap) :: moves false 2 ++ [.call true (.denyNewExposure "OPERATOR")]

theorem moves_of_mem {n m : Nat} {e : Event Bool} (h : e ∈ moves false n ++ moves true m) : Moves true false e := by
  simp only [moves, List.mem_append, List.mem_replicate] at h
  rcases h with ⟨-, rfl⟩ | ⟨-, rfl⟩
  · exact .inr ⟨5, .none, rfl⟩
  · exact .inl ⟨5, rfl⟩

def isOpening : List Work → Bool
  | [.openGate _ _, .unlinkSentinel _ _, .clearReason _] => true
  | _ => false

theorem opens_of_isOpening {l : List Work} (h : isOpening l = true) : Opens l := by
  unfold isOpening at h
  split at h
  · exact ⟨_, by simp; rfl⟩
  · cases h

def isDenial (reason : String) : List Work → Bool
  | [.setReason a, .writeSentinel b, .closeGate c] => a = reason && b = reason && c = reason
  | _ => false

theorem eq_deny_of_isDenial {l : List Work} {reason : String} (h : isDenial reason l = true) : l = deny reason := by
  unfold isDenial at h
  split at h
  · simp only [Bool.and_eq_true, decide_eq_true_eq] at h
    obtain ⟨⟨rfl, rfl⟩, rfl⟩ := h
    rfl
  · cases h

def waits (w : World Bool) : Event Bool → Bool
  | .work true _ _ => (w.threads false).isEmpty
  | _ => true

theorem waits_of_waits {w : World Bool} {e : Event Bool} (h : waits w e = true) : Waits true false w e := by
  rintro ⟨now, fault, rfl⟩
  simpa [waits] using h

/-- Exposure is allowed in memory and in the row, and there is no sentinel. -/
def allowed (w : World Bool) : Bool :=
  (w.memory.any fun m => m.ready && m.persistenceUnresolved.isNone) && w.sentinel.isNone &&
    w.store.any fun st => st.gate.any fun g => g.state = .opened

theorem evaluated_run : ∃ w : World Bool, run (World.step platform) (World.init []) evaluated = some w ∧
    Opens (w.threads false) ∧ w.threads true = deny "OPERATOR" ∧
    (∃ w', run (World.step platform) w (moves true 3 ++ moves false 3) = some w' ∧ w'.threads true = [] ∧
      w'.threads false = [] ∧ allowed w' = true) ∧
    ∃ w', run (World.step platform) w (moves false 3 ++ moves true 3) = some w' ∧ w'.threads true = [] ∧
      w'.threads false = [] ∧ Along (World.step platform) (fun w e => waits w e = true) w (moves false 3 ++ moves true 3) := by
  have hrun : ((run (World.step platform) (World.init []) evaluated).any fun w =>
      (isOpening (w.threads false) && isDenial "OPERATOR" (w.threads true)) &&
      ((run (World.step platform) w (moves true 3 ++ moves false 3)).any fun w' =>
        ((w'.threads true).isEmpty && (w'.threads false).isEmpty) && allowed w') &&
      ((run (World.step platform) w (moves false 3 ++ moves true 3)).any fun w' =>
        (w'.threads true).isEmpty && (w'.threads false).isEmpty) &&
      decide (Along (World.step platform) (fun w e => waits w e = true) w (moves false 3 ++ moves true 3))) = true := by
    decide +kernel
  obtain ⟨w, hw, h⟩ := (Option.any_eq_true _ _).mp hrun
  simp only [Bool.and_eq_true, Option.any_eq_true, List.isEmpty_iff, decide_eq_true_eq] at h
  obtain ⟨⟨⟨⟨ho, hd⟩, w₁, h₁, ⟨ht₁, hf₁⟩, ha⟩, w₂, h₂, ht₂, hf₂⟩, halong⟩ := h
  exact ⟨w, hw, opens_of_isOpening ho, eq_deny_of_isDenial hd, ⟨w₁, h₁, ht₁, hf₁, ha⟩, w₂, h₂, ht₂, hf₂, halong⟩

end Sample

open Sample in
/-- A denial after the bootstrap of the sample is kept. -/
theorem denial_kept_sample : ∃ w w' : World Bool, run (World.step platform) (World.init []) evaluated = some w ∧
    Opens (w.threads false) ∧ w.threads true = deny "OPERATOR" ∧
    run (World.step platform) w (moves false 3 ++ moves true 3) = some w' ∧ DeniedEverywhere w' := by
  obtain ⟨w, hw, ho, hd, -, w', hw', ht, hf, halong⟩ := evaluated_run
  refine ⟨w, w', hw, ho, hd, hw', ?_⟩
  refine (denial_kept hw (by decide) ho hd ?_ (fun e he => moves_of_mem he) hw' ht hf).1
    (halong.mono fun _ _ => waits_of_waits)
  rintro (_ | _) hd hq
  · exact absurd rfl hq
  · exact absurd rfl hd

open Sample in
/-- A denial made between the evaluation of the bootstrap receipt and the end of the call is lost. -/
theorem denial_lost : ∃ w w' : World Bool, run (World.step platform) (World.init []) evaluated = some w ∧
    Opens (w.threads false) ∧ w.threads true = deny "OPERATOR" ∧
    run (World.step platform) w (moves true 3 ++ moves false 3) = some w' ∧ w'.threads true = [] ∧
    w'.threads false = [] ∧ w'.exposureAllowed ∧ w'.sentinel = none ∧ ¬ DeniedEverywhere w' := by
  obtain ⟨w, hw, ho, hd, ⟨w', hw', ht, hf, ha⟩, -⟩ := evaluated_run
  simp only [allowed, Bool.and_eq_true, Option.any_eq_true, Option.isNone_iff_eq_none] at ha
  obtain ⟨⟨hm, hs⟩, -⟩ := ha
  exact ⟨w, w', hw, ho, hd, hw', ht, hf, hm, hs, fun h => h.2.1 hs⟩

end ATB.Proof.RecoveryJournal
