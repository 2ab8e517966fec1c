import AutomatedTradingBot.Proof.Stage5.AuthorityStore.Steps
import AutomatedTradingBot.Source.Stage5.AuthorityWriters

/-!
# The consumption fence

What holds of fences and admissions in any interleaving of the calls of the service,
with sections cut off and recovered.

* `effect_perform`: a section leaves the state, renews its head, or advances its time;
* `heads_after`: the heads and the admissions of the log after a section;
* `fence_run`: the store stands still while a fence is held, and no fence is entered
  with an admission issued before the head was renewed.
-/

namespace ATB.Proof.AuthorityStore

open ATB.Durable ATB.Stage5.AuthorityStore

variable {env : Environment} {cfg : ServiceConfiguration} {s : Store} {I : Store → Prop}

/-! ## Admissions -/

theorem requireSigningKey_spec {state : AuthorityState} {keyId : String} {version : ℤ}
    (h : requireSigningKey state keyId version = .ok ()) : keyId = state.currentKeyId ∧ version = state.currentKeyVersion := by
  obtain ⟨_, -, h⟩ := bind_eq_ok.mp h
  rw [raiseIf_eq_ok, not_or, not_not, not_not] at h
  exact Prod.mk.inj h.2

theorem checkAuthority_eq_ok {envelope : AdmissionEnvelope} {state : AuthorityState}
    (h : checkAuthority envelope state = .ok ()) : envelope.authorityHead = state.authorityHead := by
  obtain ⟨_, -, h⟩ := bind_eq_ok.mp h
  rw [raiseIf_eq_ok] at h
  by_contra hne
  exact h (.inr (.inr (.inr (.inl hne))))

/-- An advance of the high water keeps what an envelope is checked against. -/
theorem checkAuthority_advanced (envelope : AdmissionEnvelope) (state : AuthorityState) (observedAt : String) :
    checkAuthority envelope (advancedState env state observedAt) = checkAuthority envelope state := rfl

/-- The authority of an admission is the one that it was made under. -/
theorem admitUnder_spec {c : AdmitCall} {state : AuthorityState} {a : SignedAdmission}
    (h : admitUnder env cfg c state = .ok a) : checkAuthority a.envelope state = .ok () := by
  obtain ⟨_, -, h⟩ := bind_eq_ok.mp h
  obtain ⟨⟨⟩, hkey, h⟩ := bind_eq_ok.mp h
  obtain ⟨-, h⟩ := raiseIf_bind_eq_ok.mp h
  obtain ⟨snapshot, -, h⟩ := bind_eq_ok.mp h
  obtain ⟨-, h⟩ := raiseIf_bind_eq_ok.mp h
  obtain ⟨_, -, h⟩ := bind_eq_ok.mp h
  obtain ⟨_, -, h⟩ := bind_eq_ok.mp h
  obtain ⟨-, h⟩ := raiseIf_bind_eq_ok.mp h
  obtain ⟨_, -, h⟩ := bind_eq_ok.mp h
  obtain ⟨_, -, h⟩ := bind_eq_ok.mp h
  obtain ⟨-, h⟩ := raiseIf_bind_eq_ok.mp h
  cases h
  obtain ⟨hid, hversion⟩ := requireSigningKey_spec hkey
  unfold checkAuthority
  dsimp only
  rw [hkey, ok_bind, raiseIf_eq_ok]
  simp [hid, hversion]

/-! ## Sections -/

/-- How a section that renews the head or does not moves the state `v`. -/
inductive Effect (env : Environment) (v : AuthorityState) : Bool → AuthorityState → Prop
  | unmoved : Effect env v false v
  | renewed (b : AuthorityBody) (sequence : b.sequence = v.sequence + 1) (head : b.authorityHead = v.authorityHead) :
    Effect env v true (successorOf env b)
  | advanced (observedAt : String) : Effect env v false (advancedState env v observedAt)

/-- What a section has loaded, when the state is `v`. -/
def Loaded (env : Environment) (v : AuthorityState) : Section → Prop
  | .publish current _ _ successor _ =>
    current.sequence ≤ v.sequence ∧ (current.sequence = v.sequence → current = v) ∧
      ∃ b, successor = successorOf env b ∧ b.sequence = current.sequence + 1 ∧ b.authorityHead = current.authorityHead
  | _ => True

theorem managedBody_successor {current : AuthorityState} {request : Json} {body : AuthorityBody}
    (h : managedBody current request = .ok body) :
    body.sequence = current.sequence + 1 ∧ body.authorityHead = current.authorityHead := by
  unfold managedBody at h
  dsimp only at h
  split at h
  · cases h
    exact ⟨rfl, rfl⟩
  · split at h
    · cases h
      exact ⟨rfl, rfl⟩
    · split at h
      · simp only [bind_eq_ok, pure_eq_ok] at h
        obtain ⟨_, -, _, -, _, -, _, -, _, -, _, -, _, -, rfl⟩ := h
        exact ⟨rfl, rfl⟩
      · cases h

theorem keySuccessor_spec {action : KeyAction} {current successor : AuthorityState} {keyId : String} {version : ℤ}
    (h : action.successor env current keyId version = .ok successor) :
    ∃ records id version, successor = keySuccessor env current records id version := by
  cases action with
  | provision =>
    simp only [KeyAction.successor, provisionVerifyOnly, bind_eq_ok, pure_eq_ok] at h
    obtain ⟨_, -, _, -, rfl⟩ := h
    exact ⟨_, _, _, rfl⟩
  | activate =>
    simp only [KeyAction.successor, activateKey, bind_eq_ok, pure_eq_ok] at h
    obtain ⟨_, -, _, -, _, -, _, -, rfl⟩ := h
    exact ⟨_, _, _, rfl⟩
  | retire =>
    simp only [KeyAction.successor, retireKey, bind_eq_ok, pure_eq_ok] at h
    obtain ⟨_, -, _, -, _, -, rfl⟩ := h
    exact ⟨_, _, _, rfl⟩

theorem loaded_load {call : AuthorityCall} {db : Database} {σ : Section} (h : call.load env cfg db = .ok σ) :
    Loaded env db.state σ := by
  cases call with
  | manage request =>
    obtain ⟨commandId, -, h⟩ := bind_eq_ok.mp h
    obtain ⟨current, hcurrent, h⟩ := bind_eq_ok.mp h
    obtain ⟨-, rfl⟩ := read_eq_ok.mp hcurrent
    split at h
    · cases h
      trivial
    · obtain ⟨body, hbody, h⟩ := bind_eq_ok.mp h
      cases h
      obtain ⟨hsequence, hhead⟩ := managedBody_successor hbody
      exact ⟨le_rfl, fun _ => rfl, body, rfl, hsequence, hhead⟩
  | key action commandId keyId version =>
    obtain ⟨current, hcurrent, h⟩ := bind_eq_ok.mp h
    obtain ⟨-, rfl⟩ := read_eq_ok.mp hcurrent
    obtain ⟨successor, hsuccessor, h⟩ := bind_eq_ok.mp h
    cases h
    obtain ⟨records, id, version, rfl⟩ := keySuccessor_spec hsuccessor
    exact ⟨le_rfl, fun _ => rfl, _, rfl, rfl, rfl⟩
  | admitCall call =>
    obtain ⟨-, h⟩ := raiseIf_bind_eq_ok.mp h
    cases h
    trivial
  | recover =>
    cases h
    trivial
  | fence call =>
    obtain ⟨_, -, h⟩ := bind_eq_ok.mp h
    cases h
    trivial
theorem checkTimes_active {state : AuthorityState} {observedAt : String} {expired : Bool}
    (h : checkTimes env state observedAt = .ok expired) : state.authorityStatus = .active := by
  simp only [checkTimes, bind_eq_ok, raiseIf_eq_ok] at h
  obtain ⟨_, -, _, -, _, -, _, -, _, -, _, -, _, -, _, -, _, -, _, h, -⟩ := h
  exact not_not.mp h

theorem ne_of_sequence {db db' : Database} (h : db'.state.sequence = db.state.sequence + 1) : db' ≠ db := by
  rintro rfl
  omega

/-- How a section moves the state, by whether it renews the head. -/
def Moved (env : Environment) (σ : Section) (db db' : Database) : Prop :=
  Effect env db.state (σ.renews db db') db'.state

theorem moved_refl (env : Environment) (σ : Section) (db : Database) : Moved env σ db db := by
  have hr : σ.renews db db = false := by
    cases σ <;> simp [Section.renews]
  rw [Moved, hr]
  exact .unmoved

theorem wp_consumptionWitness (observedAt : String) :
    wp (consumptionWitness env observedAt)
      (post (fun state t => t = s ∧ state = s.database.state ∧ state.verify env = .ok () ∧ reportsOperational s = true)
        fun t => t = s) s := by
  unfold consumptionWitness
  refine wp_bind (wp_operationalState (I := fun t => t = s) rfl) ?_
  rintro state t ⟨rfl, rfl, hverify, hop⟩
  dsimp only
  iterate 11
    refine wp_check_bind (I := fun u => u = t) rfl ?_
    intro _ _
  exact wp_pure ⟨rfl, rfl, hverify, hop⟩

theorem wp_enterFence (c : FenceCall) :
    wp (AuthorityService.enterFence env c)
      (post (fun state t => t = s ∧ state = s.database.state ∧ state.verify env = .ok () ∧ reportsOperational s = true ∧
        checkAuthority c.admission.envelope state = .ok ()) fun t => t = s) s := by
  unfold AuthorityService.enterFence
  refine wp_bind (wp_consumptionWitness _) ?_
  rintro state t ⟨rfl, rfl, hverify, hop⟩
  refine wp_check_bind (I := fun u => u = t) rfl ?_
  intro _ _
  refine wp_check_bind (I := fun u => u = t) rfl ?_
  intro _ hauthority
  refine wp_check_bind (I := fun u => u = t) rfl ?_
  intro _ _
  exact wp_pure ⟨rfl, rfl, hverify, hop, hauthority⟩

/-- The fence is entered when the witness yields and the admission is current. -/
theorem enterFence_run {c : FenceCall} {state : AuthorityState}
    (hw : ((consumptionWitness env c.now.isoformat).run s none).1 = .ok state)
    (ha : checkAuthority c.admission.envelope state = .ok ()) (hsnapshot : checkSnapshot env c = .ok ()) :
    ((AuthorityService.enterFence env c).run s none).1 = .ok state := by
  obtain ⟨-, -, hverify, -⟩ := run_of_ok (wp_consumptionWitness _) hw
  have hpass : ∀ {y : Except StoreError Unit} {f : Unit → Durable.Operation Store StoreError AuthorityState} {t n}, y = .ok () →
      (check y >>= f) t n = f () t n := by
    rintro y f t n rfl
    rfl
  unfold AuthorityService.enterFence
  rw [Operation.run] at hw ⊢
  rw [bind_apply]
  rcases hr : consumptionWitness env c.now.isoformat s none with ⟨r, t, n⟩
  rw [hr] at hw
  subst hw
  dsimp only
  rw [hpass hverify, hpass ha, hpass hsnapshot]
  rfl

/-- What a section returns: an admission under the authority that it leaves, or a fence on the store as it was. -/
def Answers (env : Environment) (s : Store) (σ : Section) (t : Store) (reply : Reply) : Prop :=
  match σ, reply with
  | .admitCall _, .admission a => checkAuthority a.envelope t.database.state = .ok ()
  | .fence call, _ => t = s ∧ s.database.state.verify env = .ok () ∧ reportsOperational s = true ∧
      checkAuthority call.admission.envelope s.database.state = .ok ()
  | _, _ => True

theorem sequence_successorOf (b : AuthorityBody) : (successorOf env b).sequence = b.sequence := by
  simp only [successorOf, AuthorityState.create]

theorem moved_publish {current : AuthorityState} {c p r : String} {x : AuthorityState} {db : Database}
    (hσ : Loaded env s.database.state (.publish current c p x r))
    (hdb : commitSuccessor env s.database.state.stateDigest c p x r s.database = .ok db) :
    Moved env (.publish current c p x r) s.database db := by
  obtain ⟨-, heq, b, hsuccessor, hsequence, hhead⟩ := hσ
  obtain ⟨hx, -, hnext, -⟩ := commitSuccessor_spec hdb
  have hb : x.sequence = b.sequence := by rw [hsuccessor, sequence_successorOf]
  obtain rfl := heq (by omega)
  have hne : db ≠ s.database := ne_of_sequence (by rw [hx]; exact hnext)
  have hr : (Section.publish s.database.state c p x r).renews s.database db = true := decide_eq_true hne
  rw [Moved, hr, hx, hsuccessor]
  exact .renewed b hsequence hhead

theorem moved_expired {call : AdmitCall} {c p r observedAt : String} {db : Database}
    (hdb : commitSuccessor env s.database.state.stateDigest c p (expiredState env s.database.state observedAt) r s.database = .ok db) :
    Moved env (.admitCall call) s.database db := by
  obtain ⟨hx, -, hnext, -⟩ := commitSuccessor_spec hdb
  have hne : db ≠ s.database := ne_of_sequence (by rw [hx]; exact hnext)
  have hr : (Section.admitCall call).renews s.database db = true := decide_eq_true ⟨hne, by rw [hx]; rfl⟩
  rw [Moved, hr, hx]
  exact .renewed _ rfl rfl

theorem renews_advanced {call : AdmitCall} {observedAt : String} {db : Database} {expired : Bool}
    (htimes : checkTimes env s.database.state observedAt = .ok expired)
    (hx : db.state = advancedState env s.database.state observedAt) : (Section.admitCall call).renews s.database db = false := by
  refine decide_eq_false ?_
  rintro ⟨-, hstatus⟩
  have hsame : (advancedState env s.database.state observedAt).authorityStatus = s.database.state.authorityStatus := rfl
  rw [hx, hsame, checkTimes_active htimes] at hstatus
  cases hstatus

theorem wp_perform {σ : Section} (hσ : Loaded env s.database.state σ) :
    wp (σ.perform env cfg) (post (fun r t => Moved env σ s.database t.database ∧ Answers env s σ t r)
      fun t => Moved env σ s.database t.database) s := by
  have hs : Moved env σ s.database s.database := moved_refl env σ _
  cases σ with
  | retry commandId payloadDigest =>
    refine wp_bind (wp_retryResult (I := fun t => Moved env _ s.database t.database) hs) ?_
    intro _ t ht
    exact wp_pure ⟨ht, trivial⟩
  | publish current commandId payloadDigest successor result =>
    refine wp_bind (wp_publish (I := fun t => Moved env _ s.database t.database) hs fun _ _ _ =>
      advance_of_database hs fun db hdb => moved_publish hσ hdb) ?_
    intro _ t ht
    exact wp_pure ⟨ht, trivial⟩
  | admitCall call =>
    refine wp_bind (P := fun a t => Moved env (.admitCall call) s.database t.database ∧ Answers env s (.admitCall call) t (.admission a)) ?_ ?_
    · refine wp_bind (wp_admission (J := Moved env (.admitCall call) s.database) hs ?_ ?_) ?_
      · intro c p r db _ hdb
        exact moved_expired hdb
      · intro c p r db htimes hdb
        have hx := (commitSuccessor_spec hdb).1
        rw [Moved, renews_advanced htimes hx, hx]
        exact .advanced _
      · rintro state t ⟨rfl, ht, -⟩
        refine wp_check (I := fun t : Store => Moved env (.admitCall call) s.database t.database) ht ?_
        exact fun a ha => ⟨ht, admitUnder_spec ha⟩
    · rintro a t ⟨ht, ha⟩
      exact wp_pure ⟨ht, ha⟩
  | recover =>
    refine wp_bind (wp_mono (wp_recover_database (s := s)) (fun _ _ h => h) fun t h => ?_) ?_
    · rw [h]
      exact hs
    · intro _ t ht
      refine wp_pure ⟨?_, trivial⟩
      rw [ht]
      exact hs
  | fence call =>
    refine wp_bind (wp_mono (wp_enterFence call) (fun _ _ h => h) fun t h => ?_) ?_
    · rw [h]
      exact hs
    · rintro state t ⟨rfl, rfl, hverify, hop, hauthority⟩
      exact wp_pure ⟨hs, rfl, hverify, hop, hauthority⟩

/-! ## Heads -/

def bodyDigest (env : Environment) (b : AuthorityBody) : String := digest env b.json

def namedHead (a : SignedAdmission) : String := a.envelope.authorityHead

/-- What the log says of the state `v`. -/
structure Heads (env : Environment) (first : String) (log : List Stage5.AuthorityStore.Event) (v : AuthorityState) : Prop where
  head : v.authorityHead = Fencing.head (bodyDigest env) first log
  below : ∀ b ∈ Fencing.renewals log, b.sequence ≤ v.sequence
  ordered : (Fencing.renewals log).Pairwise fun b b' => b'.sequence < b.sequence
  sound : Fencing.Sound (bodyDigest env) first namedHead log
  standing : Fencing.Standing (fun a => checkAuthority a.envelope v = .ok ()) log

variable {first : String} {log : List Stage5.AuthorityStore.Event}

theorem renewal_successorOf {db db' : Database} {b : AuthorityBody} (h : db'.state = successorOf env b)
    (hhead : b.authorityHead = db.state.authorityHead) : renewal db db' = b := by
  simp only [renewal, h, successorOf, AuthorityState.create, ← hhead]

theorem heads_moved {σ : Section} {db db' : Database} (h : Heads env first log db.state) (hm : Moved env σ db db') :
    Heads env first ((if σ.renews db db' then [.renewed (renewal db db')] else []) ++ log) db'.state := by
  unfold Moved at hm
  generalize hr : σ.renews db db' = renews at hm
  generalize hv : db.state = v at hm
  generalize hw : db'.state = w at hm
  rw [hv] at h
  cases hm with
  | unmoved => exact h
  | renewed b sequence head =>
    rw [renewal_successorOf hw (by rw [hv]; exact head), if_pos rfl]
    refine ⟨?_, ?_, ?_, h.sound, trivial⟩
    · simp only [successorOf, AuthorityState.create, List.singleton_append, Fencing.head, Fencing.renewals, bodyDigest]
    · intro b' hb'
      rw [sequence_successorOf]
      rcases List.mem_cons.mp hb' with rfl | hb'
      · exact le_rfl
      · have := h.below b' hb'
        omega
    · refine List.pairwise_cons.mpr ⟨fun b' hb' => ?_, h.ordered⟩
      have := h.below b' hb'
      omega
  | advanced observedAt =>
    refine ⟨h.head, fun b hb => ?_, h.ordered, h.sound, h.standing⟩
    have hsequence : (advancedState env v observedAt).sequence = v.sequence + 1 := rfl
    have := h.below b hb
    omega

theorem heads_events {σ : Section} {t : Store} {r : Except (Stop StoreError) Reply} (h : Heads env first log s.database.state)
    (hm : Moved env σ s.database t.database) (hr : ∀ reply, r = .ok reply → Answers env s σ t reply) :
    Heads env first (σ.events s.database t.database r ++ log) t.database.state := by
  have hmoved := heads_moved h hm
  unfold Section.events
  generalize (if σ.renews s.database t.database then [.renewed (renewal s.database t.database)] else [] : List Stage5.AuthorityStore.Event) = renewed
    at hmoved ⊢
  dsimp only
  split
  · have ha : checkAuthority _ t.database.state = .ok () := hr _ rfl
    exact ⟨hmoved.head, hmoved.below, hmoved.ordered, ⟨(checkAuthority_eq_ok ha).trans hmoved.head, hmoved.sound⟩,
      ha, hmoved.standing⟩
  · obtain ⟨rfl, -, -, ha⟩ := hr _ rfl
    exact ⟨hmoved.head, hmoved.below, hmoved.ordered, ⟨(checkAuthority_eq_ok ha).trans hmoved.head, hmoved.sound⟩,
      hmoved.standing⟩
  · exact hmoved

theorem loaded_moved {σ σ' : Section} {db db' : Database} (h : Loaded env db.state σ) (hm : Moved env σ' db db') :
    Loaded env db'.state σ := by
  unfold Moved at hm
  generalize σ'.renews db db' = renews at hm
  generalize db.state = v at h hm
  generalize db'.state = w at hm
  -- The state is the same, or its sequence is past that of anything loaded.
  have hnext : w = v ∨ w.sequence = v.sequence + 1 := by
    cases hm with
    | unmoved => exact .inl rfl
    | renewed b sequence => exact .inr (by rw [sequence_successorOf, sequence])
    | advanced observedAt => exact .inr rfl
  rcases hnext with rfl | hnext
  · exact h
  · cases σ with
    | publish current _ _ successor _ =>
      obtain ⟨hle, -, hsuccessor⟩ := h
      exact ⟨by omega, fun _ => by omega, hsuccessor⟩
    | _ => trivial

/-! ## Runs -/

/-- The section that a call has still to go through. -/
def remaining : Phase → Option Section
  | .ready σ => some σ
  | .waiting σ => some σ
  | .entered σ => some σ
  | .locked σ => some σ
  | _ => none

/-- The call holds the file lock. -/
def holds : Phase → Bool
  | .locked _ => true
  | .fenced .. => true
  | _ => false

/-- What the entry of a fence has checked of the store. -/
def Entered (env : Environment) (a : SignedAdmission) (t : Store) : Prop :=
  t.database.state.verify env = .ok () ∧ reportsOperational t = true ∧ checkAuthority a.envelope t.database.state = .ok ()

structure Fenced (env : Environment) (first : String) (c : Config) : Prop where
  heads : Heads env first c.log c.store.database.state
  loaded : ∀ i σ, remaining (c.phase i) = some σ → Loaded env c.store.database.state σ
  holder : ∀ i, holds (c.phase i) = true → c.fileLock = some i
  entry : ∀ i a t, c.phase i = .fenced a t → c.store = t ∧ Entered env a t

variable {d : Deployment} {c c' : Config} {i : ℕ} {ph : Phase}

/-- A step of one call that leaves store and log. -/
theorem Fenced.goto (h : Fenced env first c) (hstore : c'.store = c.store) (hlog : c'.log = c.log)
    (hphase : c'.phase = Function.update c.phase i ph)
    (hloaded : ∀ σ, remaining ph = some σ → Loaded env c.store.database.state σ)
    (hholder : ∀ j, j ≠ i → holds (c.phase j) = true → c'.fileLock = some j)
    (hheld : holds ph = true → c'.fileLock = some i) (hentry : ∀ a t, ph = .fenced a t → c.store = t ∧ Entered env a t) :
    Fenced env first c' where
  heads := by
    rw [hstore, hlog]
    exact h.heads
  loaded j σ hj := by
    rw [hstore]
    rw [hphase] at hj
    by_cases e : j = i
    · subst e
      rw [Function.update_self] at hj
      exact hloaded σ hj
    · rw [Function.update_of_ne e] at hj
      exact h.loaded j σ hj
  holder j hj := by
    rw [hphase] at hj
    by_cases e : j = i
    · subst e
      rw [Function.update_self] at hj
      exact hheld hj
    · rw [Function.update_of_ne e] at hj
      exact hholder j e hj
  entry j a t hj := by
    rw [hphase] at hj
    by_cases e : j = i
    · subst e
      rw [Function.update_self] at hj
      rw [hstore]
      exact hentry a t hj
    · rw [Function.update_of_ne e] at hj
      rw [hstore]
      exact h.entry j a t hj

/-- A step that neither takes nor drops the file lock, of a call that does not hold it. -/
theorem Fenced.quiet (h : Fenced env first c) (hstore : c'.store = c.store) (hlog : c'.log = c.log)
    (hphase : c'.phase = Function.update c.phase i ph) (hlock : c'.fileLock = c.fileLock)
    (hloaded : ∀ σ, remaining ph = some σ → Loaded env c.store.database.state σ) (hheld : holds ph = false) :
    Fenced env first c' := by
  refine h.goto hstore hlog hphase hloaded (fun j _ hj => ?_) ?_ ?_
  · rw [hlock]
    exact h.holder j hj
  · rw [hheld]
    simp
  · rintro a t rfl
    cases hheld

/-- A step of the call that holds the file lock, which ends with its release. -/
theorem Fenced.unlock (h : Fenced env first c) (hi : holds (c.phase i) = true) (hstore : c'.store = c.store) (hlog : c'.log = c.log)
    (hphase : c'.phase = Function.update c.phase i ph) (hnone : remaining ph = none) (hheld : holds ph = false) :
    Fenced env first c' := by
  refine h.goto hstore hlog hphase (by simp [hnone]) (fun j hj hold => ?_) (by simp [hheld]) ?_
  · exact absurd (Option.some.inj ((h.holder j hold).symm.trans (h.holder i hi))) hj
  · rintro a t rfl
    cases hheld

theorem moved_after {σ : Section} (hσ : Loaded d.env c.store.database.state σ) (writes : Option ℕ) :
    Moved d.env σ c.store.database (d.after c i σ writes).store.database :=
  run_of_wp (I := fun t : Store => Moved d.env σ c.store.database t.database) (wp_perform hσ) (fun _ _ h => h.1) writes

theorem answers_after {σ : Section} (hσ : Loaded d.env c.store.database.state σ) {writes : Option ℕ} {reply : Reply}
    (hr : ((σ.perform d.env d.cfg).run c.store writes).1 = .ok reply) :
    Answers d.env c.store σ (d.after c i σ writes).store reply :=
  (run_of_ok (wp_perform hσ) hr).2

theorem fenced_after (h : Fenced d.env first c) {σ : Section} (hi : c.phase i = .locked σ) (writes : Option ℕ) :
    Fenced d.env first (d.after c i σ writes) := by
  have hσ := h.loaded i σ (by rw [hi]; rfl)
  have hmoved : Moved d.env σ c.store.database (d.after c i σ writes).store.database := moved_after hσ writes
  refine ⟨heads_events h.heads hmoved fun reply hr => @answers_after d c i σ hσ writes reply hr, ?_, h.holder, ?_⟩
  · intro j σ' hj
    exact loaded_moved (h.loaded j σ' hj) hmoved
  · -- The call of the section holds the lock, so no fence is held.
    intro j a t hj
    have hj' : c.phase j = .fenced a t := hj
    have hlock := (h.holder i (by rw [hi]; rfl)).symm.trans (h.holder j (by rw [hj']; rfl))
    rw [← Option.some.inj hlock, hi] at hj'
    cases hj'

/-- A section, and where its call goes. -/
theorem fenced_perform (h : Fenced d.env first c) {σ : Section} (hi : c.phase i = .locked σ) :
    Fenced d.env first (d.conclude i σ ((σ.perform d.env d.cfg).run c.store none).1 (d.after c i σ none)) := by
  have hafter := fenced_after h hi none
  have hanswers : ∀ reply, ((σ.perform d.env d.cfg).run c.store none).1 = .ok reply →
      Answers d.env c.store σ (d.after c i σ none).store reply := fun _ => answers_after (h.loaded i σ (by rw [hi]; rfl))
  have hholds : holds ((d.after c i σ none).phase i) = true := by
    rw [show (d.after c i σ none).phase i = c.phase i from rfl, hi]
    rfl
  generalize ((σ.perform d.env d.cfg).run c.store none).1 = r at hanswers ⊢
  generalize d.after c i σ none = c' at hafter hanswers hholds ⊢
  unfold Deployment.conclude
  split
  · exact hafter.unlock hholds rfl rfl rfl rfl rfl
  · rename_i reply call
    obtain ⟨ht, hentered⟩ := hanswers reply rfl
    refine hafter.goto rfl rfl rfl (by rintro _ ⟨⟩) (fun j _ hj => hafter.holder j hj) (fun _ => hafter.holder i hholds) ?_
    rintro a t ⟨⟩
    rw [ht]
    exact ⟨rfl, hentered⟩
  · refine hafter.unlock hholds rfl rfl rfl ?_ ?_ <;> split <;> rfl

theorem remaining_crashed (ph : Phase) : remaining (Deployment.crashed ph) = none := by
  cases ph <;> rfl

theorem holds_crashed (ph : Phase) : holds (Deployment.crashed ph) = false := by
  cases ph <;> rfl

theorem fenced_crash (h : Fenced d.env first c) (p writes : ℕ) : Fenced d.env first (d.crash c p writes) := by
  have hcut : ∃ c', Fenced d.env first c' ∧ c'.phase = c.phase ∧ (d.crash c p writes).store = c'.store ∧
      (d.crash c p writes).log = c'.log := by
    unfold Deployment.crash
    split
    · rename_i i σ hσ
      unfold Deployment.interrupted at hσ
      repeat' split at hσ
      all_goals cases hσ
      rename_i hlocked
      exact ⟨_, fenced_after h hlocked (some writes), rfl, rfl, rfl⟩
    · exact ⟨c, h, rfl, rfl, rfl⟩
  obtain ⟨c', h', hphase, hstore, hlog⟩ := hcut
  have hother : ∀ j, d.process j ≠ p → (d.crash c p writes).phase j = c.phase j := fun j hj => if_neg hj
  have hdead : ∀ j, d.process j = p → (d.crash c p writes).phase j = Deployment.crashed (c.phase j) := fun j hj => if_pos hj
  refine ⟨?_, fun j σ hj => ?_, fun j hj => ?_, fun j a t hj => ?_⟩
  · rw [hstore, hlog]
    exact h'.heads
  · by_cases e : d.process j = p
    · rw [hdead j e, remaining_crashed] at hj
      cases hj
    · rw [hother j e] at hj
      rw [hstore]
      exact h'.loaded j σ (by rw [hphase]; exact hj)
  · by_cases e : d.process j = p
    · rw [hdead j e, holds_crashed] at hj
      cases hj
    · rw [hother j e] at hj
      have hfilter : (d.crash c p writes).fileLock = c.fileLock.filter fun i => d.process i ≠ p := rfl
      rw [hfilter, h.holder j hj, Option.filter_some, if_pos (decide_eq_true e)]
  · by_cases e : d.process j = p
    · have hc := holds_crashed (c.phase j)
      rw [← hdead j e, hj] at hc
      cases hc
    · rw [hother j e] at hj
      rw [hstore]
      exact h'.entry j a t (by rw [hphase]; exact hj)

theorem remaining_finish (r : Except StoreError Reply) : remaining (Deployment.finish r) = none := by
  cases r <;> rfl

theorem holds_finish (r : Except StoreError Reply) : holds (Deployment.finish r) = false := by
  cases r <;> rfl

/-- What a step of a call keeps. -/
theorem fenced_act (h : Fenced d.env first c) {action : Action} (hs : d.act c i action (c.phase i) = some c') :
    Fenced d.env first c' := by
  generalize hi : c.phase i = ph₀ at hs
  have hloaded : ∀ σ, remaining ph₀ = some σ → Loaded d.env c.store.database.state σ := by
    intro σ hσ
    exact h.loaded i σ (hi ▸ hσ)
  unfold Deployment.act at hs
  split at hs
  · split at hs
    · rename_i σ hload
      cases hs
      exact h.quiet rfl rfl rfl rfl (by rintro _ ⟨⟩; exact loaded_load hload) rfl
    · cases hs
      exact h.quiet rfl rfl rfl rfl (by rintro _ ⟨⟩) rfl
  · dsimp only at hs
    split at hs
    · cases hs
    · cases hs
      exact h.quiet rfl rfl rfl rfl (by rintro _ ⟨⟩; exact hloaded _ rfl) rfl
  · dsimp only at hs
    split at hs
    · cases hs
      exact h.quiet rfl rfl rfl rfl (by rintro _ ⟨⟩; exact hloaded _ rfl) rfl
    · cases hs
  · dsimp only at hs
    split at hs
    · cases hs
      exact h.quiet rfl rfl rfl rfl (by rintro _ ⟨⟩; exact hloaded _ rfl) rfl
    · cases hs
  · split at hs
    · cases hs
      exact h.quiet rfl rfl rfl rfl (by rintro _ ⟨⟩) rfl
    · cases hs
  · cases hs
    exact h.quiet rfl rfl rfl rfl (by rintro _ ⟨⟩) rfl
  · cases hs
    exact h.quiet rfl rfl rfl rfl (by rintro _ ⟨⟩) rfl
  · split at hs
    · rename_i hfree
      cases hs
      refine h.goto rfl rfl rfl (by rintro _ ⟨⟩; exact hloaded _ rfl) (fun j _ hj => ?_) (fun _ => rfl) (by rintro _ _ ⟨⟩)
      -- Nobody held it.
      exact absurd ((h.holder j hj).symm.trans hfree) (by simp)
    · cases hs
  · cases hs
    exact fenced_perform h hi
  · cases hs
    exact h.unlock (by rw [hi]; rfl) rfl rfl rfl (remaining_finish _) (holds_finish _)
  · cases hs
    refine h.quiet rfl rfl rfl rfl ?_ (holds_finish _)
    intro σ hσ
    rw [remaining_finish] at hσ
    cases hσ
  · cases hs

theorem fenced_initial (env : Environment) (s : Store) : Fenced env s.database.state.authorityHead (Config.initial s) where
  heads := ⟨rfl, fun _ h => (by cases h), List.Pairwise.nil, trivial, trivial⟩
  loaded _ _ h := by cases h
  holder _ h := by cases h
  entry _ _ _ h := by cases h

theorem fenced_run {ls : List Label} (h : Trace.run d.step (Config.initial s) ls = some c) :
    Fenced d.env s.database.state.authorityHead c := by
  refine Trace.run_invariant (Fenced d.env s.database.state.authorityHead) (fun c l c' hs hc => ?_) h (fenced_initial d.env s)
  cases l with
  | call i action => exact fenced_act hc hs
  | crash p writes =>
    cases hs
    exact fenced_crash hc p writes

/-- The bodies of the new heads have different digests, none of which is the first head. -/
def CollisionFree (env : Environment) (first : String) (log : List Stage5.AuthorityStore.Event) : Prop :=
  (∀ b ∈ Fencing.renewals log, ∀ b' ∈ Fencing.renewals log, bodyDigest env b = bodyDigest env b' → b = b') ∧
    ∀ b ∈ Fencing.renewals log, bodyDigest env b ≠ first

instance (env : Environment) (first : String) (log : List Stage5.AuthorityStore.Event) : Decidable (CollisionFree env first log) :=
  inferInstanceAs (Decidable (_ ∧ _))

/-- No head returns. -/
theorem nodup_heads {v : AuthorityState} (h : Heads env first log v) (hfree : CollisionFree env first log) :
    (Fencing.heads (bodyDigest env) first log).Nodup := by
  have hnodup : (Fencing.renewals log).Nodup := h.ordered.imp fun hlt e => by
    rw [e] at hlt
    exact lt_irrefl _ hlt
  refine List.Nodup.append (List.Nodup.map_on hfree.1 hnodup) (List.nodup_singleton _) ?_
  intro x hx hfirst
  rw [List.mem_singleton] at hfirst
  obtain ⟨b, hb, rfl⟩ := List.mem_map.mp hx
  exact hfree.2 b hb hfirst

/-- While a fence is held the store is the one that its admission was checked against, and no other fence is held.
No fence is entered with an admission issued before a renewal of the head; an admission issued since the last one
stands, and opens a fence whose other checks pass. -/
theorem fence_run {ls : List Label} (h : Trace.run d.step (Config.initial s) ls = some c)
    (hfree : CollisionFree d.env s.database.state.authorityHead c.log) :
    (∀ i a t, c.phase i = .fenced a t → c.store = t ∧ t.database.state.verify d.env = .ok () ∧ reportsOperational t = true ∧
        checkAuthority a.envelope t.database.state = .ok ()) ∧
      (∀ i j a b t u, c.phase i = .fenced a t → c.phase j = .fenced b u → i = j) ∧
      (∀ a b, ¬ [.accepted a, .renewed b, .issued a].Sublist c.log) ∧
      ∀ a l l', c.log = l ++ .issued a :: l' → Fencing.renewals l = [] →
        checkAuthority a.envelope c.store.database.state = .ok () ∧
          ∀ call : FenceCall, call.admission = a → checkSnapshot d.env call = .ok () →
            ((consumptionWitness d.env call.now.isoformat).run c.store none).1 = .ok c.store.database.state →
            ((AuthorityService.enterFence d.env call).run c.store none).1 = .ok c.store.database.state := by
  have hinv := fenced_run h
  refine ⟨hinv.entry, ?_, ?_, ?_⟩
  · intro i j a b t u hi hj
    have hlock := hinv.holder i (by rw [hi]; rfl)
    exact Option.some.inj (hlock.symm.trans (hinv.holder j (by rw [hj]; rfl)))
  · intro a b
    exact Fencing.not_accepted_of_renewed hinv.heads.sound (nodup_heads hinv.heads hfree)
  · intro a l l' hlog hl
    have ha := Fencing.standing_iff.mp hinv.heads.standing a l l' hlog hl
    refine ⟨ha, ?_⟩
    rintro call rfl hsnapshot hwitness
    exact enterFence_run hwitness ha hsnapshot

namespace Sample

def service : ServiceConfiguration where
  serviceIdentity := "service"
  deploymentIdentity := "deployment"
  signerKeyId := "key"
  signerKeyVersion := 1
  signAdmission _ := [1]
  verifyAdmission := some fun _ => true

def snapshot : AuthoritativeSnapshotRecord where
  snapshotId := "snapshot"
  snapshotDigest := "digest"
  snapshotVersion := 1
  expiresAt := "2026-01-05T16:00:00+00:00"
  portfolioId := "portfolio"
  runScope := "run"
  operationPurpose := "SUBMIT"
  currency := "USD"
  providerDescriptorDigest := "descriptor"
  providerImplementationIdentity := "provider"
  policyId := "policy"
  policyVersion := 1

theorem real_opening : RealTime 2026 1 5 9 0 0 0 := by decide

def opening : Datetime := ⟨2026, 1, 5, 9, 0, 0, 0, real_opening⟩

def later : Datetime := ⟨2026, 1, 5, 9, 3, 0, 0, by decide⟩

def admitAt (now : Datetime) : AdmitCall where
  request := ⟨"portfolio", "run", "SUBMIT", "domain", "nonce"⟩
  now := now
  snapshot := some snapshot
  admissionId := "admission"

/-- What is issued at nine. -/
def admission : SignedAdmission where
  envelope :=
    { serviceIdentity := "service", deploymentIdentity := "deployment", authorityDomainIdentity := "domain",
      signingKeyId := "key", signingKeyVersion := 1, signingKeyStatus := "SIGN_CURRENT", storeEpoch := "epoch",
      authorityId := "authority", authorityHead := "head", authorityGeneration := 1, authorityStatus := "ACTIVE",
      authorityValidFrom := "2026-01-05T09:00:00+00:00", authorityExpiresAt := "2026-01-05T17:00:00+00:00",
      providerDescriptorDigest := "descriptor", providerImplementationIdentity := "provider", snapshotId := "snapshot",
      snapshotDigest := "digest", snapshotVersion := 1, snapshotExpiresAt := "2026-01-05T16:00:00+00:00",
      currency := "USD", portfolioId := "portfolio", runScope := "run", operationPurpose := "SUBMIT", policyId := "policy",
      policyVersion := 1, admissionId := "admission", requestNonce := "nonce", admittedAt := "2026-01-05T09:00:00+00:00",
      validUntil := "2026-01-05T09:05:00+00:00" }
  signature := [1]

/-- Two admissions, the second of which advances the time, a key command, and two fences with the first admission. -/
def deployment : Deployment where
  env := environment
  cfg := service
  call i :=
    if i = 0 then .admitCall (admitAt opening)
    else if i = 1 then .admitCall (admitAt later)
    else if i = 2 then .key .provision "c1" "key" 2
    else .fence ⟨admission, "SUBMIT", later, some snapshot⟩ "nonce"
  process _ := 0

def writer (i : ℕ) : List Label := [.call i .load, .call i .announce, .call i .enter, .call i .lock, .call i .perform]

def reader (i : ℕ) : List Label := [.call i .load, .call i .enter, .call i .lock, .call i .perform]

def release : Json :=
  .obj [("protocol", .str serviceProtocol), ("operation", .str "RELEASE_FENCED_CONSUMPTION"), ("fence_nonce", .str "nonce"),
    ("admission_id", .str "admission")]

def fenceRun : List Label :=
  writer 0 ++ writer 1 ++ reader 3 ++ ([.call 3 (.release (some release))] : List Label) ++ writer 2 ++
    ([.call 2 .readBack] : List Label) ++ reader 4

/-- The kinds of the events, and the ends of the two fences. -/
def outline (c : Config) : List String × Bool × Bool :=
  (c.log.map fun
    | .issued _ => "issued"
    | .accepted _ => "accepted"
    | .renewed _ => "renewed",
   match c.phase 3 with
    | .returned .released => true
    | _ => false,
   match c.phase 4 with
    | .stopped (.raised (.authorityService message)) => message = "fenced admission authority is not current"
    | _ => false)

end Sample

theorem fence_run_sample : ∃ c, Trace.run Sample.deployment.step (Config.initial ⟨⟨Sample.first, []⟩, some Sample.first.stateDigest, none⟩)
      Sample.fenceRun = some c ∧
    Sample.outline c = (["renewed", "accepted", "issued", "issued"], true, true) ∧
    ∀ a b, ¬ [.accepted a, .renewed b, .issued a].Sublist c.log := by
  have h : ((Trace.run Sample.deployment.step (Config.initial ⟨⟨Sample.first, []⟩, some Sample.first.stateDigest, none⟩)
      Sample.fenceRun).map fun c => decide (Sample.outline c = (["renewed", "accepted", "issued", "issued"], true, true) ∧
        CollisionFree Sample.deployment.env "head" c.log)) = some true := by decide +kernel
  obtain ⟨c, hrun, hc⟩ := Option.map_eq_some_iff.mp h
  obtain ⟨houtline, hfree⟩ := of_decide_eq_true hc
  exact ⟨c, hrun, houtline, (fence_run hrun hfree).2.2.1⟩

end ATB.Proof.AuthorityStore
