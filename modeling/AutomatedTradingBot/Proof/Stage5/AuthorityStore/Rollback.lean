import AutomatedTradingBot.Framework.Trace
import AutomatedTradingBot.Proof.Stage5.AuthorityStore.Steps

/-!
# Crashes and rollbacks of the authority store

A history is a store with the versions that its database has had, in the order in which
they were committed. Publications and recoveries may be cut off before any of their
writes, and the database file may at any time be put back to any of its versions. In
every history whose publications do not announce an older version again, the store is
operational only with the version that was committed last.

`publish` announces its successor before it checks it. A successor that is refused stays
pending, and when it is an older version, a database put back to that version is what
recovery takes for a commit to complete.
-/

namespace ATB.Proof.AuthorityStore

open ATB.Durable ATB.Stage5.AuthorityStore

/-- The store and the versions of its database. -/
structure History where
  store : Store
  versions : List Database
deriving DecidableEq

inductive Event where
  | publish (commandId payloadDigest : String) (successor : AuthorityState) (result : String) (writes : Option Nat)
  | recover (writes : Option Nat)
  /-- The database file is put back to one of its versions. -/
  | rollback (version : Nat)

namespace History

/-- A new store: the owner has anchored its first state. -/
def initial (state : AuthorityState) : History :=
  ⟨⟨⟨state, []⟩, some state.stateDigest, none⟩, [⟨state, []⟩]⟩

/-- The history goes on with a store: another database than before is a new version. -/
def after (h : History) (s : Store) : History :=
  ⟨s, if s.database = h.store.database then h.versions else h.versions ++ [s.database]⟩

def step (env : Environment) (h : History) : Event → Option History
  | .publish c p x r n => some (h.after ((publish env c p x r).run h.store n).2)
  | .recover n => some (h.after ((recover env).run h.store n).2)
  | .rollback i => (h.versions[i]?).map fun db => { h with store := { h.store with database := db } }

/-- The database is the version that was committed last. -/
def Latest (h : History) : Prop := h.versions.getLast? = some h.store.database

/-- A publication that gets to announce its successor does not announce the digest of a version, unless
the successor is the state that the database holds. -/
def Fresh (h : History) : Event → Prop
  | .publish c _ x _ _ => reportsOperational h.store = true → Dict.get? c h.store.database.commands = none →
    ∀ v ∈ h.versions, v.state.stateDigest = x.stateDigest → x = h.store.database.state
  | _ => True

end History

/-! ## The invariant -/

def digestOf (db : Database) : String := db.state.stateDigest

/-- What the witness says of the versions: the last one is anchored and no older one is pending, or the
one before it is anchored and the last one is pending. -/
def Witnessed (s : Store) (older : List Database) (last : Database) : Prop :=
  s.authorityAnchor = some (digestOf last) ∧ (∀ d, s.authorityPending = some d → d ∉ older.map digestOf) ∨
  ∃ before older', older = older' ++ [before] ∧ s.authorityAnchor = some (digestOf before) ∧
    s.authorityPending = some (digestOf last)

structure Inv (env : Environment) (h : History) (older : List Database) (last : Database) : Prop where
  versions : h.versions = older ++ [last]
  digests : (h.versions.map digestOf).Nodup
  verified : ∀ v ∈ h.versions, v.state.verify env = .ok ()
  current : h.store.database ∈ h.versions
  witnessed : Witnessed h.store older last

section Inv

variable {env : Environment} {h : History} {older : List Database} {last : Database}

theorem Inv.eq_of_digest (hi : Inv env h older last) {v w : Database} (hv : v ∈ h.versions) (hw : w ∈ h.versions)
    (e : digestOf v = digestOf w) : v = w := List.inj_on_of_nodup_map hi.digests hv hw e

theorem Inv.last_mem (hi : Inv env h older last) : last ∈ h.versions := by
  rw [hi.versions]
  exact List.mem_append_right _ (List.mem_singleton_self _)

theorem Inv.digest_not_mem (hi : Inv env h older last) : digestOf last ∉ older.map digestOf := by
  have hd := hi.digests
  rw [hi.versions, List.map_append, List.nodup_append] at hd
  intro hm
  exact hd.2.2 _ hm _ (List.mem_singleton_self _) rfl

/-- Where the pending successor is what the database holds, the database is the last version. -/
theorem Inv.last_of_pending (hi : Inv env h older last)
    (hp : h.store.authorityPending = some (digestOf h.store.database)) : h.store.database = last := by
  have hmem := hi.current
  rcases hi.witnessed with ⟨-, hnot⟩ | ⟨before, older', -, -, hlast⟩
  · rw [hi.versions, List.mem_append, List.mem_singleton] at hmem
    rcases hmem with hmem | hmem
    · exact absurd (List.mem_map_of_mem hmem) (hnot _ hp)
    · exact hmem
  · exact hi.eq_of_digest hi.current hi.last_mem (Option.some.inj (hp.symm.trans hlast))

/-- An operational store has the last version. -/
theorem Inv.last_of_operational (hi : Inv env h older last) (ho : reportsOperational h.store = true) :
    h.store.database = last := by
  obtain ⟨-, ha, hp⟩ := reportsOperational_iff.mp ho
  rcases hi.witnessed with ⟨hlast, -⟩ | ⟨before, older', -, -, hlast⟩
  · exact hi.eq_of_digest hi.current hi.last_mem (Option.some.inj (ha.symm.trans hlast))
  · rw [hp] at hlast
    cases hlast

theorem Inv.getLast (hi : Inv env h older last) : h.versions.getLast? = some last := by
  rw [hi.versions, List.getLast?_append]
  rfl

/-- A store with the same database, as the witness says. -/
theorem Inv.witness (hi : Inv env h older last) {s : Store} (hs : s.database = h.store.database)
    (hw : Witnessed s older last) : Inv env (h.after s) older last := by
  have hv : (h.after s).versions = h.versions := if_pos hs
  refine ⟨hv.trans hi.versions, ?_, ?_, ?_, hw⟩
  · rw [hv]; exact hi.digests
  · rw [hv]; exact hi.verified
  · rw [hv]; exact hs ▸ hi.current

/-- A new version, committed over the last one. -/
theorem Inv.commit (hi : Inv env h older last) {s : Store} (hs : s.database ≠ h.store.database)
    (hd : digestOf s.database ∉ h.versions.map digestOf) (hverify : s.database.state.verify env = .ok ())
    (hw : Witnessed s h.versions s.database) : Inv env (h.after s) h.versions s.database := by
  have hv : (h.after s).versions = h.versions ++ [s.database] := if_neg hs
  refine ⟨hv, ?_, ?_, ?_, hw⟩
  · rw [hv, List.map_append, List.nodup_append]
    refine ⟨hi.digests, List.nodup_singleton _, ?_⟩
    rintro d hmem e he rfl
    rw [List.map_singleton, List.mem_singleton] at he
    exact hd (he ▸ hmem)
  · rw [hv]
    intro v hmem
    rcases List.mem_append.mp hmem with hmem | hmem
    · exact hi.verified v hmem
    · rw [List.mem_singleton.mp hmem]; exact hverify
  · rw [hv]
    exact List.mem_append_right _ (List.mem_singleton_self _)

/-! ## Steps -/

/-- The history goes on with a store that the witness still describes. -/
def Kept (env : Environment) (h : History) (s : Store) : Prop := ∃ older last, Inv env (h.after s) older last

/-- The stores at which the publication of a fresh successor can stop. -/
theorem Inv.advance (hi : Inv env h older last) (ho : reportsOperational h.store = true) {c p : String}
    {x : AuthorityState} {r : String}
    (hfresh : ∀ v ∈ h.versions, digestOf v = x.stateDigest → x = h.store.database.state) :
    Advance (fun s => Kept env h s ∧ (s.database = h.store.database ∨ s.database.state = x)) h.store x.stateDigest
      fun db => commitSuccessor env h.store.database.state.stateDigest c p x r h.store.database = .ok db := by
  have hlast := hi.last_of_operational ho
  obtain ⟨-, ha, hp⟩ := reportsOperational_iff.mp ho
  have hanchor : h.store.authorityAnchor = some (digestOf last) := by rw [ha, ← hlast]; rfl
  have hnew : ∀ {db}, commitSuccessor env h.store.database.state.stateDigest c p x r h.store.database = .ok db →
      db ≠ h.store.database ∧ digestOf db = x.stateDigest ∧ digestOf db ∉ h.versions.map digestOf ∧
        db.state.verify env = .ok () := by
    intro db hdb
    obtain ⟨rfl, hverify, hseq, -⟩ := commitSuccessor_spec hdb
    have hne : db.state ≠ h.store.database.state := fun e => by rw [e] at hseq; omega
    refine ⟨fun e => hne (congrArg Database.state e), rfl, fun hm => ?_, hverify⟩
    obtain ⟨v, hv, e⟩ := List.mem_map.mp hm
    exact hne (hfresh v hv e)
  refine ⟨⟨⟨_, _, hi.witness rfl hi.witnessed⟩, Or.inl rfl⟩, ⟨⟨_, _, hi.witness rfl (Or.inl ⟨hanchor, ?_⟩)⟩, Or.inl rfl⟩,
    ?_, ?_, ?_⟩
  · rintro d hd hm
    cases hd
    obtain ⟨v, hv, e⟩ := List.mem_map.mp hm
    have hx := hfresh v (by rw [hi.versions]; exact List.mem_append_left _ hv) e
    refine hi.digest_not_mem (List.mem_map.mpr ⟨v, hv, ?_⟩)
    rw [e, hx, ← hlast]
    rfl
  · intro db hdb
    obtain ⟨hne, hd, hnot, hverify⟩ := hnew hdb
    refine ⟨⟨_, _, hi.commit hne hnot hverify (Or.inr ⟨last, older, hi.versions, hanchor, ?_⟩)⟩,
      Or.inr (commitSuccessor_spec hdb).1⟩
    exact congrArg some hd.symm
  · intro db hdb
    obtain ⟨hne, hd, hnot, hverify⟩ := hnew hdb
    refine ⟨⟨_, _, hi.commit hne hnot hverify (Or.inl ⟨congrArg some hd.symm, ?_⟩)⟩, Or.inr (commitSuccessor_spec hdb).1⟩
    rintro d e
    cases e
    exact hd ▸ hnot
  · intro db hdb
    obtain ⟨hne, hd, hnot, hverify⟩ := hnew hdb
    refine ⟨⟨_, _, hi.commit hne hnot hverify (Or.inl ⟨congrArg some hd.symm, ?_⟩)⟩, Or.inr (commitSuccessor_spec hdb).1⟩
    rintro d e
    cases e

/-- A publication keeps the invariant, and leaves the database that was there or its successor. -/
theorem Inv.publish (hi : Inv env h older last) {c p : String} {x : AuthorityState} {r : String} {n : Option Nat}
    (hfresh : h.Fresh (.publish c p x r n)) {s : Store} {m : Option Nat} (hs : s = ((publish env c p x r).run h.store m).2) :
    Kept env h s ∧ (s.database = h.store.database ∨ s.database.state = x) := by
  have hw : wp (Stage5.AuthorityStore.publish env c p x r) _ h.store :=
    wp_publish (I := fun s => Kept env h s ∧ (s.database = h.store.database ∨ s.database.state = x))
      ⟨⟨_, _, hi.witness rfl hi.witnessed⟩, Or.inl rfl⟩ fun _ ho hc => hi.advance ho (hfresh ho hc)
  rw [hs]
  exact run_of_wp hw (fun _ _ h => h) m

theorem Inv.completed (hi : Inv env h older last) {s : Store} (hc : Completed h.store s) : Inv env (h.after s) older last := by
  obtain ⟨hp, rfl⟩ := hc
  refine hi.witness rfl (Or.inl ⟨?_, fun d e => (by cases e)⟩)
  rw [hi.last_of_pending hp]
  rfl

theorem Inv.unrecovered (hi : Inv env h older last) {s : Store} (hc : Unrecovered h.store s) :
    Inv env (h.after s) older last := by
  rcases hc with rfl | ⟨hp, rfl⟩
  · exact hi.witness rfl hi.witnessed
  · have hlast := hi.last_of_pending hp
    refine hi.witness rfl (Or.inl ⟨congrArg some (congrArg digestOf hlast), fun d e => ?_⟩)
    have hd : d = digestOf last := Option.some.inj (e.symm.trans (hp.trans (congrArg some (congrArg digestOf hlast))))
    exact hd ▸ hi.digest_not_mem

theorem not_operational_of_pending {s : Store} {d : String} (hp : s.authorityPending = some d) :
    reportsOperational s = false := by
  rw [Bool.eq_false_iff, ne_eq, reportsOperational_iff]
  rintro ⟨-, -, e⟩
  rw [hp] at e
  cases e

/-- What recovery comes to: the database is the same; where a state is returned it is that of the last
version, which is now anchored with nothing pending, and otherwise the store is not operational. -/
def Recovered (h : History) (result : Except (Stop StoreError) AuthorityState) (s : Store) : Prop :=
  s.database = h.store.database ∧
  match result with
  | .ok state => state = h.store.database.state ∧ h.Latest ∧ s.authorityAnchor = some state.stateDigest ∧
      s.authorityPending = none
  | .error _ => reportsOperational s = false

theorem Inv.recover (hi : Inv env h older last) (n : Option Nat) :
    Inv env (h.after ((recover env).run h.store n).2) older last ∧
      Recovered h ((Stage5.AuthorityStore.recover env).run h.store n).1
        ((Stage5.AuthorityStore.recover env).run h.store n).2 := by
  cases ho : reportsOperational h.store with
  | true =>
    have hw := wp_recover_of_operational (hi.verified _ hi.current) ho
    obtain ⟨-, ha, hp⟩ := reportsOperational_iff.mp ho
    cases hr : ((Stage5.AuthorityStore.recover env).run h.store n).1 with
    | ok state =>
      obtain ⟨rfl, hs⟩ := run_of_ok hw hr
      rw [hs]
      refine ⟨hi.witness rfl hi.witnessed, rfl, rfl, ?_, ha, hp⟩
      rw [History.Latest, hi.getLast, hi.last_of_operational ho]
    | error e => exact (run_of_error hw hr).elim
  | false =>
    have hw : wp (Stage5.AuthorityStore.recover env) _ h.store := wp_recover ho
    cases hr : ((Stage5.AuthorityStore.recover env).run h.store n).1 with
    | ok state =>
      obtain ⟨rfl, hc⟩ := run_of_ok hw hr
      refine ⟨hi.completed hc, ?_⟩
      obtain ⟨hp, hs⟩ := hc
      rw [hs]
      refine ⟨rfl, rfl, ?_, rfl, rfl⟩
      rw [History.Latest, hi.getLast, hi.last_of_pending hp]
    | error e =>
      have hc := run_of_error hw hr
      refine ⟨hi.unrecovered hc, ?_⟩
      rcases hc with hs | ⟨hp, hs⟩
      · rw [hs]; exact ⟨rfl, ho⟩
      · rw [hs]; exact ⟨rfl, not_operational_of_pending hp⟩

theorem Inv.rollback (hi : Inv env h older last) {db : Database} (hdb : db ∈ h.versions) :
    Inv env { h with store := { h.store with database := db } } older last :=
  ⟨hi.versions, hi.digests, hi.verified, hdb, hi.witnessed⟩

theorem inv_initial {state : AuthorityState} (hv : state.verify env = .ok ()) :
    Inv env (History.initial state) [] ⟨state, []⟩ where
  versions := rfl
  digests := List.nodup_singleton _
  verified v hv' := by rw [List.mem_singleton.mp hv']; exact hv
  current := List.mem_singleton_self _
  witnessed := Or.inl ⟨rfl, fun _ h => (by cases h)⟩

theorem Inv.step (hi : Inv env h older last) {event : Event} {h' : History} (hfresh : h.Fresh event)
    (hs : h.step env event = some h') : ∃ older' last', Inv env h' older' last' := by
  cases event with
  | publish c p x r n =>
    rw [History.step, Option.some.injEq] at hs
    rw [← hs]
    exact (hi.publish hfresh rfl).1
  | recover n =>
    rw [History.step, Option.some.injEq] at hs
    rw [← hs]
    exact ⟨_, _, (hi.recover n).1⟩
  | rollback i =>
    obtain ⟨db, hdb, rfl⟩ := Option.map_eq_some_iff.mp hs
    exact ⟨_, _, hi.rollback (List.mem_of_getElem? hdb)⟩

end Inv

/-! ## Histories -/

/-- A publication that goes through adds a version. -/
theorem step_publish {env : Environment} {h : History} {db : Database} {c p : String} {x : AuthorityState} {r : String}
    (hv : h.store.database.state.verify env = .ok ()) (ho : reportsOperational h.store = true)
    (hn : Dict.get? c h.store.database.commands = none) (hd : x.stateDigest ≠ "")
    (hc : commitSuccessor env h.store.database.state.stateDigest c p x r h.store.database = .ok db) :
    h.step env (.publish c p x r none) = some ⟨⟨db, some x.stateDigest, none⟩, h.versions ++ [db]⟩ := by
  obtain ⟨hx, -, hseq, -⟩ := commitSuccessor_spec hc
  have hne : db ≠ h.store.database := by
    rintro rfl
    rw [hx] at hseq
    omega
  rw [History.step, (publish_run hv ho hn hd hc).run, History.after, if_neg hne]

/-- A successor of another sequence number is refused, and stays pending. -/
theorem step_publish_refused {env : Environment} {h : History} {c p : String} {x : AuthorityState} {r : String}
    (hv : h.store.database.state.verify env = .ok ()) (ho : reportsOperational h.store = true)
    (hn : Dict.get? c h.store.database.commands = none) (hd : x.stateDigest ≠ "")
    (hseq : x.sequence ≠ h.store.database.state.sequence + 1) :
    h.step env (.publish c p x r none) =
      some { h with store := { h.store with authorityPending := some x.stateDigest } } := by
  rw [History.step, publish_refused hv ho hn hd fun db hc => hseq (commitSuccessor_spec hc).2.2.1, History.after,
    if_pos rfl]

namespace Sample

/-- The successor of `second`. -/
def third : AuthorityState :=
  ⟨{ body with sequence := 3, authorityHead := "head-02" }, "b3a5d53d1650736b548144ccbfee22e74fbc10103aae35ba036203340ac2ec9a"⟩

theorem verified : first.verify environment = .ok () ∧ second.verify environment = .ok () ∧ third.verify environment = .ok () :=
  ⟨by decide +kernel, by decide +kernel, by decide +kernel⟩

theorem first_verify : first.verify environment = .ok () := verified.1

theorem second_verify : second.verify environment = .ok () := verified.2.1

theorem third_verify : third.verify environment = .ok () := verified.2.2

def firstDatabase : Database := ⟨first, []⟩

def secondDatabase : Database :=
  ⟨second, [("c1", ⟨"payload", digest environment (.str (hex (commandText "c1" second))), commandText "c1" second⟩)]⟩

def thirdDatabase : Database :=
  ⟨third, secondDatabase.commands ++
    [("c02", ⟨"payload", digest environment (.str (hex (commandText "c02" third))), commandText "c02" third⟩)]⟩

/-- The store after the commit of a database. -/
def settled (db : Database) : Store := ⟨db, some db.state.stateDigest, none⟩

theorem settled_operational {db : Database} (h : db.state.stateDigest ≠ "") : reportsOperational (settled db) = true :=
  reportsOperational_iff.mpr ⟨h, rfl, rfl⟩

theorem result_matches {c : String} {x : AuthorityState}
    (h : (Json.loads (Text.chars (commandText c x))).map (fun b => differs (resultStateDigest b) x.stateDigest) =
      some (.ok false)) :
    ∃ b, Json.loads (Text.chars (commandText c x)) = some b ∧ differs (resultStateDigest b) x.stateDigest = .ok false :=
  Option.map_eq_some_iff.mp h

def publishSecond (c : String) : Event := .publish c "payload" second (commandText c second) none

theorem step_second : (History.initial first).step environment (publishSecond "c1") =
    some ⟨settled secondDatabase, [firstDatabase, secondDatabase]⟩ := by
  obtain ⟨b, hb, hd⟩ := result_matches (c := "c1") (x := second) (by decide +kernel)
  exact step_publish first_verify (settled_operational (show firstDatabase.state.stateDigest ≠ "" by decide)) rfl (by decide)
    (commitSuccessor_eq_ok (s := settled firstDatabase) first_verify second_verify hb hd (by decide +kernel)
      (by decide +kernel) rfl)

theorem step_third : History.step environment ⟨settled secondDatabase, [firstDatabase, secondDatabase]⟩
    (.publish "c02" "payload" third (commandText "c02" third) none) =
      some ⟨settled thirdDatabase, [firstDatabase, secondDatabase, thirdDatabase]⟩ := by
  obtain ⟨b, hb, hd⟩ := result_matches (c := "c02") (x := third) (by decide +kernel)
  exact step_publish (h := ⟨settled secondDatabase, [firstDatabase, secondDatabase]⟩) second_verify
    (settled_operational (by decide)) rfl (by decide)
    (commitSuccessor_eq_ok (s := settled secondDatabase) second_verify third_verify hb hd (by decide +kernel)
      (by decide +kernel) rfl)

/-- The older version, pending again. -/
def stale : Store := { settled thirdDatabase with authorityPending := some second.stateDigest }

theorem step_stale : History.step environment ⟨settled thirdDatabase, [firstDatabase, secondDatabase, thirdDatabase]⟩
    (publishSecond "c3") = some ⟨stale, [firstDatabase, secondDatabase, thirdDatabase]⟩ :=
  step_publish_refused (h := ⟨settled thirdDatabase, [firstDatabase, secondDatabase, thirdDatabase]⟩) third_verify
    (settled_operational (by decide)) rfl (by decide) (by decide)

/-- The store with its database put back to the version that is pending. -/
def rolledBack : Store := { stale with database := secondDatabase }

theorem step_rollback : History.step environment ⟨stale, [firstDatabase, secondDatabase, thirdDatabase]⟩ (.rollback 1) =
    some ⟨rolledBack, [firstDatabase, secondDatabase, thirdDatabase]⟩ := rfl

theorem recover_rolledBack : ((recover environment).run rolledBack none).2.database = rolledBack.database :=
  recover_database _ _ _

theorem recovered_operational : reportsOperational ((recover environment).run rolledBack none).2 = true := by
  decide +kernel

def history : List Event :=
  [publishSecond "c1", .publish "c02" "payload" third (commandText "c02" third) none, publishSecond "c3", .rollback 1,
   .recover none]

end Sample

end ATB.Proof.AuthorityStore
