import AutomatedTradingBot.Proof.Stage5.AuthorityStore.Results
import Mathlib.Data.List.Chain

/-!
# Runs of the authority and its keys

What every run of management requests, key commands, admissions and recoveries keeps,
each of them cut off anywhere or not.

* `parts_keyRecord`: a key record reads back, whatever the key id;
* `keyed_successor`: each transition keeps one current key and adds keys at the end only;
* `moves_command`: a command commits nothing, or one successor;
* `authority_run`: the invariant of the run and the order of its states.
-/

namespace ATB.Proof.AuthorityStore

open ATB.Durable ATB.Stage5.AuthorityStore

variable {env : Environment} {s : Store}

/-! ## Key records -/

theorem of?_value (status : SigningKeyStatus) : SigningKeyStatus.of? status.value = some status := by
  cases status <;> decide

/-- A record reads back as its key. -/
theorem parts_keyRecord {keyId record : String} {version : ℤ} {status : SigningKeyStatus}
    (h : keyRecord keyId version status = .ok record) : parts record = .ok ⟨keyId, version, status⟩ := by
  obtain ⟨hvalid, h⟩ := raiseIf_bind_eq_ok.mp h
  rw [not_or, not_lt] at hvalid
  cases h
  obtain ⟨n, rfl⟩ : ∃ n : ℕ, version = n := ⟨version.toNat, by omega⟩
  have hstatus : ':' ∉ Text.chars status.value := by cases status <;> decide
  have hversion : ':' ∉ Text.chars (Text.intText n) := by
    rw [Text.chars_eq, show Text.intText n = String.ofList (Nat.toDigits 10 n) from rfl, String.toList_ofList]
    intro hmem
    have := Nat.isDigit_of_mem_toDigits (b := 10) (by decide) (by decide) hmem
    revert this
    decide
  have houter := Text.splitLast_append (c := ':') (s := Text.chars keyId ++ ':' :: Text.chars (Text.intText n)) hstatus
  have hinner := Text.splitLast_append (c := ':') (s := Text.chars keyId) hversion
  have hread : ∀ t : String, String.ofList (Text.chars t) = t := fun t => by rw [Text.chars_eq, String.ofList_toList]
  rw [parts, Text.chars_eq, String.toList_ofList, ← List.cons_append, ← List.append_assoc, houter]
  simp only [Option.bind_eq_bind, Option.bind_some, hinner, hread, Text.intOf?_intText, of?_value]
  rfl

/-! ## One current key -/

/-- The records of a state are these keys, each once, and the one in use is the current key. -/
structure Keyed (state : AuthorityState) (keys : List SigningKey) : Prop where
  read : state.keyRecords.mapM parts = .ok keys
  nodup : (keys.map SigningKey.pair).Nodup
  current : keys.filter (fun key => key.status = .signCurrent) =
    [⟨state.currentKeyId, state.currentKeyVersion, .signCurrent⟩]

/-- Keys are added at the end, and a retired key stays as it is. -/
structure Grows (keys keys' : List SigningKey) : Prop where
  appended : keys.map SigningKey.pair <+: keys'.map SigningKey.pair
  retired : ∀ key ∈ keys, key.status = .retired → key ∈ keys'

theorem Grows.refl (keys : List SigningKey) : Grows keys keys := ⟨List.prefix_rfl, fun _ h _ => h⟩

theorem Grows.trans {a b c : List SigningKey} (hab : Grows a b) (hbc : Grows b c) : Grows a c :=
  ⟨hab.appended.trans hbc.appended, fun key h hr => hbc.retired key (hab.retired key h hr) hr⟩

variable {state successor : AuthorityState} {keys : List SigningKey} {keyId : String} {version : ℤ}

/-- What the loops of `activate_key` and `retire_key` make of the records, when one iteration makes `change` of
a key and finds the key `pair` in use for verification only. -/
theorem visit_eq_ok {visit : String → Except StoreError (Bool × String)} {change : SigningKey → SigningKey}
    {pair : String × ℤ} (hvisit : ∀ item out, visit item = .ok out → ∃ old, parts item = .ok old ∧
      parts out.2 = .ok (change old) ∧ (out.1 = true → old.pair = pair) ∧ (old.pair = pair → old.status = .verifyOnly))
    {records : List String} {visited : List (Bool × String)} (h : records.mapM visit = .ok visited)
    (hk : records.mapM parts = .ok keys) :
    (visited.map Prod.snd).mapM parts = .ok (keys.map change) ∧
      (∀ item ∈ visited, item.1 = true → ∃ key ∈ keys, key.pair = pair) ∧
      ∀ key ∈ keys, key.pair = pair → key.status = .verifyOnly := by
  induction records generalizing visited keys with
  | nil =>
    cases h
    cases hk
    exact ⟨rfl, by simp, by simp⟩
  | cons item records ih =>
    simp only [List.mapM_cons, bind_eq_ok, pure_eq_ok] at h hk
    obtain ⟨out, hout, rest, hrest, rfl⟩ := h
    obtain ⟨key, hkey, keys, hkeys, rfl⟩ := hk
    obtain ⟨old, hold, hnew, hfound, hstatus⟩ := hvisit item out hout
    rw [hkey] at hold
    cases hold
    obtain ⟨hmap, hsome, hall⟩ := ih hrest hkeys
    refine ⟨?_, ?_, ?_⟩
    · simp only [List.map_cons, List.mapM_cons, hnew, hmap, ok_bind]
      rfl
    · intro x hx hflag
      rcases List.mem_cons.mp hx with rfl | hx
      · exact ⟨key, List.mem_cons_self .., hfound hflag⟩
      · obtain ⟨k, hk, e⟩ := hsome x hx hflag
        exact ⟨k, List.mem_cons_of_mem _ hk, e⟩
    · intro k hk
      rcases List.mem_cons.mp hk with rfl | hk
      · exact hstatus
      · exact hall k hk

/-- The key with this pair comes into use, and the one that was in use is kept for verification. -/
def activated (pair : String × ℤ) (key : SigningKey) : SigningKey :=
  if key.pair = pair then { key with status := .signCurrent }
  else { key with status := if key.status = .signCurrent then .verifyOnly else key.status }

def retiredKey (pair : String × ℤ) (key : SigningKey) : SigningKey :=
  if key.pair = pair then { key with status := .retired } else key

theorem map_pair_of_change {change : SigningKey → SigningKey} (h : ∀ key, (change key).pair = key.pair) (keys : List SigningKey) :
    (keys.map change).map SigningKey.pair = keys.map SigningKey.pair := by
  rw [List.map_map]
  exact List.map_congr_left fun key _ => h key

theorem pair_activated (pair : String × ℤ) (key : SigningKey) : (activated pair key).pair = key.pair := by
  unfold activated
  split <;> rfl

theorem pair_retiredKey (pair : String × ℤ) (key : SigningKey) : (retiredKey pair key).pair = key.pair := by
  unfold retiredKey
  split <;> rfl

theorem visit_activate {item : String} {out : Bool × String} (h : activateRecord keyId version item = .ok out) :
    ∃ old, parts item = .ok old ∧ parts out.2 = .ok (activated (keyId, version) old) ∧
      (out.1 = true → old.pair = (keyId, version)) ∧ (old.pair = (keyId, version) → old.status = .verifyOnly) := by
  obtain ⟨old, hold, h⟩ := bind_eq_ok.mp h
  refine ⟨old, hold, ?_⟩
  split at h
  · rename_i hpair
    obtain ⟨hstatus, h⟩ := raiseIf_bind_eq_ok.mp h
    obtain ⟨record, hrecord, h⟩ := bind_eq_ok.mp h
    cases h
    refine ⟨?_, fun _ => hpair, fun _ => not_not.mp hstatus⟩
    rw [activated, if_pos hpair]
    exact parts_keyRecord hrecord
  · rename_i hpair
    obtain ⟨record, hrecord, h⟩ := bind_eq_ok.mp h
    cases h
    refine ⟨?_, fun h => (by cases h), fun h => absurd h hpair⟩
    rw [activated, if_neg hpair]
    exact parts_keyRecord hrecord

theorem visit_retire {item : String} {out : Bool × String} (h : retireRecord keyId version item = .ok out) :
    ∃ old, parts item = .ok old ∧ parts out.2 = .ok (retiredKey (keyId, version) old) ∧
      (out.1 = true → old.pair = (keyId, version)) ∧ (old.pair = (keyId, version) → old.status = .verifyOnly) := by
  obtain ⟨old, hold, h⟩ := bind_eq_ok.mp h
  refine ⟨old, hold, ?_⟩
  split at h
  · rename_i hpair
    obtain ⟨hstatus, h⟩ := raiseIf_bind_eq_ok.mp h
    obtain ⟨record, hrecord, h⟩ := bind_eq_ok.mp h
    cases h
    refine ⟨?_, fun _ => hpair, fun _ => not_not.mp hstatus⟩
    rw [retiredKey, if_pos hpair]
    exact parts_keyRecord hrecord
  · rename_i hpair
    obtain ⟨record, hrecord, h⟩ := bind_eq_ok.mp h
    cases h
    refine ⟨?_, fun h => (by cases h), fun h => absurd h hpair⟩
    rw [retiredKey, if_neg hpair]
    exact parts_keyRecord hrecord

theorem exists_flag {visited : List (Bool × String)} (h : ¬ ∀ item ∈ visited, item.1 = false) :
    ∃ item ∈ visited, item.1 = true := by
  push Not at h
  obtain ⟨item, hitem, hflag⟩ := h
  exact ⟨item, hitem, Bool.not_eq_false _ ▸ hflag⟩

/-- The keys with one pair, of keys that have each pair once. -/
theorem filter_pair {pair : String × ℤ} {key : SigningKey} (hn : (keys.map SigningKey.pair).Nodup) (hk : key ∈ keys)
    (he : key.pair = pair) : keys.filter (fun k => k.pair = pair) = [key] := by
  have hnodup : (keys.filter fun k => k.pair = pair).Nodup := (List.Nodup.of_map _ hn).filter _
  refine List.perm_singleton.mp ((List.perm_ext_iff_of_nodup hnodup (List.nodup_singleton key)).mpr fun k => ?_)
  rw [List.mem_filter, List.mem_singleton, decide_eq_true_eq]
  exact ⟨fun h => List.inj_on_of_nodup_map hn h.1 hk (h.2.trans he.symm), fun h => h ▸ ⟨hk, he⟩⟩

/-- A provisioned key is new and for verification only. -/
theorem keyed_provision (hk : Keyed state keys) (h : provisionVerifyOnly env state keyId version = .ok successor) :
    ∃ keys', Keyed successor keys' ∧ Grows keys keys' := by
  obtain ⟨_, hall, h⟩ := bind_eq_ok.mp h
  obtain ⟨record, hrecord, h⟩ := bind_eq_ok.mp h
  cases h
  have hnew : ∀ key ∈ keys, key.pair ≠ (keyId, version) := by
    rw [forM_eq_ok] at hall
    have : ∀ (records : List String) (ks : List SigningKey), records.mapM parts = .ok ks →
        (∀ item ∈ records, (parts item >>= fun key => raiseIf (key.pair = (keyId, version))
          (StoreError.authorityService "signing key already retained")) = .ok ()) →
        ∀ key ∈ ks, key.pair ≠ (keyId, version) := by
      intro records
      induction records with
      | nil =>
        intro ks h _
        cases h
        simp
      | cons item records ih =>
        intro ks h hitems
        simp only [List.mapM_cons, bind_eq_ok, pure_eq_ok] at h
        obtain ⟨key, hkey, rest, hrest, rfl⟩ := h
        intro k hmem
        rcases List.mem_cons.mp hmem with rfl | hmem
        · have := hitems item (List.mem_cons_self ..)
          rw [hkey, ok_bind, raiseIf_eq_ok] at this
          exact this
        · exact ih rest hrest (fun i hi => hitems i (List.mem_cons_of_mem _ hi)) k hmem
    exact this _ _ hk.read hall
  refine ⟨keys ++ [⟨keyId, version, .verifyOnly⟩], ⟨?_, ?_, ?_⟩, ⟨?_, fun key h _ => List.mem_append_left _ h⟩⟩
  · show (state.keyRecords ++ [record]).mapM parts = _
    rw [List.mapM_append, hk.read, ok_bind, List.mapM_cons, parts_keyRecord hrecord]
    rfl
  · rw [List.map_append, List.nodup_append]
    refine ⟨hk.nodup, List.nodup_singleton _, ?_⟩
    intro a ha b hb
    obtain ⟨key, hkey, rfl⟩ := List.mem_map.mp ha
    rw [List.map_singleton, List.mem_singleton] at hb
    exact hb ▸ hnew key hkey
  · rw [List.filter_append, hk.current]
    rfl
  · rw [List.map_append]
    exact List.prefix_append _ _

/-- An activated key is the one in use. -/
theorem keyed_activate (hk : Keyed state keys) (h : activateKey env state keyId version = .ok successor) :
    ∃ keys', Keyed successor keys' ∧ Grows keys keys' := by
  obtain ⟨visited, hvisited, h⟩ := bind_eq_ok.mp h
  obtain ⟨hfound, h⟩ := raiseIf_bind_eq_ok.mp h
  obtain ⟨_, -, h⟩ := bind_eq_ok.mp h
  obtain ⟨-, h⟩ := raiseIf_bind_eq_ok.mp h
  cases h
  obtain ⟨hread, hsome, hall⟩ := visit_eq_ok (fun _ _ => visit_activate) hvisited hk.read
  obtain ⟨item, hitem, hflag⟩ := exists_flag hfound
  obtain ⟨key, hkey, hpair⟩ := hsome item hitem hflag
  refine ⟨keys.map (activated (keyId, version)), ⟨hread, ?_, ?_⟩, ⟨?_, ?_⟩⟩
  · rw [map_pair_of_change (pair_activated _)]
    exact hk.nodup
  · have hstatus : ∀ k ∈ keys, decide ((activated (keyId, version) k).status = .signCurrent) =
        decide (k.pair = (keyId, version)) := by
      intro k _
      rw [decide_eq_decide, activated]
      split
      · rename_i h
        exact ⟨fun _ => h, fun _ => rfl⟩
      · rename_i h
        refine ⟨fun e => ?_, fun e => absurd e h⟩
        dsimp only at e
        split at e
        · cases e
        · rename_i hne
          exact absurd e hne
    rw [List.filter_map, Function.comp_def, List.filter_congr hstatus, filter_pair hk.nodup hkey hpair, List.map_singleton,
      activated, if_pos hpair]
    obtain ⟨rfl, rfl⟩ := Prod.mk.inj hpair
    rfl
  · simpa only [map_pair_of_change (pair_activated _)] using List.prefix_rfl
  · intro k hmem hretired
    refine List.mem_map.mpr ⟨k, hmem, ?_⟩
    have hne : k.pair ≠ (keyId, version) := fun e => by
      rw [hall k hmem e] at hretired
      cases hretired
    rw [activated, if_neg hne, hretired]
    cases k
    cases hretired
    rfl

/-- A retired key was not the one in use. -/
theorem keyed_retire (hk : Keyed state keys) (h : retireKey env state keyId version = .ok successor) :
    ∃ keys', Keyed successor keys' ∧ Grows keys keys' := by
  obtain ⟨hcurrent, h⟩ := raiseIf_bind_eq_ok.mp h
  obtain ⟨visited, hvisited, h⟩ := bind_eq_ok.mp h
  obtain ⟨-, h⟩ := raiseIf_bind_eq_ok.mp h
  cases h
  obtain ⟨hread, -, hall⟩ := visit_eq_ok (fun _ _ => visit_retire) hvisited hk.read
  refine ⟨keys.map (retiredKey (keyId, version)), ⟨hread, ?_, ?_⟩, ⟨?_, ?_⟩⟩
  · rw [map_pair_of_change (pair_retiredKey _)]
    exact hk.nodup
  · have hstatus : ∀ k ∈ keys, decide ((retiredKey (keyId, version) k).status = .signCurrent) =
        decide (k.status = .signCurrent) := by
      intro k hmem
      rw [decide_eq_decide, retiredKey]
      split
      · rename_i h
        rw [hall k hmem h]
        exact ⟨fun e => (by cases e), fun e => (by cases e)⟩
      · exact Iff.rfl
    have hkeep : ∀ k ∈ keys.filter (fun k => k.status = .signCurrent), retiredKey (keyId, version) k = k := by
      intro k hmem
      obtain ⟨hmem, hstatus⟩ := List.mem_filter.mp hmem
      refine if_neg fun e => ?_
      rw [hall k hmem e] at hstatus
      cases hstatus
    rw [List.filter_map, Function.comp_def, List.filter_congr hstatus, List.map_congr_left hkeep, List.map_id']
    exact hk.current
  · simpa only [map_pair_of_change (pair_retiredKey _)] using List.prefix_rfl
  · intro k hmem hretired
    refine List.mem_map.mpr ⟨k, hmem, if_neg fun e => ?_⟩
    rw [hall k hmem e] at hretired
    cases hretired

/-- Each key command keeps one current key, and adds keys at the end only. -/
theorem keyed_successor (hk : Keyed state keys) {action : KeyAction}
    (h : action.successor env state keyId version = .ok successor) : ∃ keys', Keyed successor keys' ∧ Grows keys keys' := by
  cases action with
  | provision => exact keyed_provision hk h
  | activate => exact keyed_activate hk h
  | retire => exact keyed_retire hk h

/-! ## Commits -/

/-- What a commit makes of the state. -/
structure Follows (env : Environment) (v w : AuthorityState) : Prop where
  verified : w.verify env = .ok ()
  successor : requireSuccessor v w = .ok ()
  keyed : ∀ keys, Keyed v keys → ∃ keys', Keyed w keys' ∧ Grows keys keys'

/-- Nothing is committed, or one successor. -/
def Moves (env : Environment) (db db' : Database) : Prop := db' = db ∨ Follows env db.state db'.state

theorem Moves.refl (env : Environment) (db : Database) : Moves env db db := Or.inl rfl

theorem Follows.sequence {v w : AuthorityState} (h : Follows env v w) : w.sequence = v.sequence + 1 :=
  (requireSuccessor_spec h.successor).1

/-- The generation goes on, and a generation that is not active stays so. -/
theorem Follows.generation {v w : AuthorityState} (h : Follows env v w) :
    v.authorityGeneration ≤ w.authorityGeneration ∧
      (w.authorityGeneration = v.authorityGeneration → v.authorityStatus ≠ .active → w.authorityStatus ≠ .active) := by
  obtain ⟨hx, hbranch⟩ := raiseIf_bind_eq_ok.mp h.successor
  simp only [not_or, not_not, not_and, ne_eq] at hx
  constructor
  · by_cases he : w.authorityGeneration = v.authorityGeneration
    · omega
    · have : w.authorityGeneration = v.authorityGeneration + 1 := hx.2.2.2.2.1 he
      omega
  · intro he hv
    rw [if_pos he, raiseIf_eq_ok] at hbranch
    simp only [not_or, not_and] at hbranch
    exact hbranch.2.2.2.2.2.2.2 hv

theorem follows_of_commit {e c p : String} {x : AuthorityState} {r : String} {db db' : Database}
    (h : commitSuccessor env e c p x r db = .ok db')
    (hx : ∀ keys, Keyed db.state keys → ∃ keys', Keyed x keys' ∧ Grows keys keys') : Follows env db.state db'.state := by
  obtain ⟨rfl, hverify, -⟩ := commitSuccessor_spec h
  refine ⟨hverify, ?_, hx⟩
  unfold commitSuccessor at h
  obtain ⟨_, -, h⟩ := bind_eq_ok.mp h
  obtain ⟨_, -, h⟩ := bind_eq_ok.mp h
  obtain ⟨_, -, h⟩ := bind_eq_ok.mp h
  obtain ⟨-, h⟩ := raiseIf_bind_eq_ok.mp h
  obtain ⟨_, -, h⟩ := bind_eq_ok.mp h
  obtain ⟨-, h⟩ := raiseIf_bind_eq_ok.mp h
  obtain ⟨current, hcurrent, h⟩ := bind_eq_ok.mp h
  obtain ⟨⟨⟩, hsuccessor, -⟩ := bind_eq_ok.mp h
  rw [(read_eq_ok.mp hcurrent).2] at hsuccessor
  exact hsuccessor

/-- A state with the keys of another. -/
theorem keyed_of_eq {v w : AuthorityState} (hr : w.keyRecords = v.keyRecords) (hi : w.currentKeyId = v.currentKeyId)
    (hv : w.currentKeyVersion = v.currentKeyVersion) : ∀ keys, Keyed v keys → ∃ keys', Keyed w keys' ∧ Grows keys keys' :=
  fun keys h => ⟨keys, ⟨hr ▸ h.read, h.nodup, by rw [hi, hv]; exact h.current⟩, Grows.refl keys⟩

theorem keyed_successorOf {body : AuthorityBody} {v : AuthorityState} (hr : body.keyRecords = v.keyRecords)
    (hi : body.currentKeyId = v.currentKeyId) (hv : body.currentKeyVersion = v.currentKeyVersion) :
    ∀ keys, Keyed v keys → ∃ keys', Keyed (successorOf env body) keys' ∧ Grows keys keys' := by
  refine keyed_of_eq ?_ ?_ ?_
  · simp only [successorOf, AuthorityState.create]
    exact hr
  · simp only [successorOf, AuthorityState.create]
    exact hi
  · simp only [successorOf, AuthorityState.create]
    exact hv

theorem wp_publish_moves {c p : String} {x : AuthorityState} {r : String}
    (hx : ∀ keys, Keyed s.database.state keys → ∃ keys', Keyed x keys' ∧ Grows keys keys') :
    wp (publish env c p x r) (post (fun _ t => Moves env s.database t.database) fun t => Moves env s.database t.database) s :=
  wp_publish (I := fun t => Moves env s.database t.database) (Moves.refl env _) fun _ _ _ =>
    advance_of_database (J := Moves env s.database) (Moves.refl env _) fun _ hdb => Or.inr (follows_of_commit hdb hx)

theorem managedBody_keys {body : AuthorityBody} {request : Json} (h : managedBody state request = .ok body) :
    body.keyRecords = state.keyRecords ∧ body.currentKeyId = state.currentKeyId ∧
      body.currentKeyVersion = state.currentKeyVersion := by
  unfold managedBody at h
  dsimp only at h
  split at h
  · cases h
    exact ⟨rfl, rfl, rfl⟩
  · split at h
    · cases h
      exact ⟨rfl, rfl, rfl⟩
    · split at h
      · simp only [bind_eq_ok, pure_eq_ok] at h
        obtain ⟨_, -, _, -, _, -, _, -, _, -, _, -, _, -, rfl⟩ := h
        exact ⟨rfl, rfl, rfl⟩
      · cases h

theorem wp_manage (request : Json) :
    wp (ProtectedAuthorityManager.call env request)
      (post (fun _ t => Moves env s.database t.database) fun t => Moves env s.database t.database) s := by
  have hs : Moves env s.database s.database := Moves.refl env _
  unfold ProtectedAuthorityManager.call
  refine wp_check_bind (I := fun t : Store => Moves env s.database t.database) hs ?_
  intro commandId _
  refine wp_get_bind ?_
  refine wp_check_bind (I := fun t : Store => Moves env s.database t.database) hs ?_
  intro current hcurrent
  obtain ⟨-, rfl⟩ := read_eq_ok.mp hcurrent
  split
  · exact wp_retryResult (I := fun t : Store => Moves env s.database t.database) hs
  · refine wp_check_bind (I := fun t : Store => Moves env s.database t.database) hs ?_
    intro body hbody
    obtain ⟨hr, hi, hv⟩ := managedBody_keys hbody
    exact wp_publish_moves (keyed_successorOf hr hi hv)

theorem wp_key (action : KeyAction) (commandId keyId : String) (version : ℤ) :
    wp (AnchoredKeyLifecycle.command env action commandId keyId version)
      (post (fun _ t => Moves env s.database t.database) fun t => Moves env s.database t.database) s := by
  have hs : Moves env s.database s.database := Moves.refl env _
  unfold AnchoredKeyLifecycle.command
  refine wp_get_bind ?_
  refine wp_check_bind (I := fun t : Store => Moves env s.database t.database) hs ?_
  intro current hcurrent
  obtain ⟨-, rfl⟩ := read_eq_ok.mp hcurrent
  refine wp_check_bind (I := fun t : Store => Moves env s.database t.database) hs ?_
  intro successor hsuccessor
  refine wp_bind (wp_publish_moves fun keys hk => keyed_successor hk hsuccessor) ?_
  intro _ t ht
  refine wp_get_bind ?_
  exact wp_check (I := fun t : Store => Moves env s.database t.database) ht fun _ _ => ht

theorem wp_admitCall (observedAt : String) :
    wp (admissionWitness env observedAt)
      (post (fun _ t => Moves env s.database t.database) fun t => Moves env s.database t.database) s := by
  have hexpired : ∀ keys, Keyed s.database.state keys → ∃ keys', Keyed (expiredState env s.database.state observedAt) keys' ∧
      Grows keys keys' := keyed_of_eq rfl rfl rfl
  have hadvanced : ∀ keys, Keyed s.database.state keys → ∃ keys', Keyed (advancedState env s.database.state observedAt) keys' ∧
      Grows keys keys' := keyed_of_eq rfl rfl rfl
  refine wp_mono (wp_admission (J := Moves env s.database) (Moves.refl env _) ?_ ?_) (fun _ _ h => h.2.1) fun _ h => h
  · intro c p r db _ hdb
    exact Or.inr (follows_of_commit hdb hexpired)
  · intro c p r db _ hdb
    exact Or.inr (follows_of_commit hdb hadvanced)

/-- A command commits nothing, or one successor, wherever it is cut off. -/
theorem moves_command (env : Environment) (s : Store) (command : Command) (n : Option ℕ) :
    Moves env s.database ((command.perform env).run s n).2.database := by
  have hwp : wp (command.perform env)
      (post (fun _ t => Moves env s.database t.database) fun t => Moves env s.database t.database) s := by
    cases command with
    | manage request =>
      refine wp_bind (wp_manage request) ?_
      intro _ _ ht
      exact wp_pure ht
    | key action commandId keyId version =>
      refine wp_bind (wp_key action commandId keyId version) ?_
      intro _ _ ht
      exact wp_pure ht
    | admitCall observedAt =>
      refine wp_bind (wp_admitCall observedAt) ?_
      intro _ _ ht
      exact wp_pure ht
  exact run_of_wp hwp (fun _ _ h => h) n

/-! ## Runs -/

/-- A call of the service, with the writes it makes before it is cut off, if it is. -/
inductive ServiceCall where
  | command (command : Command) (writes : Option ℕ)
  | recover (writes : Option ℕ)

def ServiceCall.after (env : Environment) (s : Store) : ServiceCall → Store
  | .command c n => ((c.perform env).run s n).2
  | .recover n => ((Stage5.AuthorityStore.recover env).run s n).2

/-- The databases of a run, from the first on. -/
def databases (env : Environment) (s : Store) : List ServiceCall → List Database
  | [] => [s.database]
  | call :: calls => s.database :: databases env (call.after env s) calls

theorem moves_call (env : Environment) (s : Store) (call : ServiceCall) :
    Moves env s.database (call.after env s).database := by
  cases call with
  | command command n => exact moves_command env s command n
  | recover n =>
    simp only [ServiceCall.after, recover_database]
    exact Moves.refl env _

/-- What a later state says of an earlier one. -/
structure Later (v w : AuthorityState) : Prop where
  keys : ∀ keys, Keyed v keys → ∃ keys', Keyed w keys' ∧ Grows keys keys'
  generation : v.authorityGeneration ≤ w.authorityGeneration
  inactive : w.authorityGeneration = v.authorityGeneration → v.authorityStatus ≠ .active → w.authorityStatus ≠ .active

theorem Later.trans {u v w : AuthorityState} (huv : Later u v) (hvw : Later v w) : Later u w where
  keys keys h := by
    obtain ⟨keys', h', hg⟩ := huv.keys keys h
    obtain ⟨keys'', h'', hg'⟩ := hvw.keys keys' h'
    exact ⟨keys'', h'', hg.trans hg'⟩
  generation := huv.generation.trans hvw.generation
  inactive he hu := by
    have h1 := huv.generation
    have h2 := hvw.generation
    exact hvw.inactive (by omega) (huv.inactive (by omega) hu)

theorem later_of_moves {db db' : Database} (h : Moves env db db') : Later db.state db'.state := by
  rcases h with rfl | h
  · exact ⟨fun keys hk => ⟨keys, hk, Grows.refl keys⟩, le_rfl, fun _ h => h⟩
  · exact ⟨h.keyed, h.generation.1, h.generation.2⟩

theorem later_databases (env : Environment) (s : Store) (calls : List ServiceCall) :
    ∀ db ∈ databases env s calls, Later s.database.state db.state := by
  induction calls generalizing s with
  | nil =>
    intro db hdb
    rw [databases, List.mem_singleton] at hdb
    exact hdb ▸ later_of_moves (Moves.refl env _)
  | cons call calls ih =>
    intro db hdb
    rcases List.mem_cons.mp hdb with rfl | hdb
    · exact later_of_moves (Moves.refl env _)
    · exact (later_of_moves (moves_call env s call)).trans (ih _ db hdb)

theorem chain_databases (env : Environment) (s : Store) (calls : List ServiceCall) :
    (databases env s calls).IsChain (Moves env) := by
  induction calls generalizing s with
  | nil => exact List.isChain_singleton _
  | cons call calls ih =>
    have hstep := moves_call env s call
    have hrest := ih (call.after env s)
    cases calls with
    | nil => exact List.isChain_pair.mpr hstep
    | cons next calls => exact List.isChain_cons_cons.mpr ⟨hstep, hrest⟩

theorem verified_databases {calls : List ServiceCall} (hv : s.database.state.verify env = .ok ()) :
    ∀ db ∈ databases env s calls, db.state.verify env = .ok () := by
  induction calls generalizing s with
  | nil =>
    intro db hdb
    rw [databases, List.mem_singleton] at hdb
    exact hdb ▸ hv
  | cons call calls ih =>
    intro db hdb
    rcases List.mem_cons.mp hdb with rfl | hdb
    · exact hv
    · refine ih ?_ db hdb
      rcases moves_call env s call with h | h
      · rw [h]
        exact hv
      · exact h.verified

theorem pairwise_databases (env : Environment) (s : Store) (calls : List ServiceCall) :
    (databases env s calls).Pairwise fun a b => Later a.state b.state := by
  induction calls generalizing s with
  | nil => exact List.pairwise_singleton _ _
  | cons call calls ih =>
    refine List.pairwise_cons.mpr ⟨fun db hdb => ?_, ih _⟩
    exact (later_of_moves (moves_call env s call)).trans (later_databases env _ calls db hdb)

/-- Every state of a run from a verified state with one current key is verified and has one current key; from
each state to any later one the keys only grow at the end, a retired key stays retired, the generation does not
decrease and a generation that is not active does not become active; and each call leaves the database or adds
one to the sequence. -/
theorem authority_run {env : Environment} {s : Store} {keys : List SigningKey}
    (hv : s.database.state.verify env = .ok ()) (hk : Keyed s.database.state keys) (calls : List ServiceCall) :
    (∀ db ∈ databases env s calls, db.state.verify env = .ok () ∧ ∃ keys, Keyed db.state keys) ∧
      (databases env s calls).Pairwise (fun a b => (∀ keys, Keyed a.state keys → ∃ keys', Keyed b.state keys' ∧
          keys.map SigningKey.pair <+: keys'.map SigningKey.pair ∧ ∀ key ∈ keys, key.status = .retired → key ∈ keys') ∧
        a.state.authorityGeneration ≤ b.state.authorityGeneration ∧
        (b.state.authorityGeneration = a.state.authorityGeneration → a.state.authorityStatus ≠ .active →
          b.state.authorityStatus ≠ .active)) ∧
      (databases env s calls).IsChain fun a b => b = a ∨ b.state.sequence = a.state.sequence + 1 := by
  refine ⟨fun db hdb => ⟨verified_databases hv db hdb, ?_⟩, ?_, ?_⟩
  · obtain ⟨keys', h, -⟩ := (later_databases env s calls db hdb).keys keys hk
    exact ⟨keys', h⟩
  · refine (pairwise_databases env s calls).imp fun h => ⟨fun keys hk => ?_, h.generation, h.inactive⟩
    obtain ⟨keys', h', hg⟩ := h.keys keys hk
    exact ⟨keys', h', hg.appended, hg.retired⟩
  · refine (chain_databases env s calls).imp fun _ _ h => ?_
    exact h.imp id Follows.sequence

/-! ## Calls that are accepted -/

theorem successor_eq_ok {action : KeyAction} {state x : AuthorityState} {keyId : String} {version : ℤ}
    (h : action.successor env state keyId version = .ok x) : ∃ records currentId currentVersion,
      x = keySuccessor env state records currentId currentVersion := by
  cases action with
  | provision =>
    obtain ⟨_, -, h⟩ := bind_eq_ok.mp h
    obtain ⟨record, -, h⟩ := bind_eq_ok.mp h
    exact ⟨_, _, _, (pure_eq_ok.mp h).symm⟩
  | activate =>
    obtain ⟨_, -, h⟩ := bind_eq_ok.mp h
    obtain ⟨-, h⟩ := raiseIf_bind_eq_ok.mp h
    obtain ⟨_, -, h⟩ := bind_eq_ok.mp h
    obtain ⟨-, h⟩ := raiseIf_bind_eq_ok.mp h
    exact ⟨_, _, _, (pure_eq_ok.mp h).symm⟩
  | retire =>
    obtain ⟨-, h⟩ := raiseIf_bind_eq_ok.mp h
    obtain ⟨_, -, h⟩ := bind_eq_ok.mp h
    obtain ⟨-, h⟩ := raiseIf_bind_eq_ok.mp h
    exact ⟨_, _, _, (pure_eq_ok.mp h).symm⟩

/-- A new command of the keys that makes a successor is committed. -/
theorem after_key {a : KeyAction} {c keyId : String} {version : ℤ} {x : AuthorityState}
    (hv : s.database.state.verify env = .ok ()) (ho : reportsOperational s = true)
    (hx : a.successor env s.database.state keyId version = .ok x) (hn : Dict.get? c s.database.commands = none) :
    x.verify env = .ok () ∧ ∃ row, ServiceCall.after env s (.command (.key a c keyId version) none) =
      ⟨⟨x, Dict.set c row s.database.commands⟩, some x.stateDigest, none⟩ := by
  have hsequence : (0 : ℤ) ≤ s.database.state.sequence + 1 := by
    have := sequence_verified hv
    omega
  obtain ⟨records, currentId, currentVersion, hshape⟩ := successor_eq_ok hx
  have hverify : x.verify env = .ok () := hshape ▸ verify_successorOf hv hsequence
  have hq : requireSuccessor s.database.state x = .ok () := hshape ▸ requireSuccessor_successorOf (.inl rfl)
  have hread : Stage5.AuthorityStore.read env s.database = .ok s.database.state := read_eq_ok.mpr ⟨hv, rfl⟩
  obtain ⟨row, hpublish⟩ : ∃ row, Ends (publish env c
      (digest env (.obj [("action", .str a.value), ("key_id", .str keyId), ("version", .int version)])) x
      (commandText c x)) s (.ok (commandText c x))
      ⟨⟨x, Dict.set c row s.database.commands⟩, some x.stateDigest, none⟩ :=
    ⟨_, publish_accepted hv ho hverify (named_commandText c x) hq hn⟩
  have hends : Ends (AnchoredKeyLifecycle.command env a c keyId version) s (.ok x)
      ⟨⟨x, Dict.set c row s.database.commands⟩, some x.stateDigest, none⟩ := by
    unfold AnchoredKeyLifecycle.command
    refine Ends.get ?_
    refine (Ends.check hread).bind ?_
    refine (Ends.check hx).bind ?_
    refine hpublish.bind ?_
    exact Ends.get (Ends.check (read_eq_ok.mpr ⟨hverify, rfl⟩))
  have hrun : Ends (Command.perform env (.key a c keyId version)) s (.ok ()) _ := hends.bind (Ends.pure _ _)
  exact ⟨hverify, row, congrArg Prod.snd hrun.run⟩

/-- A new management request under the current head whose successor is valid is committed. -/
theorem after_manage {c : String} {q : Json} {b : AuthorityBody} (hv : s.database.state.verify env = .ok ())
    (ho : reportsOperational s = true) (hc : managedCommandId q = .ok c)
    (hhead : requestText q "expected_authority_head" = some s.database.state.authorityHead)
    (hbody : managedBody s.database.state q = .ok b) (hx : (successorOf env b).verify env = .ok ())
    (hq : requireSuccessor s.database.state (successorOf env b) = .ok ())
    (hn : Dict.get? c s.database.commands = none) :
    ∃ row, ServiceCall.after env s (.command (.manage q) none) =
      ⟨⟨successorOf env b, Dict.set c row s.database.commands⟩, some (successorOf env b).stateDigest, none⟩ := by
  have hread : Stage5.AuthorityStore.read env s.database = .ok s.database.state := read_eq_ok.mpr ⟨hv, rfl⟩
  obtain ⟨row, hpublish⟩ : ∃ row, Ends (publish env c (digest env q) (successorOf env b)
      (managedText c (successorOf env b))) s (.ok (managedText c (successorOf env b)))
      ⟨⟨successorOf env b, Dict.set c row s.database.commands⟩, some (successorOf env b).stateDigest, none⟩ :=
    ⟨_, publish_accepted hv ho hx (named_managedText c _) hq hn⟩
  have hends : Ends (ProtectedAuthorityManager.call env q) s (.ok (managedText c (successorOf env b)))
      ⟨⟨successorOf env b, Dict.set c row s.database.commands⟩, some (successorOf env b).stateDigest, none⟩ := by
    unfold ProtectedAuthorityManager.call
    refine (Ends.check hc).bind ?_
    refine Ends.get ?_
    refine (Ends.check hread).bind ?_
    rw [if_neg (not_not.mpr hhead)]
    exact (Ends.check hbody).bind hpublish
  have hrun : Ends (Command.perform env (.manage q)) s (.ok ()) _ := hends.bind (Ends.pure _ _)
  exact ⟨row, congrArg Prod.snd hrun.run⟩

namespace Sample

/-- A key whose id has the separator in it is provisioned and activated, the first key is retired, and the
authority is revoked. -/
def keyCalls : List ServiceCall :=
  [.command (.key .provision "c1" "new:key" 2) none, .command (.key .activate "c2" "new:key" 2) none,
   .command (.key .retire "c3" "key" 1) none,
   .command (.manage (.obj [("command_id", .str "c4"), ("operation", .str "REVOKE"),
     ("expected_authority_head", .str "0000000000000000000000000000000000000000000000000000000000000000")])) none]

def keyStore : Store := ⟨⟨first, []⟩, some first.stateDigest, none⟩

theorem first_keyed : Keyed first [⟨"key", 1, .signCurrent⟩] where
  read := by decide +kernel
  nodup := by decide
  current := by decide

def provisioned : AuthorityState :=
  keySuccessor environment first ["key:1:SIGN_CURRENT", "new:key:2:VERIFY_ONLY"] "key" 1

def activated : AuthorityState :=
  keySuccessor environment provisioned ["key:1:VERIFY_ONLY", "new:key:2:SIGN_CURRENT"] "new:key" 2

def retired : AuthorityState := keySuccessor environment activated ["key:1:RETIRED", "new:key:2:SIGN_CURRENT"] "new:key" 2

/-- What the changes of the keys read and write. -/
theorem records :
    (provisioned.keyRecords.mapM (activateRecord "new:key" 2) =
      .ok [(false, "key:1:VERIFY_ONLY"), (true, "new:key:2:SIGN_CURRENT")]) ∧
    (["key:1:VERIFY_ONLY", "new:key:2:SIGN_CURRENT"].mapM parts =
      .ok [⟨"key", 1, .verifyOnly⟩, ⟨"new:key", 2, .signCurrent⟩]) ∧
    (activated.keyRecords.mapM (retireRecord "key" 1) =
      .ok [(true, "key:1:RETIRED"), (false, "new:key:2:SIGN_CURRENT")]) ∧
    keyRecord "new:key" 2 .verifyOnly = .ok "new:key:2:VERIFY_ONLY" ∧
    retired.authorityHead = "0000000000000000000000000000000000000000000000000000000000000000" :=
  ⟨by decide +kernel, by decide +kernel, by decide +kernel, by decide +kernel, by decide +kernel⟩

theorem provision_first : provisionVerifyOnly environment first "new:key" 2 = .ok provisioned := by
  have hfresh : first.keyRecords.forM (fun item => do
      let key ← parts item
      raiseIf (key.pair = ("new:key", 2)) (.authorityService "signing key already retained")) = .ok () := by decide +kernel
  have hrecord := records.2.2.2.1
  exact bind_eq_ok.mpr ⟨_, hfresh, bind_eq_ok.mpr ⟨_, hrecord, rfl⟩⟩

theorem activate_provisioned : activateKey environment provisioned "new:key" 2 = .ok activated := by
  obtain ⟨hvisited, hkeys, -⟩ := records
  exact bind_eq_ok.mpr ⟨_, hvisited, raiseIf_bind_eq_ok.mpr ⟨by decide, bind_eq_ok.mpr ⟨_, hkeys,
    raiseIf_bind_eq_ok.mpr ⟨by decide, rfl⟩⟩⟩⟩

theorem retire_activated : retireKey environment activated "key" 1 = .ok retired := by
  have hvisited := records.2.2.1
  have hcurrent : ("key", (1 : ℤ)) ≠ (activated.currentKeyId, activated.currentKeyVersion) := by decide
  exact raiseIf_bind_eq_ok.mpr ⟨hcurrent, bind_eq_ok.mpr ⟨_, hvisited, raiseIf_bind_eq_ok.mpr ⟨by decide, rfl⟩⟩⟩

end Sample

theorem authority_run_sample :
    (databases Sample.environment Sample.keyStore Sample.keyCalls).map
        (fun db => (db.state.sequence, db.state.keyRecords, db.state.authorityStatus)) =
      [(1, ["key:1:SIGN_CURRENT"], .active), (2, ["key:1:SIGN_CURRENT", "new:key:2:VERIFY_ONLY"], .active),
       (3, ["key:1:VERIFY_ONLY", "new:key:2:SIGN_CURRENT"], .active),
       (4, ["key:1:RETIRED", "new:key:2:SIGN_CURRENT"], .active),
       (5, ["key:1:RETIRED", "new:key:2:SIGN_CURRENT"], .revoked)] ∧
      ∀ db ∈ databases Sample.environment Sample.keyStore Sample.keyCalls,
        db.state.verify Sample.environment = .ok () ∧ ∃ keys, Keyed db.state keys := by
  have hv : Sample.first.verify Sample.environment = .ok () := by decide +kernel
  refine ⟨?_, (authority_run (s := Sample.keyStore) hv Sample.first_keyed Sample.keyCalls).1⟩
  obtain ⟨hv₁, row₁, h₁⟩ := after_key (s := Sample.keyStore) (a := .provision) (c := "c1") hv
    (reportsOperational_settled hv) Sample.provision_first rfl
  obtain ⟨hv₂, row₂, h₂⟩ := after_key (s := ⟨⟨Sample.provisioned, Dict.set "c1" row₁ []⟩, some _, none⟩)
    (a := .activate) (c := "c2") hv₁ (reportsOperational_settled hv₁) Sample.activate_provisioned rfl
  obtain ⟨hv₃, row₃, h₃⟩ := after_key
    (s := ⟨⟨Sample.activated, Dict.set "c2" row₂ (Dict.set "c1" row₁ [])⟩, some _, none⟩)
    (a := .retire) (c := "c3") hv₂ (reportsOperational_settled hv₂) Sample.retire_activated rfl
  obtain ⟨row₄, h₄⟩ := after_manage
    (s := ⟨⟨Sample.retired, Dict.set "c3" row₃ (Dict.set "c2" row₂ (Dict.set "c1" row₁ []))⟩, some _, none⟩) (c := "c4")
    (q := .obj [("command_id", .str "c4"), ("operation", .str "REVOKE"),
      ("expected_authority_head", .str "0000000000000000000000000000000000000000000000000000000000000000")])
    (b := { Sample.retired.toAuthorityBody with sequence := 5, authorityStatus := .revoked })
    hv₃ (reportsOperational_settled hv₃) (by decide +kernel) (by rw [Sample.records.2.2.2.2]; rfl) rfl
    (verify_successorOf hv₃ (by decide)) (requireSuccessor_successorOf (.inr (by decide))) rfl
  simp only [Sample.keyCalls, databases, h₁]
  rw [show Sample.keyStore.database.commands = [] from rfl]
  simp only [h₂, h₃, h₄]
  rfl

end ATB.Proof.AuthorityStore
