import AutomatedTradingBot.Proof.Stage5.Ascii
import AutomatedTradingBot.Proof.Stage5.AuthorityStore.Steps
import AutomatedTradingBot.Source.Stage5.SigningKeys

/-!
# Results of commands

The result that a command stores names the digest of its successor, and a successor
that changes only what its operation may change is valid again.

* `named_commandText`, `named_managedText`: what the stored results name;
* `publish_accepted`: a valid successor is published;
* `verify_create`: successors that stay valid.
-/

namespace ATB.Proof.AuthorityStore

open ATB.Durable ATB.Stage5.AuthorityStore
open ATB.Stage5 (dumpsAscii)

variable {env : Environment} {s : Store}

/-! ## Stored results -/

/-- The result of a command names the digest of a state. -/
def Named (text stateDigest : String) : Prop :=
  ∃ body, Json.loads (Text.chars text) = some body ∧ resultStateDigest body = some stateDigest

theorem named_unique {text x y : String} (hx : Named text x) (hy : Named text y) : x = y := by
  obtain ⟨body, hbody, hx⟩ := hx
  obtain ⟨body', hbody', hy⟩ := hy
  rw [hbody] at hbody'
  cases hbody'
  exact Option.some.inj (hx.symm.trans hy)

theorem named_of_fields {f : String × String} {fs : List (String × String)} {stateDigest : String}
    (hs : ((f :: fs).map Prod.fst).Pairwise (· < ·))
    (hd : resultStateDigest (.dict (Ascii.textFields (f :: fs))) = some stateDigest) :
    Named (String.ofList (dumpsAscii (.dict (Ascii.textFields (f :: fs))))) stateDigest := by
  refine ⟨_, ?_, hd⟩
  rw [Text.chars_eq, String.toList_ofList]
  exact Ascii.loads_dumpsAscii (Ascii.sorted_textFields hs)

theorem named_commandText (commandId : String) (x : AuthorityState) : Named (commandText commandId x) x.stateDigest :=
  @named_of_fields ("command_id", commandId) [("state_digest", x.stateDigest)] _
    (show List.Pairwise (· < ·) ["command_id", "state_digest"] by decide) rfl

theorem named_managedText (commandId : String) (x : AuthorityState) : Named (managedText commandId x) x.stateDigest :=
  @named_of_fields ("authority_head", x.authorityHead) [("command_id", commandId), ("state_digest", x.stateDigest)] _
    (show List.Pairwise (· < ·) ["authority_head", "command_id", "state_digest"] by decide) rfl

theorem ascii_digest (env : Environment) (j : Json) : ∀ c ∈ Text.chars (digest env j), c.toNat < 128 := by
  intro c hc
  rw [digest, Platform.hexdigest, Text.chars_eq, String.toList_ofList] at hc
  have := Ascii.ascii_of_mem_hexChars hc
  omega

theorem digest_ne_empty (env : Environment) (j : Json) : digest env j ≠ "" := by
  intro h
  have hlength := congrArg (fun t => t.toList.length) h
  simp [digest, Platform.hexdigest, Uuid.length_hexChars] at hlength

theorem sameDigest_digest (env : Environment) (j : Json) : sameDigest (digest env j) (digest env j) = .ok true := by
  have h : (Text.chars (digest env j) ++ Text.chars (digest env j)).all (fun c => c.toNat < 128) = true := by
    rw [List.all_eq_true]
    intro c hc
    exact decide_eq_true (ascii_digest env j c ((List.mem_append.mp hc).elim id id))
  rw [sameDigest, raiseIf_of_not (by rw [h]; decide)]
  simp

theorem verify_digest {x : AuthorityState} (h : x.verify env = .ok ()) : x.stateDigest = digest env x.toAuthorityBody.json :=
  not_not.mp (raiseIf_bind_eq_ok.mp h).1

theorem sameDigest_verified {x : AuthorityState} (h : x.verify env = .ok ()) : sameDigest x.stateDigest x.stateDigest = .ok true := by
  rw [verify_digest h, sameDigest_digest]

theorem stateDigest_ne_empty {x : AuthorityState} (h : x.verify env = .ok ()) : x.stateDigest ≠ "" := by
  rw [verify_digest h]
  exact digest_ne_empty _ _

/-- What `command_result` returns names the state that it was asked for. -/
theorem named_commandResult {db : Database} {c p d text : String} (h : commandResult env db c p d = .ok (some text)) :
    Named text d := by
  unfold commandResult at h
  split at h
  · cases h
  · rename_i row _
    obtain ⟨_, -, h⟩ := bind_eq_ok.mp h
    obtain ⟨-, h⟩ := raiseIf_bind_eq_ok.mp h
    obtain ⟨_, -, h⟩ := bind_eq_ok.mp h
    obtain ⟨-, h⟩ := raiseIf_bind_eq_ok.mp h
    obtain ⟨body, hbody, h⟩ := bind_eq_ok.mp h
    obtain ⟨stale, hstale, h⟩ := bind_eq_ok.mp h
    obtain ⟨hfresh, h⟩ := raiseIf_bind_eq_ok.mp h
    cases h
    refine ⟨body, orRaise_eq_ok.mp hbody, ?_⟩
    cases hd : resultStateDigest body with
    | none =>
      rw [hd] at hstale
      cases hstale
      exact absurd rfl hfresh
    | some t =>
      rw [hd] at hstale
      obtain ⟨same, hsame, e⟩ := map_eq_ok.mp hstale
      obtain ⟨-, hsame⟩ := raiseIf_bind_eq_ok.mp hsame
      cases hsame
      by_cases ht : t = d
      · rw [ht]
      · simp [ht] at e
        exact absurd e hfresh

/-! ## Valid successors -/

section Verified

variable {v : AuthorityState}

theorem head_verified (hv : v.verify env = .ok ()) : v.authorityHead ≠ "" := by
  obtain ⟨-, h⟩ := raiseIf_bind_eq_ok.mp hv
  obtain ⟨hvalid, -⟩ := raiseIf_bind_eq_ok.mp h
  exact fun e => hvalid (.inr (.inr (.inr (.inr (.inl e)))))

theorem sequence_verified (hv : v.verify env = .ok ()) : 0 ≤ v.sequence := by
  obtain ⟨-, h⟩ := raiseIf_bind_eq_ok.mp hv
  obtain ⟨hvalid, -⟩ := raiseIf_bind_eq_ok.mp h
  exact not_lt.mp fun hlt => hvalid (.inr (.inr (.inr (.inr (.inr (.inl hlt))))))

theorem highWater_verified (hv : v.verify env = .ok ()) : ∃ t, env.fromisoformat v.trustedTimeHighWater = some (some t) := by
  obtain ⟨-, h⟩ := raiseIf_bind_eq_ok.mp hv
  obtain ⟨-, h⟩ := raiseIf_bind_eq_ok.mp h
  obtain ⟨validFrom, -, h⟩ := bind_eq_ok.mp h
  obtain ⟨expiresAt, -, h⟩ := bind_eq_ok.mp h
  obtain ⟨highWater, hhigh, h⟩ := bind_eq_ok.mp h
  cases highWater with
  | some t => exact ⟨t, orRaise_eq_ok.mp hhigh⟩
  | none => cases validFrom <;> cases expiresAt <;> cases h

section Changed

variable {sequence : ℤ} {head : String} {status : RetainedAuthorityStatus} {time keyId : String} {version : ℤ} {records : List String}

/-- A successor in the same generation, under the same policy and for the same period, is valid. -/
theorem verify_create (hv : v.verify env = .ok ()) (hsequence : 0 ≤ sequence) (hhead : head ≠ "")
    (htime : ∃ t, env.fromisoformat time = some (some t)) :
    (AuthorityState.create env { v.toAuthorityBody with
      sequence := sequence, authorityHead := head, authorityStatus := status, trustedTimeHighWater := time,
      currentKeyId := keyId, currentKeyVersion := version, keyRecords := records }).verify env = .ok () := by
  obtain ⟨-, h⟩ := raiseIf_bind_eq_ok.mp hv
  obtain ⟨hvalid, h⟩ := raiseIf_bind_eq_ok.mp h
  obtain ⟨validFrom, hfrom, h⟩ := bind_eq_ok.mp h
  obtain ⟨expiresAt, hexpires, h⟩ := bind_eq_ok.mp h
  obtain ⟨highWater, -, h⟩ := bind_eq_ok.mp h
  obtain ⟨t, ht⟩ := htime
  have htimes : checkValidity validFrom expiresAt (some t) = .ok () := by
    cases validFrom <;> cases expiresAt <;> cases highWater <;> first | exact h | cases h
  unfold AuthorityState.verify AuthorityState.create
  refine raiseIf_bind_eq_ok.mpr ⟨not_not.mpr rfl, raiseIf_bind_eq_ok.mpr ⟨?_, ?_⟩⟩
  · intro hbad
    refine hvalid ?_
    rcases hbad with h | h | h | h | h | h | h | h
    · exact .inl h
    · exact .inr (.inl h)
    · exact .inr (.inr (.inl h))
    · exact .inr (.inr (.inr (.inl h)))
    · exact absurd h hhead
    · exact absurd h (not_lt.mpr hsequence)
    · exact .inr (.inr (.inr (.inr (.inr (.inr (.inl h))))))
    · exact .inr (.inr (.inr (.inr (.inr (.inr (.inr h))))))
  · exact bind_eq_ok.mpr ⟨validFrom, hfrom, bind_eq_ok.mpr ⟨expiresAt, hexpires, bind_eq_ok.mpr ⟨some t,
      orRaise_eq_ok.mpr ht, htimes⟩⟩⟩

theorem verify_successorOf (hv : v.verify env = .ok ()) (hsequence : 0 ≤ sequence) :
    (successorOf env { v.toAuthorityBody with
      sequence := sequence, authorityStatus := status, currentKeyId := keyId, currentKeyVersion := version,
      keyRecords := records }).verify env = .ok () :=
  verify_create hv hsequence (digest_ne_empty env _) (highWater_verified hv)

theorem requireSuccessor_successorOf (hstatus : status = v.authorityStatus ∨ status ≠ .active) :
    requireSuccessor v (successorOf env { v.toAuthorityBody with
      sequence := v.sequence + 1, authorityStatus := status, currentKeyId := keyId, currentKeyVersion := version,
      keyRecords := records }) = .ok () := by
  unfold requireSuccessor successorOf AuthorityState.create
  refine raiseIf_bind_eq_ok.mpr ⟨?_, ?_⟩
  · rintro (h | h | h | h | h | h)
    · exact h rfl
    · exact h rfl
    · exact h rfl
    · exact h rfl
    · exact h.1 rfl
    · exact absurd (Text.before_iff.mp h) (lt_irrefl _)
  · rw [if_pos rfl, raiseIf_eq_ok]
    rintro (h | h | h | h | h | h | h | ⟨h, h'⟩)
    · exact h rfl
    · exact h rfl
    · exact h rfl
    · exact h rfl
    · exact h rfl
    · exact h rfl
    · exact h rfl
    · rcases hstatus with hs | hs
      · exact h (hs ▸ h')
      · exact hs h'

end Changed

end Verified

/-! ## Publications that are accepted -/

/-- A valid successor of the state is committed, with a result that names it. -/
theorem commitSuccessor_accepted {c p r : String} {x : AuthorityState} (hv : s.database.state.verify env = .ok ())
    (hx : x.verify env = .ok ()) (hr : Named r x.stateDigest) (hq : requireSuccessor s.database.state x = .ok ())
    (hn : Dict.get? c s.database.commands = none) :
    commitSuccessor env s.database.state.stateDigest c p x r s.database =
      .ok ⟨x, Dict.set c ⟨p, digest env (.str (hex r)), r⟩ s.database.commands⟩ := by
  obtain ⟨body, hbody, hd⟩ := hr
  have hdiffers : differs (resultStateDigest body) x.stateDigest = .ok false := by
    rw [hd, differs, sameDigest_verified hx]
    rfl
  exact commitSuccessor_eq_ok hv hx hbody hdiffers (sameDigest_verified hv) hq hn

theorem commit_accepted {c p r : String} {x : AuthorityState} (hv : s.database.state.verify env = .ok ())
    (hx : x.verify env = .ok ()) (hr : Named r x.stateDigest) (hq : requireSuccessor s.database.state x = .ok ())
    (hn : Dict.get? c s.database.commands = none) :
    ∃ db, commitSuccessor env s.database.state.stateDigest c p x r s.database = .ok db :=
  ⟨_, commitSuccessor_accepted hv hx hr hq hn⟩

theorem publish_accepted {c p r : String} {x : AuthorityState} (hv : s.database.state.verify env = .ok ())
    (ho : reportsOperational s = true) (hx : x.verify env = .ok ()) (hr : Named r x.stateDigest)
    (hq : requireSuccessor s.database.state x = .ok ()) (hn : Dict.get? c s.database.commands = none) :
    Ends (publish env c p x r) s (.ok r)
      ⟨⟨x, Dict.set c ⟨p, digest env (.str (hex r)), r⟩ s.database.commands⟩, some x.stateDigest, none⟩ :=
  publish_run hv ho hn (stateDigest_ne_empty hx) (commitSuccessor_accepted hv hx hr hq hn)

theorem reportsOperational_settled {x : AuthorityState} {commands : List (String × CommandRow)}
    (hx : x.verify env = .ok ()) : reportsOperational ⟨⟨x, commands⟩, some x.stateDigest, none⟩ = true :=
  reportsOperational_iff.mpr ⟨stateDigest_ne_empty hx, rfl, rfl⟩

end ATB.Proof.AuthorityStore
