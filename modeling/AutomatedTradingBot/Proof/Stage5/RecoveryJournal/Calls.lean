import AutomatedTradingBot.Proof.Stage5.RecoveryJournal.Rows

/-!
# The calls in progress

What a thread still has to do is always the rest of one of the journal's calls
(`Shape`), and the rest of a call carries what its earlier steps have established:
a terminal is recorded, and the gate is opened, only with a receipt that the
journal's authority has accepted and consumed; the constructor returns only after
it has set the volatile reason.

* `perform_frame`: what a step leaves alone;
* `inv_step`: the calls in progress keep their shape;
* `step_opens`: a call comes to open the gate only by an evaluation that finds no
  attempt unresolved.
-/

namespace ATB.Proof.RecoveryJournal

open ATB.Stage5 ATB.Trace

section Frame

variable {ι : Type}

/-- The authority of the journal that the process has open. -/
def authority (w : World ι) : Option TrustPolicy := w.memory.bind Memory.authority

/-- The assignment to the journal's fields that a step makes. -/
def assign : Work → Memory → Memory
  | .clearReason _, m => { m with persistenceUnresolved := none }
  | .setReason reason, m => World.setReason reason m
  | .publish, m => { m with ready := true }
  | _, m => m

/-- What a step leaves alone. -/
structure Frame (work : Work) (w w' : World ι) : Prop where
  threads : w'.threads = w.threads
  consumed : w.consumed ⊆ w'.consumed
  memory : w'.memory = w.memory.map (assign work)

theorem Frame.of_assign {work : Work} {w w' : World ι} (ht : w'.threads = w.threads) (hc : w.consumed ⊆ w'.consumed)
    (hm : w'.memory = w.memory) (hw : assign work = id) : Frame work w w' :=
  ⟨ht, hc, by rw [hm, hw, Option.map_id]; rfl⟩

theorem Frame.of_eq {work : Work} {w w' : World ι} (ht : w'.threads = w.threads) (hc : w'.consumed = w.consumed)
    (hm : w'.memory = w.memory) (hw : assign work = id) : Frame work w w' :=
  .of_assign ht (hc ▸ List.Subset.refl _) hm hw

theorem consume_eq_ok {receipt : Receipt} {consumed consumed' : List Receipt}
    (h : TrustPolicy.consume receipt consumed = .ok consumed') : consumed' = consumed ++ [receipt] := by
  simp only [TrustPolicy.consume, raiseIf_bind_eq_ok, pure_eq_ok] at h
  exact h.2.symm

/-- The receipt names the attempt, its request and ticket, and the outcome. -/
def Names (k : Key) (requestDigest g00Sequence : String) (outcome : TerminalOutcome) (receipt : Receipt) : Prop :=
  receipt.operationId = some k.operationId ∧ receipt.requestDigest = some requestDigest ∧
    receipt.attemptId = some k.attemptId ∧ receipt.g00Sequence = some g00Sequence ∧
    receipt.terminalOutcome = some outcome

/-- The authority accepts the receipt, as one of this type, at some time and challenge. -/
def Valid (py : Platform) (type : ReceiptType) (receipt : Receipt) (policy : TrustPolicy) : Prop :=
  ∃ now challenge, policy.validateCommon py now receipt type challenge = .ok ()

/-- The authority of the open journal has accepted the receipt and has consumed it. -/
def Authenticated (py : Platform) (w : World ι) (type : ReceiptType) (receipt : Receipt) : Prop :=
  receipt ∈ w.consumed ∧ ∃ policy ∈ authority w, Valid py type receipt policy

theorem consumeTerminal_eq_ok {py : Platform} {w : World ι} {now : Int} {k : Key} {d g : String} {o : TerminalOutcome}
    {receipt : Receipt} {consumed : List Receipt}
    (h : w.consumeTerminal py now k d g o receipt = .ok consumed) :
    consumed = w.consumed ++ [receipt] ∧ Names k d g o receipt ∧
      ∃ policy ∈ authority w, Valid py .terminal receipt policy := by
  simp only [World.consumeTerminal, bind_eq_ok, orRaise_eq_ok] at h
  obtain ⟨policy, hp, challenge, -, h⟩ := h
  simp only [TrustPolicy.consumeTerminal, bind_eq_ok, raiseIf_eq_ok, exists_const] at h
  obtain ⟨⟨⟩, hv, -, hn, h⟩ := h
  refine ⟨consume_eq_ok h, ?_, policy, hp, now, challenge, hv⟩
  simp only [not_or, not_not] at hn
  exact hn

theorem consumeBootstrap_eq_ok {py : Platform} {w : World ι} {now : Int} {receipt : Receipt} {consumed : List Receipt}
    (h : w.consumeBootstrap py now receipt = .ok consumed) :
    consumed = w.consumed ++ [receipt] ∧ ∃ policy ∈ authority w, Valid py .bootstrap receipt policy := by
  simp only [World.consumeBootstrap, bind_eq_ok] at h
  obtain ⟨challenge, -, ⟨policy, st⟩, hb, h⟩ := h
  have hp : authority w = some policy := by
    rw [authority]
    unfold World.bound at hb
    split at hb
    · next policy' _ hm _ =>
      simp only [bind_eq_ok, pure_eq_ok, Prod.mk.injEq] at hb
      obtain ⟨-, -, rfl, -⟩ := hb
      exact hm
    · cases hb
  simp only [TrustPolicy.consumeBootstrap, bind_eq_ok, raiseIf_eq_ok, exists_const] at h
  obtain ⟨⟨⟩, hv, -, h⟩ := h
  exact ⟨consume_eq_ok h, policy, hp, now, challenge, hv⟩

variable {py : Platform} {w w' : World ι} {t : ι} {now : Int} {fault : Fault} {next : Next}

theorem commit_frame {tx : Tx} (h : w.commit now fault tx = some (w', next)) : Frame (.commit tx) w w' := by
  unfold World.commit at h
  (repeat' split at h) <;> cases h <;> exact .of_eq rfl rfl rfl rfl

theorem perform_frame {work : Work} (h : w.perform py t now fault work = some (w', next)) : Frame work w w' := by
  cases work
  case commit tx => exact commit_frame h
  case consumeTerminal k d g o receipt =>
    simp only [World.perform] at h
    split at h
    · split at h <;> cases h
      · next hc =>
        refine .of_assign rfl ?_ rfl rfl
        rw [(consumeTerminal_eq_ok hc).1]
        exact List.subset_append_left ..
      · exact .of_eq rfl rfl rfl rfl
    · cases h
      exact .of_eq rfl rfl rfl rfl
  case consumeRequalify k d g o receipt =>
    simp only [World.perform] at h
    split at h
    · split at h <;> cases h
      · next hc =>
        refine .of_assign rfl ?_ rfl rfl
        rw [(consumeTerminal_eq_ok hc).1]
        exact List.subset_append_left ..
      · exact .of_eq rfl rfl rfl rfl
    · cases h
      exact .of_eq rfl rfl rfl rfl
  case consumeBootstrap receipt =>
    simp only [World.perform] at h
    split at h
    · split at h <;> cases h
      · next hc =>
        refine .of_assign rfl ?_ rfl rfl
        rw [(consumeBootstrap_eq_ok hc).1]
        exact List.subset_append_left ..
      · exact .of_eq rfl rfl rfl rfl
    · cases h
      exact .of_eq rfl rfl rfl rfl
  case evaluateRequalify op digest receipt fetched =>
    simp only [World.perform] at h
    split at h
    · cases h
      exact .of_eq rfl rfl rfl rfl
    · obtain ⟨row, -, h⟩ := Option.bind_eq_some_iff.mp h
      split at h <;> cases h <;> exact .of_eq rfl rfl rfl rfl
    · cases h
  case clearReason receipt =>
    cases h
    exact ⟨rfl, List.Subset.refl _, rfl⟩
  case setReason reason =>
    cases h
    exact ⟨rfl, List.Subset.refl _, rfl⟩
  case publish =>
    cases h
    exact ⟨rfl, List.Subset.refl _, rfl⟩
  all_goals
    simp only [World.perform, World.orElse] at h
    (repeat' split at h) <;> cases h <;> exact .of_eq rfl rfl rfl rfl

end Frame

/-! ## The rest of a call -/

section Shape

variable {ι : Type}

def Ready (w : World ι) : Prop := ∃ m ∈ w.memory, m.ready = true

/-- The constructor has not returned. -/
def Building (w : World ι) : Prop := ∃ m ∈ w.memory, m.ready = false

def Denied (w : World ι) : Prop := ∃ m ∈ w.memory, m.persistenceUnresolved ≠ none

/-- A step that can stand anywhere: a transaction without authority, or a denial. -/
def Plain : Work → Prop
  | .commit (.recordTerminal ..) => False
  | .commit _ | .setReason _ | .writeSentinel _ | .closeGate _ | .raise _ => True
  | _ => False

/-- The type of the receipt that opens the gate. -/
def openingType (bootstrap : Bool) : ReceiptType := if bootstrap then .bootstrap else .terminal

/-- What a thread still has to do. -/
inductive Shape (py : Platform) (w : World ι) : List Work → Prop where
  | plain {l : List Work} (h : ∀ x ∈ l, Plain x) : Shape py w l
  | create (hb : Building w) (new : Bool) (i f c : String) :
      Shape py w [.createStore, .commit (.initializeRows new i f c), .restoreGate, .publish]
  | initializeRows (hb : Building w) (new : Bool) (i f c : String) :
      Shape py w [.commit (.initializeRows new i f c), .restoreGate, .publish]
  | restoreGate (hb : Building w) : Shape py w [.restoreGate, .publish]
  | setReason (hb : Building w) (reason : String) :
      Shape py w [.setReason reason, .writeSentinel reason, .closeGate reason, .publish]
  | writeSentinel (hb : Building w) (hd : Denied w) (reason : String) :
      Shape py w [.writeSentinel reason, .closeGate reason, .publish]
  | closeGate (hb : Building w) (hd : Denied w) (reason : String) : Shape py w [.closeGate reason, .publish]
  | publish (hb : Building w) (hd : Denied w) : Shape py w [.publish]
  | readTerminal (k : Key) (d : String) (r : Receipt) : Shape py w [.readTerminal k d r]
  | consumeTerminal (k : Key) (d g : String) (o : TerminalOutcome) (r : Receipt) :
      Shape py w [.consumeTerminal k d g o r, .commit (.recordTerminal k d g o r)]
  | recordTerminal {k : Key} {d g : String} {o : TerminalOutcome} {r : Receipt} (hn : Names k d g o r)
      (ha : Authenticated py w .terminal r) : Shape py w [.commit (.recordTerminal k d g o r)]
  | bindRequalify (hr : Ready w) (op d : String) (r : Receipt) (f : String) : Shape py w [.bindRequalify op d r f]
  | evaluateRequalify (hr : Ready w) (op d : String) (r : Receipt) (f : String) :
      Shape py w [.evaluateRequalify op d r f]
  | consumeRequalify (hr : Ready w) (k : Key) (d g : String) (o : TerminalOutcome) (r : Receipt) :
      Shape py w (.consumeRequalify k d g o r :: World.opening false r)
  | consumeBootstrap (hr : Ready w) (r : Receipt) : Shape py w [.consumeBootstrap r]
  | evaluateBootstrap (hr : Ready w) {r : Receipt} (ha : Authenticated py w .bootstrap r) :
      Shape py w [.evaluateBootstrap r]
  | opening (hr : Ready w) {b : Bool} {r : Receipt} (ha : Authenticated py w (openingType b) r) :
      Shape py w (World.opening b r)
  | unlinkSentinel (hr : Ready w) {b : Bool} {r : Receipt} (ha : Authenticated py w (openingType b) r) :
      Shape py w [.unlinkSentinel b r, .clearReason r]
  | clearReason (hr : Ready w) {b : Bool} {r : Receipt} (ha : Authenticated py w (openingType b) r) :
      Shape py w [.clearReason r]

variable {py : Platform} {w w' : World ι}

theorem Shape.nil : Shape py w [] := .plain (by simp)

theorem plain_deny (reason : String) {l : List Work} (h : ∀ x ∈ l, Plain x) : ∀ x ∈ deny reason ++ l, Plain x := by
  intro x hx
  simp only [deny, List.cons_append, List.nil_append, List.mem_cons] at hx
  rcases hx with rfl | rfl | rfl | hx
  · trivial
  · trivial
  · trivial
  · exact h x hx

theorem plain_unresolvedCommit : ∀ x ∈ World.unresolvedCommit, Plain x :=
  plain_deny _ (by simp [Plain])

theorem Ready.not_building (h : Ready w) : ¬ Building w := by
  rintro ⟨m, hm, hf⟩
  obtain ⟨m', hm', ht⟩ := h
  obtain rfl := Option.mem_unique hm hm'
  rw [hf] at ht
  cases ht

/-- A shape says no more of a state than what these three say. -/
theorem Shape.map {l : List Work} (h : Shape py w l) (hb : Building w → Building w' ∧ (Denied w → Denied w'))
    (hr : Ready w → Ready w') (ha : ∀ {type r}, Authenticated py w type r → Authenticated py w' type r) :
    Shape py w' l := by
  cases h with
  | plain h => exact .plain h
  | create h new i f c => exact .create (hb h).1 new i f c
  | initializeRows h new i f c => exact .initializeRows (hb h).1 new i f c
  | restoreGate h => exact .restoreGate (hb h).1
  | setReason h reason => exact .setReason (hb h).1 reason
  | writeSentinel h hd reason => exact .writeSentinel (hb h).1 ((hb h).2 hd) reason
  | closeGate h hd reason => exact .closeGate (hb h).1 ((hb h).2 hd) reason
  | publish h hd => exact .publish (hb h).1 ((hb h).2 hd)
  | readTerminal k d r => exact .readTerminal k d r
  | consumeTerminal k d g o r => exact .consumeTerminal k d g o r
  | recordTerminal hn h => exact .recordTerminal hn (ha h)
  | bindRequalify h op d r f => exact .bindRequalify (hr h) op d r f
  | evaluateRequalify h op d r f => exact .evaluateRequalify (hr h) op d r f
  | consumeRequalify h k d g o r => exact .consumeRequalify (hr h) k d g o r
  | consumeBootstrap h r => exact .consumeBootstrap (hr h) r
  | evaluateBootstrap h h' => exact .evaluateBootstrap (hr h) (ha h')
  | opening h h' => exact .opening (hr h) (ha h')
  | unlinkSentinel h h' => exact .unlinkSentinel (hr h) (ha h')
  | clearReason h h' => exact .clearReason (hr h) (ha h')

theorem Shape.congr {l : List Work} (h : Shape py w l) (hm : w'.memory = w.memory) (hc : w'.consumed = w.consumed) :
    Shape py w' l := by
  refine h.map ?_ ?_ ?_
  · intro hb
    simp only [Building, Denied, hm]
    exact ⟨hb, id⟩
  · intro hr
    rwa [Ready, hm]
  · intro type r ha
    rwa [Authenticated, authority, hm, hc]

/-! ### What a step keeps of the memory -/

theorem assign_authority (work : Work) (m : Memory) : (assign work m).authority = m.authority := by
  cases work <;> rfl

theorem assign_ready (work : Work) (m : Memory) (h : m.ready = true) : (assign work m).ready = true := by
  cases work <;> first | exact h | rfl

section Frame

variable {work : Work} (hf : Frame work w w')
include hf

theorem Frame.authority_eq : authority w' = authority w := by
  rw [authority, hf.memory, authority]
  cases w.memory with
  | none => rfl
  | some m => exact assign_authority work m

theorem Frame.ready (h : Ready w) : Ready w' := by
  obtain ⟨m, hm, hr⟩ := h
  exact ⟨assign work m, by rw [hf.memory, hm]; rfl, assign_ready work m hr⟩

theorem Frame.authenticated {type : ReceiptType} {r : Receipt} (h : Authenticated py w type r) :
    Authenticated py w' type r := by
  obtain ⟨hc, policy, hp, hv⟩ := h
  exact ⟨hf.consumed hc, policy, hf.authority_eq ▸ hp, hv⟩

theorem Frame.memory_eq (h : assign work = id) : w'.memory = w.memory := by
  rw [hf.memory, h, Option.map_id]; rfl

theorem Frame.building (h : assign work = id) (hb : Building w) : Building w' := by
  rw [Building, hf.memory_eq h]; exact hb

theorem Frame.denied (h : assign work = id) (hd : Denied w) : Denied w' := by
  rw [Denied, hf.memory_eq h]; exact hd

/-- The rest of a call keeps its shape while another thread moves. -/
theorem Shape.mono {l : List Work} (h : Shape py w l) (hr : Ready w) : Shape py w' l :=
  h.map (fun hb => absurd hb hr.not_building) hf.ready hf.authenticated

end Frame

/-! ### The moving thread -/

/-- What a thread has to do after a step. -/
def after (rest : List Work) : Next → List Work
  | .go extra => extra ++ rest
  | .instead work => work
  | .raise _ => []

variable {t : ι} {now : Int} {fault : Fault} {next : Next}

theorem commit_next {tx : Tx} (h : w.commit now fault tx = some (w', next)) :
    next = .go [] ∨ (∃ e, next = .raise e) ∨ next = .instead World.unresolvedCommit ∨
      (∃ st q, tx.apply now st = .ok q ∧ q.2 = true) ∧ ∃ l, next = .go l ∧ ∀ x ∈ l, Plain x := by
  unfold World.commit at h
  split at h
  · cases h
    exact .inr (.inl ⟨_, rfl⟩)
  · split at h
    · cases h
    split at h
    · cases h
      exact .inr (.inl ⟨_, rfl⟩)
    · cases h
      exact .inl rfl
    · next hq =>
      cases h
      exact .inr (.inr (.inr ⟨⟨_, _, hq, rfl⟩, _, rfl, plain_deny _ (by simp [Plain])⟩))
  · split at h
    · cases h
    split at h <;> cases h
    exact .inr (.inl ⟨_, rfl⟩)
  · split at h
    · cases h
    split at h <;> cases h
    exact .inr (.inr (.inl rfl))
  · cases h

/-- After a transaction a thread goes on with the rest, or with plain steps only. -/
theorem commit_after {tx : Tx} (h : w.commit now fault tx = some (w', next)) {rest : List Work}
    (hgo : Shape py w' rest) (hconflict : (∃ st q, tx.apply now st = .ok q ∧ q.2 = true) → ∀ x ∈ rest, Plain x) :
    Shape py w' (after rest next) := by
  rcases commit_next h with rfl | ⟨e, rfl⟩ | rfl | ⟨hq, l, rfl, hl⟩
  · exact hgo
  · exact .nil
  · exact .plain plain_unresolvedCommit
  · refine .plain fun x hx => ?_
    rcases List.mem_append.mp hx with hx | hx
    · exact hl x hx
    · exact hconflict hq x hx

theorem shape_plain {work : Work} {rest : List Work} (hw : Plain work) (hrest : ∀ x ∈ rest, Plain x)
    (h : w.perform py t now fault work = some (w', next)) : Shape py w' (after rest next) := by
  cases work with
  | commit tx => exact commit_after h (.plain hrest) fun _ => hrest
  | setReason reason =>
    cases h
    exact .plain hrest
  | writeSentinel reason =>
    simp only [World.perform] at h
    split at h <;> cases h <;> exact .plain hrest
  | closeGate reason =>
    simp only [World.perform] at h
    split at h <;> cases h <;> exact .plain hrest
  | raise e =>
    cases h
    exact .nil
  | _ => exact hw.elim

theorem readTerminal_eq_ok {k : Key} {d : String} {r : Receipt} {extra : List Work}
    (h : w.readTerminal py k d r = .ok extra) :
    ∃ g o, extra = [.consumeTerminal k d g o r, .commit (.recordTerminal k d g o r)] := by
  simp only [World.readTerminal, bind_eq_ok] at h
  obtain ⟨⟨policy, st⟩, -, h⟩ := h
  split at h
  · cases h
  · next row _ =>
    simp only [bind_eq_ok, raiseIf_eq_ok, exists_const, orRaise_eq_ok, pure_eq_ok] at h
    obtain ⟨-, -, o, -, rfl⟩ := h
    exact ⟨row.g00Sequence, o, rfl⟩

/-- A terminal is read, consumed and recorded. -/
theorem shape_readTerminal {k : Key} {d : String} {r : Receipt}
    (h : w.perform py t now fault (.readTerminal k d r) = some (w', next)) : Shape py w' (after [] next) := by
  simp only [World.perform] at h
  split at h
  · cases hr : w.readTerminal py k d r with
    | error e =>
      rw [hr] at h
      cases h
      exact .nil
    | ok extra =>
      rw [hr] at h
      cases h
      obtain ⟨g, o, rfl⟩ := readTerminal_eq_ok hr
      exact .consumeTerminal k d g o r
  · cases h
    exact .nil

theorem shape_consumeTerminal {k : Key} {d g : String} {o : TerminalOutcome} {r : Receipt}
    (h : w.perform py t now fault (.consumeTerminal k d g o r) = some (w', next)) :
    Shape py w' (after [.commit (.recordTerminal k d g o r)] next) := by
  have hf := perform_frame h
  simp only [World.perform] at h
  split at h
  · split at h <;> cases h
    · next hc =>
      obtain ⟨rfl, hn, policy, hp, hv⟩ := consumeTerminal_eq_ok hc
      exact .recordTerminal hn ⟨by simp, policy, hp, hv⟩
    · exact .nil
  · cases h
    exact .nil

/-- The evidence is evaluated, the receipt consumed, and the gate opened. -/
theorem shape_requalify {op d f : String} {r : Receipt} (hr : Ready w) {work : Work}
    (hw : work = .bindRequalify op d r f ∨ work = .evaluateRequalify op d r f)
    (h : w.perform py t now fault work = some (w', next)) : Shape py w' (after [] next) := by
  have hr' := (perform_frame h).ready hr
  rcases hw with rfl | rfl
  · simp only [World.perform] at h
    split at h
    · cases h
      exact .nil
    · split at h <;> cases h
      · exact .evaluateRequalify hr' op d r f
      · exact .nil
  · simp only [World.perform] at h
    split at h
    · cases h
      exact .nil
    · obtain ⟨row, -, h⟩ := Option.bind_eq_some_iff.mp h
      split at h <;> cases h
      · exact .nil
      · exact .consumeRequalify hr' _ _ _ _ _
    · cases h

theorem shape_consumeRequalify {k : Key} {d g : String} {o : TerminalOutcome} {r : Receipt} (hr : Ready w)
    (h : w.perform py t now fault (.consumeRequalify k d g o r) = some (w', next)) :
    Shape py w' (after (World.opening false r) next) := by
  have hf := perform_frame h
  simp only [World.perform] at h
  split at h
  · split at h <;> cases h
    · next hc =>
      obtain ⟨rfl, hn, policy, hp, hv⟩ := consumeTerminal_eq_ok hc
      exact .opening (hf.ready hr) ⟨by simp, policy, hp, hv⟩
    · exact .nil
  · cases h
    exact .nil

theorem shape_bootstrap {r : Receipt} (hr : Ready w) {work : Work}
    (hw : work = .consumeBootstrap r ∨ work = .evaluateBootstrap r ∧ Authenticated py w .bootstrap r)
    (h : w.perform py t now fault work = some (w', next)) : Shape py w' (after [] next) := by
  have hf := perform_frame h
  rcases hw with rfl | ⟨rfl, ha⟩
  · simp only [World.perform] at h
    split at h
    · split at h <;> cases h
      · next hc =>
        obtain ⟨rfl, policy, hp, hv⟩ := consumeBootstrap_eq_ok hc
        exact .evaluateBootstrap (hf.ready hr) ⟨by simp, policy, hp, hv⟩
      · exact .nil
    · cases h
      exact .nil
  · have ha' := hf.authenticated ha
    simp only [World.perform] at h
    split at h
    · cases h
      exact .nil
    · split at h <;> cases h
      · exact .nil
      · exact .opening (hf.ready hr) (b := true) ha'
    · cases h

theorem shape_openGate {b : Bool} {r : Receipt} (hr : Ready w) (ha : Authenticated py w (openingType b) r)
    (h : w.perform py t now fault (.openGate b r) = some (w', next)) :
    Shape py w' (after [.unlinkSentinel b r, .clearReason r] next) := by
  have hf := perform_frame h
  simp only [World.perform] at h
  split at h
  · cases h
  split at h <;> cases h
  · exact .unlinkSentinel (hf.ready hr) (hf.authenticated ha)
  · exact .plain plain_unresolvedCommit

theorem shape_unlinkSentinel {b : Bool} {r : Receipt} (hr : Ready w) (ha : Authenticated py w (openingType b) r)
    (h : w.perform py t now fault (.unlinkSentinel b r) = some (w', next)) :
    Shape py w' (after [.clearReason r] next) := by
  have hf := perform_frame h
  simp only [World.perform] at h
  split at h
  · cases h
    exact .clearReason (hf.ready hr) (hf.authenticated ha)
  split at h <;> cases h
  · exact .nil
  · exact .plain (plain_deny _ (by simp [Plain]))

/-- A step takes the rest of a call to the rest of a call. -/
theorem shape_perform {work : Work} {rest : List Work} (hs : Shape py w (work :: rest))
    (h : w.perform py t now fault work = some (w', next)) : Shape py w' (after rest next) := by
  have hf := perform_frame h
  cases hs with
  | plain hp => exact shape_plain (hp work (List.mem_cons_self ..)) (fun x hx => hp x (List.mem_cons_of_mem _ hx)) h
  | create hb new i f c =>
    cases h
    exact .initializeRows (hf.building rfl hb) new i f c
  | initializeRows hb new i f c =>
    have h' : w.commit now fault (.initializeRows new i f c) = some (w', next) := h
    refine commit_after h' (.restoreGate (hf.building rfl hb)) ?_
    rintro ⟨st, q, hq, hq2⟩
    cases hq
    cases hq2
  | restoreGate hb =>
    simp only [World.perform] at h
    split at h
    · cases h
    split at h <;> cases h
    · exact .setReason (hf.building rfl hb) _
    · exact .nil
  | setReason hb reason =>
    cases h
    obtain ⟨m, hm, hready⟩ := hb
    have hm' : World.setReason reason m ∈ w.memory.map (World.setReason reason) := Option.mem_map_of_mem _ hm
    refine .writeSentinel ⟨World.setReason reason m, hm', hready⟩ ⟨World.setReason reason m, hm', ?_⟩ reason
    cases hp : m.persistenceUnresolved <;> simp [World.setReason, hp]
  | writeSentinel hb hd reason =>
    have hshape : Shape py w' [.closeGate reason, .publish] :=
      .closeGate (hf.building rfl hb) (hf.denied rfl hd) reason
    simp only [World.perform] at h
    split at h <;> cases h <;> exact hshape
  | closeGate hb hd reason =>
    have hshape : Shape py w' [.publish] := .publish (hf.building rfl hb) (hf.denied rfl hd)
    simp only [World.perform] at h
    split at h <;> cases h <;> exact hshape
  | publish hb hd =>
    cases h
    exact .nil
  | readTerminal k d r => exact shape_readTerminal h
  | consumeTerminal k d g o r => exact shape_consumeTerminal h
  | recordTerminal hn ha => exact commit_after h .nil fun _ => by simp
  | bindRequalify hr op d r f => exact shape_requalify hr (.inl rfl) h
  | evaluateRequalify hr op d r f => exact shape_requalify hr (.inr rfl) h
  | consumeRequalify hr k d g o r => exact shape_consumeRequalify hr h
  | consumeBootstrap hr r => exact shape_bootstrap hr (.inl rfl) h
  | evaluateBootstrap hr ha => exact shape_bootstrap hr (.inr ⟨rfl, ha⟩) h
  | opening hr ha => exact shape_openGate hr ha h
  | unlinkSentinel hr ha => exact shape_unlinkSentinel hr ha h
  | clearReason hr ha =>
    cases h
    exact .nil

end Shape

/-! ## Every run -/

section Inv

variable {ι : Type}

/-- What every run keeps of the calls in progress. -/
structure Inv (py : Platform) (w : World ι) : Prop where
  idle : w.memory = none → ∀ t, w.threads t = []
  /-- While the constructor runs, nobody else calls. -/
  single : Building w → ∀ t u, w.threads t ≠ [] → w.threads u ≠ [] → t = u
  shape : ∀ t, Shape py w (w.threads t)

variable [DecidableEq ι] {py : Platform} {w w' : World ι} {t : ι}

@[simp] theorem memory_proceed (rest : List Work) (next : Next) : (w.proceed t rest next).memory = w.memory := by
  cases next <;> rfl

@[simp] theorem consumed_proceed (rest : List Work) (next : Next) :
    (w.proceed t rest next).consumed = w.consumed := by cases next <;> rfl

@[simp] theorem threads_proceed_self (rest : List Work) (next : Next) :
    (w.proceed t rest next).threads t = after rest next := by
  cases next <;> exact Function.update_self ..

theorem threads_proceed_ne {u : ι} (h : u ≠ t) (rest : List Work) (next : Next) :
    (w.proceed t rest next).threads u = w.threads u := by
  cases next <;> exact Function.update_of_ne h ..

omit [DecidableEq ι] in
/-- The work of a call has a shape. -/
theorem shape_operation (hr : Ready w) (op : Operation) : Shape py w op.work := by
  cases op with
  | resolveAuthenticatedTerminal k d r => exact .readTerminal k d r
  | requalifyExposure op d r f => exact .bindRequalify hr op d r f
  | authorizeBootstrap r => exact .consumeBootstrap hr r
  | denyNewExposure reason =>
    rw [Operation.work]
    split
    · exact .plain (by simp [Plain])
    · exact .plain (by simp [deny, Plain])
  | resolved k c j e =>
    rw [Operation.work]
    split <;> exact .plain (by simp [Plain])
  | _ => exact .plain (by simp [Operation.work, Plain])

theorem inv_reopen {a : Option TrustPolicy} {c : String} (h : w.step py (.reopen t a c) = some w') (hi : Inv py w) :
    Inv py w' := by
  simp only [World.step] at h
  split at h <;> cases h
  next hm =>
  have hidle := hi.idle hm
  have hthreads : ∀ u, u ≠ t → Function.update w.threads t (World.reopenWork py w.store.isNone a c) u = [] := by
    intro u hu
    rw [Function.update_of_ne hu, hidle u]
  have honly : ∀ u, Function.update w.threads t (World.reopenWork py w.store.isNone a c) u ≠ [] → u = t := by
    intro u hu
    by_contra hne
    exact hu (hthreads u hne)
  refine ⟨fun h => absurd h (by simp), fun _ u v hu hv => (honly u hu).trans (honly v hv).symm, fun u => ?_⟩
  by_cases hu : u = t
  · subst hu
    have e : Function.update w.threads u (World.reopenWork py w.store.isNone a c) u = _ := Function.update_self ..
    simp only [World.setThread, e]
    exact .create ⟨_, rfl, rfl⟩ _ _ _ _
  · simp only [World.setThread, hthreads u hu]
    exact .nil

theorem inv_call {op : Operation} (h : w.step py (.call t op) = some w') (hi : Inv py w) : Inv py w' := by
  simp only [World.step] at h
  split at h
  · next m hm ht =>
    split at h <;> cases h
    next hready =>
    have hr : Ready w := ⟨m, hm, hready⟩
    refine ⟨fun h => ?_, fun hb => absurd hb (Ready.not_building hr), fun u => ?_⟩
    · have h' : w.memory = none := h
      rw [hm] at h'
      cases h'
    · by_cases hu : u = t
      · subst hu
        have e : Function.update w.threads u op.work u = op.work := Function.update_self ..
        simp only [World.setThread, e]
        exact (shape_operation hr op).congr rfl rfl
      · have e : Function.update w.threads t op.work u = w.threads u := Function.update_of_ne hu ..
        simp only [World.setThread, e]
        exact (hi.shape u).congr rfl rfl
  · cases h

theorem inv_work {now : Int} {fault : Fault} (h : w.step py (.work t now fault) = some w') (hi : Inv py w) :
    Inv py w' := by
  obtain ⟨work, rest, w₁, next, ht, hp, rfl⟩ := work_cases h
  have hf := perform_frame hp
  have hbusy : w.threads t ≠ [] := by rw [ht]; simp
  have hself : Shape py (w₁.proceed t rest next) (after rest next) :=
    (shape_perform (ht ▸ hi.shape t) hp).congr (memory_proceed ..) (consumed_proceed ..)
  cases hm : w.memory with
  | none => exact absurd (hi.idle hm t) hbusy
  | some m =>
    have hother : ∀ u, u ≠ t → Shape py (w₁.proceed t rest next) (w.threads u) := by
      intro u hu
      refine Shape.congr (w := w₁) ?_ (memory_proceed ..) (consumed_proceed ..)
      cases hready : m.ready with
      | true => exact Shape.mono hf (hi.shape u) ⟨m, hm, hready⟩
      | false =>
        have hnil : w.threads u = [] := by
          by_contra hne
          exact hu (hi.single ⟨m, hm, hready⟩ u t hne hbusy)
        rw [hnil]
        exact .nil
    refine ⟨fun h => ?_, fun hb u v hu hv => ?_, fun u => ?_⟩
    · rw [memory_proceed, hf.memory, hm] at h
      cases h
    · have hb' : Building w := by
        obtain ⟨m', hm', hr'⟩ := hb
        rw [memory_proceed, hf.memory, hm] at hm'
        cases hm'
        refine ⟨m, hm, ?_⟩
        by_contra hne
        rw [assign_ready work m (by simpa using hne)] at hr'
        cases hr'
      have honly : ∀ u, (w₁.proceed t rest next).threads u ≠ [] → u = t := by
        intro u hu
        by_contra hne
        rw [threads_proceed_ne hne, hf.threads] at hu
        exact hne (hi.single hb' u t hu hbusy)
      exact (honly u hu).trans (honly v hv).symm
    · by_cases hu : u = t
      · subst hu
        rw [threads_proceed_self]
        exact hself
      · rw [threads_proceed_ne hu, hf.threads]
        exact hother u hu

/-- The calls in progress keep their shape. -/
theorem inv_step (e : Event ι) (h : w.step py e = some w') (hi : Inv py w) : Inv py w' := by
  cases e with
  | reopen t a c => exact inv_reopen h hi
  | call t op => exact inv_call h hi
  | work t now fault => exact inv_work h hi
  | stop =>
    cases h
    exact ⟨fun _ _ => rfl, fun _ _ _ ht => absurd rfl ht, fun _ => .nil⟩

omit [DecidableEq ι] in
theorem inv_init (consumed : List Receipt) : Inv py (World.init consumed : World ι) :=
  ⟨fun _ _ => rfl, fun _ _ _ ht => absurd rfl ht, fun _ => .nil⟩

theorem inv_run {consumed : List Receipt} {es : List (Event ι)}
    (h : run (World.step py) (World.init consumed) es = some w) : Inv py w :=
  run_invariant (Inv py) (fun _ e _ h => inv_step e h) h (inv_init consumed)

end Inv

/-! ## Calls that open the gate -/

section Opens

/-- The call has evaluated its evidence, and its last step clears the volatile reason. -/
def Opens (l : List Work) : Prop := ∃ r, Work.clearReason r ∈ l

theorem not_opens_of_plain {l : List Work} (h : ∀ x ∈ l, Plain x) : ¬ Opens l :=
  fun ⟨_, hr⟩ => h _ hr

theorem not_opens_operation (op : Operation) : ¬ Opens op.work := by
  rintro ⟨r, hr⟩
  cases op <;> simp only [Operation.work] at hr
  case resolved => split at hr <;> simp at hr
  case denyNewExposure => split at hr <;> simp [deny] at hr
  all_goals simp at hr

theorem unresolved?_eq_none {st : Store} :
    st.unresolved? = none ↔ ∀ r ∈ st.intents, r.state.requiresRecovery = false := by
  simp [Store.unresolved?]

variable {ι : Type} {py : Platform} {w w' : World ι} {t : ι} {now : Int} {fault : Fault} {next : Next}

/-- The first step of a call that opens the gate is not a transaction on the attempts. -/
theorem Shape.ne_commit {work : Work} {rest : List Work} (hs : Shape py w (work :: rest)) (ho : Opens (work :: rest))
    (tx : Tx) : work ≠ .commit tx := by
  rintro rfl
  cases hs with
  | plain hp => exact not_opens_of_plain hp ho
  | initializeRows => simp [Opens] at ho
  | recordTerminal => simp [Opens] at ho

/-- An evaluation that passes finds no attempt unresolved. -/
theorem evaluate_unresolved {st : Store} {row : Option Intent} {d : String} {p : String × TerminalOutcome}
    (h : st.evaluateRequalify row d = .ok p) : st.unresolved? = none := by
  unfold Store.evaluateRequalify at h
  split at h
  · cases h
  · split at h
    · cases h
    · split at h
      · cases h
      · next hn => simpa using hn

theorem evaluateBootstrap_unresolved {st : Store} {policy : TrustPolicy} {u : Unit}
    (h : st.evaluateBootstrap policy = .ok u) : st.unresolved? = none := by
  unfold Store.evaluateBootstrap at h
  split at h
  · next hc => simp [Store.unresolved?, hc.1]
  · cases h

/-- A call that goes on otherwise than planned only denies exposure and raises. -/
theorem perform_instead {work : Work} {l : List Work} (h : w.perform py t now fault work = some (w', .instead l)) :
    ∀ x ∈ l, Plain x := by
  cases work
  case commit tx =>
    rcases commit_next h with he | ⟨_, he⟩ | he | ⟨-, l, he, -⟩ <;> cases he
    exact plain_unresolvedCommit
  case openGate =>
    simp only [World.perform] at h
    split at h
    · cases h
    split at h <;> cases h
    exact plain_unresolvedCommit
  case unlinkSentinel =>
    simp only [World.perform] at h
    split at h
    · cases h
    split at h <;> cases h
    exact plain_deny _ (by simp [Plain])
  case evaluateRequalify =>
    simp only [World.perform] at h
    split at h
    · cases h
    · obtain ⟨row, -, h⟩ := Option.bind_eq_some_iff.mp h
      split at h <;> cases h
    · cases h
  all_goals
    simp only [World.perform, World.orElse] at h
    (repeat' split at h) <;> cases h

/-- A call comes to open the gate only by an evaluation that passes. -/
theorem perform_go {work : Work} {extra : List Work} (h : w.perform py t now fault work = some (w', .go extra))
    (ho : Opens extra) : (rows w).unresolved? = none := by
  cases work
  case commit tx =>
    have hplain : ∀ x ∈ extra, Plain x := by
      rcases commit_next h with he | ⟨_, he⟩ | he | ⟨-, l, he, hl⟩ <;> cases he
      · simp
      · exact hl
    exact absurd ho (not_opens_of_plain hplain)
  case evaluateRequalify op d r f =>
    simp only [World.perform] at h
    split at h
    · cases h
    · next st hst _ =>
      obtain ⟨row, -, h⟩ := Option.bind_eq_some_iff.mp h
      split at h <;> cases h
      next hev =>
      rw [rows_of_store hst]
      exact evaluate_unresolved hev
    · cases h
  case evaluateBootstrap r =>
    simp only [World.perform] at h
    split at h
    · cases h
    · next st policy hst _ _ =>
      split at h <;> cases h
      next hev =>
      rw [rows_of_store hst]
      exact evaluateBootstrap_unresolved hev
    · cases h
  case readTerminal k d r =>
    simp only [World.perform] at h
    split at h
    · cases hr : w.readTerminal py k d r with
      | error e =>
        rw [hr] at h
        cases h
      | ok l =>
        rw [hr] at h
        cases h
        obtain ⟨g, o, rfl⟩ := readTerminal_eq_ok hr
        simp [Opens] at ho
    · cases h
  all_goals
    simp only [World.perform] at h
    (repeat' split at h) <;> cases h <;> simp [Opens, deny] at ho

theorem perform_opens {work : Work} {rest : List Work} (h : w.perform py t now fault work = some (w', next))
    (ho : Opens (after rest next)) : Opens rest ∨ (rows w).unresolved? = none := by
  cases next with
  | go extra =>
    obtain ⟨r, hr⟩ := ho
    rcases List.mem_append.mp hr with hr | hr
    · exact .inr (perform_go h ⟨r, hr⟩)
    · exact .inl ⟨r, hr⟩
  | instead l => exact absurd ho (not_opens_of_plain (perform_instead h))
  | raise e =>
    obtain ⟨r, hr⟩ := ho
    cases hr

variable [DecidableEq ι]

/-- A thread comes to open the gate only by an evaluation that finds no attempt unresolved. -/
theorem step_opens {e : Event ι} (h : w.step py e = some w') {u : ι} (ho : Opens (w'.threads u)) :
    Opens (w.threads u) ∨ (rows w).unresolved? = none := by
  cases e with
  | reopen t a c =>
    simp only [World.step] at h
    split at h <;> cases h
    by_cases hu : u = t
    · subst hu
      simp [World.setThread, World.reopenWork, Opens] at ho
    · refine .inl ?_
      simpa only [World.setThread, Function.update_of_ne hu] using ho
  | call t op =>
    simp only [World.step] at h
    split at h
    · split at h <;> cases h
      by_cases hu : u = t
      · subst hu
        simp only [World.setThread, Function.update_self] at ho
        exact absurd ho (not_opens_operation op)
      · refine .inl ?_
        simpa only [World.setThread, Function.update_of_ne hu] using ho
    · cases h
  | work t now fault =>
    obtain ⟨work, rest, w₁, next, ht, hp, rfl⟩ := work_cases h
    by_cases hu : u = t
    · subst hu
      rw [threads_proceed_self] at ho
      rcases perform_opens hp ho with ⟨r, hr⟩ | hn
      · exact .inl ⟨r, ht ▸ List.mem_cons_of_mem _ hr⟩
      · exact .inr hn
    · rw [threads_proceed_ne hu, (perform_frame hp).threads] at ho
      exact .inl ho
  | stop =>
    cases h
    obtain ⟨r, hr⟩ := ho
    cases hr

/-- After a transaction on the attempts a call does not open the gate. -/
theorem commit_not_opens {tx : Tx} {rest : List Work} (hi : Inv py w) (ht : w.threads t = .commit tx :: rest)
    (h : w.step py (.work t now fault) = some w') : ¬ Opens (w'.threads t) := by
  intro ho
  have hrest : ¬ Opens rest := by
    rintro ⟨r, hr⟩
    exact Shape.ne_commit (ht ▸ hi.shape t) ⟨r, List.mem_cons_of_mem _ hr⟩ tx rfl
  obtain ⟨work, rest', w₁, next, ht', hp, rfl⟩ := work_cases h
  obtain ⟨rfl, rfl⟩ := List.cons.inj (ht'.symm.trans ht)
  rw [threads_proceed_self] at ho
  have hc : w.commit now fault tx = some (w₁, next) := hp
  rcases commit_next hc with rfl | ⟨e, rfl⟩ | rfl | ⟨-, l, rfl, hl⟩
  · exact hrest ho
  · obtain ⟨r, hr⟩ := ho
    cases hr
  · exact not_opens_of_plain plain_unresolvedCommit ho
  · obtain ⟨r, hr⟩ := ho
    rcases List.mem_append.mp hr with hr | hr
    · exact not_opens_of_plain hl ⟨r, hr⟩
    · exact hrest ⟨r, hr⟩

/-- With one caller at a time, no attempt is unresolved from the evaluation to the end of a
call that opens the gate. -/
theorem quiet_run (hseq : ∀ t u : ι, t = u) {consumed : List Receipt} {es : List (Event ι)}
    (h : run (World.step py) (World.init consumed) es = some w) (ho : Opens (w.threads t)) :
    (rows w).unresolved? = none := by
  refine (run_invariant (fun x => Inv py x ∧ ∀ t, Opens (x.threads t) → (rows x).unresolved? = none)
    ?_ h ⟨inv_init consumed, fun t ⟨r, hr⟩ => by cases hr⟩).2 t ho
  rintro x e x' hx ⟨hi, hq⟩
  refine ⟨inv_step e hx hi, fun u hu => ?_⟩
  have hbefore : (rows x).unresolved? = none := (step_opens hx hu).elim (hq u) id
  rcases step_rows hx with hs | ⟨t, now, fault, tx, rest, rfl, ht, -⟩
  · rwa [Store.unresolved?, hs.1]
  · obtain rfl := hseq u t
    exact absurd hu (commit_not_opens hi ht hx)

end Opens

end ATB.Proof.RecoveryJournal
