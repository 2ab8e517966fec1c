import Mathlib.Data.List.Nodup
import Mathlib.Order.MinMax
import AutomatedTradingBot.Source.Stage5.CommitBoundary

/-!
# The two cut-overs summarise the restrictions

`scope_control` keeps two summaries of the table of restrictions: the pending
cut-over, recomputed by every finalisation, and the effective one, lowered by some.
`Summarised` says what they are the minimum of; the second minimum is over the
restrictions that were final at some time, so it is stated with the databases that
the calls went through.

* `beginRestriction_spec`, `finalizeRestriction_spec`: what an accepted call writes;
* `summarised_step`: every call keeps the summaries;
* `restriction_summaries`: the summaries after every sequence of calls, and what they
  cover at every later time.
-/

namespace ATB.Proof.CommitBoundary

open ATB.Stage5.CommitBoundary

/-! ## Minima -/

/-- The least ticket of the restrictions that meet a condition. -/
def minTicket (p : RestrictionRequest → Bool) (rows : List RestrictionRequest) : Option Int :=
  ((rows.filter p).map RestrictionRequest.ticketSequence).min?

theorem minTicket_eq_some {p : RestrictionRequest → Bool} {rows : List RestrictionRequest} {t : Int} :
    minTicket p rows = some t ↔
      (∃ r ∈ rows, p r = true ∧ r.ticketSequence = t) ∧ ∀ r ∈ rows, p r = true → t ≤ r.ticketSequence := by
  rw [minTicket, List.min?_eq_some_iff]
  simp only [List.mem_map, List.mem_filter, and_assoc, forall_exists_index, and_imp]
  refine and_congr_right fun _ => ⟨fun h r hr hp => h _ r hr hp rfl, ?_⟩
  rintro h _ r hr hp rfl
  exact h r hr hp

theorem minTicket_eq_none {p : RestrictionRequest → Bool} {rows : List RestrictionRequest} :
    minTicket p rows = none ↔ ∀ r ∈ rows, p r = false := by
  simp [minTicket, List.filter_eq_nil_iff]

/-- The minimum depends on the tickets that meet the condition. -/
theorem minTicket_congr {p q : RestrictionRequest → Bool} {rows rows' : List RestrictionRequest}
    (h : ∀ t, (∃ r ∈ rows, p r = true ∧ r.ticketSequence = t) ↔ ∃ r ∈ rows', q r = true ∧ r.ticketSequence = t) :
    minTicket p rows = minTicket q rows' := by
  refine Option.ext fun t => ?_
  rw [minTicket_eq_some, minTicket_eq_some, h]
  refine and_congr_right fun _ => ?_
  constructor
  · intro hle r hr hq
    obtain ⟨r', hr', hp, e⟩ := (h r.ticketSequence).mpr ⟨r, hr, hq, rfl⟩
    exact e ▸ hle r' hr' hp
  · intro hle r hr hp
    obtain ⟨r', hr', hq, e⟩ := (h r.ticketSequence).mp ⟨r, hr, hp, rfl⟩
    exact e ▸ hle r' hr' hq

/-- One more ticket lowers the minimum to it. -/
theorem least_minTicket {p q : RestrictionRequest → Bool} {rows rows' : List RestrictionRequest} {ticket : Int}
    (h : ∀ t, (∃ r ∈ rows', q r = true ∧ r.ticketSequence = t) ↔
      (∃ r ∈ rows, p r = true ∧ r.ticketSequence = t) ∨ t = ticket) :
    minTicket q rows' = some (least (minTicket p rows) ticket) := by
  have hle : ∀ t, (∀ r ∈ rows', q r = true → t ≤ r.ticketSequence) ↔
      (∀ r ∈ rows, p r = true → t ≤ r.ticketSequence) ∧ t ≤ ticket := by
    intro t
    constructor
    · intro hall
      constructor
      · intro r hr hp
        obtain ⟨r', hr', hq, e⟩ := (h r.ticketSequence).mpr (.inl ⟨r, hr, hp, rfl⟩)
        exact e ▸ hall r' hr' hq
      · obtain ⟨r', hr', hq, e⟩ := (h ticket).mpr (.inr rfl)
        exact e ▸ hall r' hr' hq
    · rintro ⟨hall, ht⟩ r hr hq
      rcases (h r.ticketSequence).mp ⟨r, hr, hq, rfl⟩ with ⟨r', hr', hp, e⟩ | e
      · exact e ▸ hall r' hr' hp
      · exact e ▸ ht
  rw [minTicket_eq_some, h, hle]
  cases hm : minTicket p rows with
  | none =>
    have hnone := minTicket_eq_none.mp hm
    simp only [least, Option.getD_none, min_self]
    refine ⟨.inr trivial, fun r hr hp => ?_, le_rfl⟩
    rw [hnone r hr] at hp
    cases hp
  | some m =>
    obtain ⟨hmem, hmin⟩ := minTicket_eq_some.mp hm
    simp only [least, Option.getD_some]
    refine ⟨?_, fun r hr hp => (min_le_left _ _).trans (hmin r hr hp), min_le_right _ _⟩
    rcases min_choice m ticket with e | e
    · rw [e]
      exact .inl hmem
    · rw [e]
      exact .inr rfl

/-! ## The summaries -/

/-- The restriction has become effective, or denied for good. -/
def concluded (r : RestrictionRequest) : Bool := !r.state.open?

/-- The operation's restriction was concluded in one of the databases. -/
def everConcluded (states : List Database) (operationId : String) : Bool :=
  states.any fun db => db.restrictions.any fun r => decide (r.operationId = operationId) && concluded r

theorem everConcluded_append (states states' : List Database) (operationId : String) :
    everConcluded (states ++ states') operationId =
      (everConcluded states operationId || everConcluded states' operationId) := by
  simp [everConcluded]

/-- The two cut-overs are minima over the restrictions of their scope. -/
structure Summarised (states : List Database) (db : Database) : Prop where
  scopes : (db.scopeControl.map ScopeControl.scope).Nodup
  operations : (db.restrictions.map RestrictionRequest.operationId).Nodup
  known : ∀ r ∈ db.restrictions, ∃ c ∈ db.scopeControl, c.scope = r.scope
  pending : ∀ c ∈ db.scopeControl, c.pendingCutover =
    minTicket (fun r => decide (r.scope = c.scope) && r.state.open?) db.restrictions
  effective : ∀ c ∈ db.scopeControl, c.effectiveCutover =
    minTicket (fun r => decide (r.scope = c.scope) && everConcluded states r.operationId) db.restrictions
  /-- The databases before hold no other restrictions, and this one is the last of them. -/
  past : ∀ s ∈ states, ∀ r ∈ s.restrictions, r.operationId ∈ db.restrictions.map RestrictionRequest.operationId
  last : db ∈ states

/-! ## What a call writes -/

/-- What a call does to the restrictions and to their scopes. -/
inductive Move (db db' : Database) : Prop where
  | same (restrictions : db'.restrictions = db.restrictions) (scopeControl : db'.scopeControl = db.scopeControl)
  | begun (r : RestrictionRequest) (state : r.state = .pending)
      (fresh : r.operationId ∉ db.restrictions.map RestrictionRequest.operationId)
      (known : ∃ c ∈ db.scopeControl, c.scope = r.scope) (restrictions : db'.restrictions = db.restrictions ++ [r])
      (scopeControl : db'.scopeControl = updateScope r.scope
        (fun c => { c with pendingCutover := some (least c.pendingCutover r.ticketSequence) }) db.scopeControl)
  | finalised (r : RestrictionRequest) (next : RestrictionState) (mem : r ∈ db.restrictions)
      (restrictions : db'.restrictions = db.restrictions.map fun x =>
        if x.operationId = r.operationId then { x with state := next } else x)
      (scopeControl : db'.scopeControl = updateScope r.scope
        (fun c => { c with
          pendingCutover := nextPending db'.restrictions r.scope
          effectiveCutover := if next.open? then c.effectiveCutover
            else some (least c.effectiveCutover r.ticketSequence) }) db.scopeControl)

theorem beginRestriction_spec {db db' : Database} {session : Session} {t : Int}
    {replayIdentity operationId requestDigest targetState : Option String}
    (h : beginRestriction db session replayIdentity operationId requestDigest targetState = .ok (db', t)) :
    Move db db' := by
  simp only [beginRestriction, requireSerializable, bind_eq_ok, raiseIf_eq_ok, exists_const, orRaise_eq_ok, pure_eq_ok,
    Prod.mk.injEq] at h
  obtain ⟨-, -, -, a, -, -, -, c, hc, -, hfresh, -, rfl, -⟩ := h
  refine .begun _ rfl ?_ ⟨c, List.mem_of_find?_eq_some hc, by simpa using List.find?_some hc⟩ rfl rfl
  intro hmem
  obtain ⟨r, hr, e⟩ := List.mem_map.mp hmem
  exact hfresh ⟨r, hr, .inl e⟩

theorem finalizeRestriction_spec {db db' : Database} {session : Session}
    {operationId requestDigest state : Option String}
    (h : finalizeRestriction db session operationId requestDigest state = .ok db') : Move db db' := by
  simp only [finalizeRestriction, requireSerializable, bind_eq_ok, raiseIf_eq_ok, exists_const, orRaise_eq_ok, pure_eq_ok] at h
  obtain ⟨-, -, -, r, hr, -, next, hnext, rfl⟩ := h
  refine .finalised r next (List.mem_of_find?_eq_some hr) rfl ?_
  obtain ⟨text, -, hfinal⟩ := Option.bind_eq_some_iff.mp hnext
  have hmem : next ∈ [RestrictionState.effective, .reconciliationRequired, .terminalDenied] :=
    List.mem_of_find?_eq_some hfinal
  simp only [updateScope]
  split
  · rename_i hconcluded
    have hopen : next.open? = false := by rcases hconcluded with rfl | rfl <;> rfl
    rw [List.map_map]
    refine List.map_congr_left fun c _ => ?_
    by_cases hs : c.scope = r.scope <;> simp [hs, hopen]
  · rename_i hconcluded
    have hopen : next.open? = true := by
      simp only [List.mem_cons, List.not_mem_nil, or_false] at hmem
      rcases hmem with rfl | rfl | rfl
      · exact absurd (.inl rfl) hconcluded
      · rfl
      · exact absurd (.inr rfl) hconcluded
    simp [hopen]

theorem step_move (db : Database) (call : ProcedureCall) : Move db (step db call) := by
  rw [step]
  cases h : call.perform db with
  | error e => exact .same rfl rfl
  | ok db' =>
    cases call with
    | beginRestriction session replayIdentity operationId requestDigest targetState =>
      obtain ⟨⟨x, t⟩, hx, rfl⟩ := map_eq_ok.mp h
      exact beginRestriction_spec hx
    | finalizeRestriction session operationId requestDigest state => exact finalizeRestriction_spec h
    | others policy attestations =>
      cases h
      exact .same rfl rfl

/-! ## Every call keeps the summaries -/

theorem mem_updateScope {scope : String} {f : ScopeControl → ScopeControl} {rows : List ScopeControl}
    {c : ScopeControl} : c ∈ updateScope scope f rows ↔ ∃ x ∈ rows, (if x.scope = scope then f x else x) = c :=
  List.mem_map

theorem scopes_updateScope {scope : String} {f : ScopeControl → ScopeControl} (hf : ∀ c, (f c).scope = c.scope)
    (rows : List ScopeControl) :
    (updateScope scope f rows).map ScopeControl.scope = rows.map ScopeControl.scope := by
  rw [updateScope, List.map_map]
  refine List.map_congr_left fun c _ => ?_
  simp only [Function.comp_apply]
  split
  · exact hf c
  · rfl

theorem Summarised.everConcluded_of_mem {states : List Database} {db : Database} (hs : Summarised states db)
    {r : RestrictionRequest} (hr : r ∈ db.restrictions) (hc : concluded r = true) :
    everConcluded states r.operationId = true := by
  simp only [everConcluded, List.any_eq_true, Bool.and_eq_true, decide_eq_true_eq]
  exact ⟨db, hs.last, r, hr, rfl, hc⟩

/-- A restriction that is begun was never concluded. -/
theorem Summarised.not_everConcluded {states : List Database} {db : Database} (hs : Summarised states db)
    {operationId : String} (h : operationId ∉ db.restrictions.map RestrictionRequest.operationId) :
    everConcluded states operationId = false := by
  rw [Bool.eq_false_iff]
  simp only [ne_eq, everConcluded, List.any_eq_true, Bool.and_eq_true, decide_eq_true_eq, not_exists, not_and]
  rintro s hmem r hr rfl
  exact absurd (hs.past s hmem r hr) h

theorem Summarised.same {states : List Database} {db db' : Database} (hs : Summarised states db)
    (hr : db'.restrictions = db.restrictions) (hc : db'.scopeControl = db.scopeControl) :
    Summarised (states ++ [db']) db' := by
  have hever : ∀ operationId, everConcluded (states ++ [db']) operationId = everConcluded states operationId := by
    intro operationId
    rw [everConcluded_append, Bool.or_eq_left_iff_imp]
    simp only [everConcluded, List.any_cons, List.any_nil, Bool.or_false, hr]
    intro h
    obtain ⟨r, hmem, hcond⟩ := List.any_eq_true.mp h
    exact List.any_eq_true.mpr ⟨db, hs.last, List.any_eq_true.mpr ⟨r, hmem, hcond⟩⟩
  refine ⟨hc ▸ hs.scopes, hr ▸ hs.operations, by rw [hr, hc]; exact hs.known, by rw [hr, hc]; exact hs.pending, ?_, ?_,
    by simp⟩
  · rw [hr, hc]
    simp only [hever]
    exact hs.effective
  · rw [hr]
    intro s hmem r hr'
    rcases List.mem_append.mp hmem with hmem | hmem
    · exact hs.past s hmem r hr'
    · rw [List.mem_singleton.mp hmem, hr] at hr'
      exact List.mem_map_of_mem hr'

theorem Summarised.begun {states : List Database} {db db' : Database} (hs : Summarised states db)
    {r : RestrictionRequest} (hstate : r.state = .pending)
    (hfresh : r.operationId ∉ db.restrictions.map RestrictionRequest.operationId)
    (hknown : ∃ c ∈ db.scopeControl, c.scope = r.scope) (hr : db'.restrictions = db.restrictions ++ [r])
    (hc : db'.scopeControl = updateScope r.scope
      (fun c => { c with pendingCutover := some (least c.pendingCutover r.ticketSequence) }) db.scopeControl) :
    Summarised (states ++ [db']) db' := by
  have hever : ∀ operationId, everConcluded (states ++ [db']) operationId = everConcluded states operationId := by
    intro operationId
    rw [everConcluded_append, Bool.or_eq_left_iff_imp]
    simp only [everConcluded, List.any_cons, List.any_nil, Bool.or_false, hr, List.any_append, concluded, hstate,
      RestrictionState.open?, Bool.not_true, Bool.and_false]
    intro h
    obtain ⟨x, hmem, hcond⟩ := List.any_eq_true.mp h
    exact List.any_eq_true.mpr ⟨db, hs.last, List.any_eq_true.mpr ⟨x, hmem, hcond⟩⟩
  have hscope : ∀ c ∈ db'.scopeControl, ∃ x ∈ db.scopeControl, x.scope = c.scope ∧
      x.effectiveCutover = c.effectiveCutover ∧ c.pendingCutover =
        if c.scope = r.scope then some (least x.pendingCutover r.ticketSequence) else x.pendingCutover := by
    intro c hmem
    rw [hc] at hmem
    obtain ⟨x, hx, rfl⟩ := mem_updateScope.mp hmem
    refine ⟨x, hx, ?_⟩
    by_cases h : x.scope = r.scope <;> simp [h]
  have hkeys : db'.scopeControl.map ScopeControl.scope = db.scopeControl.map ScopeControl.scope := by
    rw [hc]
    refine scopes_updateScope ?_ _
    intro c
    rfl
  refine ⟨hkeys ▸ hs.scopes, ?_, ?_, ?_, ?_, ?_, by simp⟩
  · rw [hr, List.map_append, List.nodup_append]
    refine ⟨hs.operations, by simp, fun a ha b hb => ?_⟩
    rw [List.map_singleton, List.mem_singleton] at hb
    rw [hb]
    rintro rfl
    exact hfresh ha
  · intro x hx
    have hfrom : ∃ c ∈ db.scopeControl, c.scope = x.scope := by
      rw [hr] at hx
      rcases List.mem_append.mp hx with hx | hx
      · exact hs.known x hx
      · rw [List.mem_singleton.mp hx]
        exact hknown
    exact List.mem_map.mp (hkeys ▸ List.mem_map.mpr hfrom)
  · intro c hmem
    obtain ⟨x, hx, hscope, -, hpending⟩ := hscope c hmem
    rw [hpending, hs.pending x hx, hscope, hr]
    split
    · rename_i heq
      refine (least_minTicket fun t => ?_).symm
      simp only [List.mem_append, List.mem_singleton, or_and_right, exists_or, exists_eq_left]
      refine or_congr_right ?_
      simp [heq, hstate, RestrictionState.open?, eq_comm (a := t)]
    · rename_i hne
      refine minTicket_congr fun t => ?_
      have hne' : r.scope ≠ c.scope := fun e => hne e.symm
      simp [or_and_right, exists_or, hne']
  · intro c hmem
    obtain ⟨x, hx, hscope, heffective, -⟩ := hscope c hmem
    rw [← heffective, hs.effective x hx, hscope, hr]
    refine minTicket_congr fun t => ?_
    simp [or_and_right, exists_or, hever, hs.not_everConcluded hfresh]
  · intro s hmem x hx
    rw [hr, List.map_append]
    rcases List.mem_append.mp hmem with hmem | hmem
    · exact List.mem_append_left _ (hs.past s hmem x hx)
    · rw [List.mem_singleton.mp hmem, hr] at hx
      rw [← List.map_append]
      exact List.mem_map_of_mem hx

/-- A restriction is the only one of its operation. -/
theorem Summarised.eq_of_operationId {states : List Database} {db : Database} (hs : Summarised states db)
    {r x : RestrictionRequest} (hr : r ∈ db.restrictions) (hx : x ∈ db.restrictions)
    (h : x.operationId = r.operationId) : x = r :=
  List.inj_on_of_nodup_map hs.operations hx hr h

theorem Summarised.finalised {states : List Database} {db db' : Database} (hs : Summarised states db)
    {r : RestrictionRequest} {next : RestrictionState} (hmem : r ∈ db.restrictions)
    (hr : db'.restrictions = db.restrictions.map fun x =>
      if x.operationId = r.operationId then { x with state := next } else x)
    (hc : db'.scopeControl = updateScope r.scope
      (fun c => { c with
        pendingCutover := nextPending db'.restrictions r.scope
        effectiveCutover := if next.open? then c.effectiveCutover
          else some (least c.effectiveCutover r.ticketSequence) }) db.scopeControl) :
    Summarised (states ++ [db']) db' := by
  have hrows : ∀ x ∈ db.restrictions, (if x.operationId = r.operationId then { x with state := next } else x) =
      if x = r then { r with state := next } else x := by
    intro x hx
    by_cases h : x.operationId = r.operationId
    · rw [if_pos h, if_pos (hs.eq_of_operationId hmem hx h), hs.eq_of_operationId hmem hx h]
    · rw [if_neg h, if_neg fun e : x = r => h (e ▸ rfl)]
  have hoperations : db'.restrictions.map RestrictionRequest.operationId =
      db.restrictions.map RestrictionRequest.operationId := by
    rw [hr, List.map_map]
    refine List.map_congr_left fun x _ => ?_
    simp only [Function.comp_apply]
    split <;> rfl
  have hkeys : db'.scopeControl.map ScopeControl.scope = db.scopeControl.map ScopeControl.scope := by
    rw [hc]
    refine scopes_updateScope ?_ _
    intro c
    rfl
  have hmem' : ∀ y, y ∈ db'.restrictions ↔ (y = { r with state := next }) ∨ (y ∈ db.restrictions ∧ y ≠ r) := by
    intro y
    rw [hr, List.map_congr_left hrows]
    simp only [List.mem_map]
    constructor
    · rintro ⟨x, hx, rfl⟩
      by_cases h : x = r
      · exact .inl (if_pos h)
      · rw [if_neg h]
        exact .inr ⟨hx, h⟩
    · rintro (rfl | ⟨hy, hne⟩)
      · exact ⟨r, hmem, if_pos rfl⟩
      · exact ⟨y, hy, if_neg hne⟩
  -- the row that is written concludes its operation exactly when its new state is final
  have hever : ∀ operationId, everConcluded (states ++ [db']) operationId =
      (everConcluded states operationId || (decide (operationId = r.operationId) && !next.open?)) := by
    intro operationId
    rw [everConcluded_append, Bool.eq_iff_iff]
    simp only [Bool.or_eq_true, Bool.and_eq_true, decide_eq_true_eq]
    constructor
    · rintro (h | h)
      · exact .inl h
      · simp only [everConcluded, List.any_eq_true, List.mem_singleton, exists_eq_left, Bool.and_eq_true,
          decide_eq_true_eq] at h
        obtain ⟨y, hy, rfl, hcon⟩ := h
        rcases (hmem' y).mp hy with rfl | ⟨hy, -⟩
        · exact .inr ⟨rfl, hcon⟩
        · exact .inl (hs.everConcluded_of_mem hy hcon)
    · rintro (h | ⟨rfl, h⟩)
      · exact .inl h
      · refine .inr ?_
        simp only [everConcluded, List.any_eq_true, List.mem_singleton, exists_eq_left, Bool.and_eq_true,
          decide_eq_true_eq]
        exact ⟨_, (hmem' _).mpr (.inl rfl), rfl, h⟩
  refine ⟨hkeys ▸ hs.scopes, hoperations ▸ hs.operations, ?_, ?_, ?_, ?_, by simp⟩
  · intro x hx
    have hfrom : ∃ c ∈ db.scopeControl, c.scope = x.scope := by
      rcases (hmem' x).mp hx with rfl | ⟨hx, -⟩
      · exact hs.known r hmem
      · exact hs.known x hx
    exact List.mem_map.mp (hkeys ▸ List.mem_map.mpr hfrom)
  · intro c hcm
    rw [hc] at hcm
    obtain ⟨x, hx, rfl⟩ := mem_updateScope.mp hcm
    by_cases h : x.scope = r.scope
    · rw [if_pos h]
      simp only [h]
      rfl
    · rw [if_neg h, hs.pending x hx]
      have hne : r.scope ≠ x.scope := fun e => h e.symm
      refine minTicket_congr fun t => exists_congr fun y => ?_
      rw [hmem']
      simp only [Bool.and_eq_true, decide_eq_true_eq]
      constructor
      · rintro ⟨hy, ⟨hscope, hopen⟩, ht⟩
        exact ⟨.inr ⟨hy, fun e => hne (e ▸ hscope)⟩, ⟨hscope, hopen⟩, ht⟩
      · rintro ⟨rfl | ⟨hy, -⟩, ⟨hscope, hopen⟩, ht⟩
        · exact absurd hscope hne
        · exact ⟨hy, ⟨hscope, hopen⟩, ht⟩
  · intro c hcm
    rw [hc] at hcm
    obtain ⟨x, hx, rfl⟩ := mem_updateScope.mp hcm
    have htickets : ∀ t, (∃ y ∈ db'.restrictions, (decide (y.scope = x.scope) &&
          everConcluded (states ++ [db']) y.operationId) = true ∧ y.ticketSequence = t) ↔
        (∃ y ∈ db.restrictions, (decide (y.scope = x.scope) && everConcluded states y.operationId) = true ∧
          y.ticketSequence = t) ∨ (r.scope = x.scope ∧ next.open? = false) ∧ t = r.ticketSequence := by
      intro t
      simp only [hever, hmem', Bool.and_eq_true, Bool.or_eq_true, decide_eq_true_eq, Bool.not_eq_true']
      constructor
      · rintro ⟨y, rfl | ⟨hy, hne⟩, ⟨hscope, hcon⟩, rfl⟩
        · rcases hcon with hcon | ⟨-, hcon⟩
          · exact .inl ⟨r, hmem, ⟨hscope, hcon⟩, rfl⟩
          · exact .inr ⟨⟨hscope, hcon⟩, rfl⟩
        · rcases hcon with hcon | ⟨hop, -⟩
          · exact .inl ⟨y, hy, ⟨hscope, hcon⟩, rfl⟩
          · exact absurd (hs.eq_of_operationId hmem hy hop) hne
      · rintro (⟨y, hy, ⟨hscope, hcon⟩, rfl⟩ | ⟨⟨hscope, hnext⟩, rfl⟩)
        · by_cases h : y = r
          · subst h
            exact ⟨_, .inl rfl, ⟨hscope, .inl hcon⟩, rfl⟩
          · exact ⟨y, .inr ⟨hy, h⟩, ⟨hscope, .inl hcon⟩, rfl⟩
        · exact ⟨_, .inl rfl, ⟨hscope, .inr ⟨rfl, hnext⟩⟩, rfl⟩
    by_cases h : x.scope = r.scope
    · rw [if_pos h]
      dsimp only
      rw [hs.effective x hx]
      cases hnext : next.open? with
      | true =>
        refine minTicket_congr fun t => ?_
        rw [htickets t]
        simp [hnext]
      | false =>
        refine (least_minTicket fun t => ?_).symm
        rw [htickets t]
        simp [hnext, h]
    · rw [if_neg h, hs.effective x hx]
      refine minTicket_congr fun t => ?_
      have hne : r.scope ≠ x.scope := fun e => h e.symm
      rw [htickets t]
      simp [hne]
  · intro s hsm x hx
    rw [hoperations]
    rcases List.mem_append.mp hsm with hsm | hsm
    · exact hs.past s hsm x hx
    · rw [List.mem_singleton.mp hsm] at hx
      exact hoperations ▸ List.mem_map_of_mem hx

theorem summarised_step {states : List Database} {db : Database} (hs : Summarised states db) (call : ProcedureCall) :
    Summarised (states ++ [step db call]) (step db call) := by
  cases step_move db call with
  | same hr hc => exact hs.same hr hc
  | begun r hstate hfresh hknown hr hc => exact hs.begun hstate hfresh hknown hr hc
  | finalised r next hmem hr hc => exact hs.finalised hmem hr hc

/-! ## Sequences of calls -/

/-- A restriction stays, with its scope and its ticket. -/
def Kept (db db' : Database) : Prop :=
  ∀ r ∈ db.restrictions, ∃ r' ∈ db'.restrictions,
    r'.operationId = r.operationId ∧ r'.scope = r.scope ∧ r'.ticketSequence = r.ticketSequence

theorem kept_step (db : Database) (call : ProcedureCall) : Kept db (step db call) := by
  intro r hr
  cases step_move db call with
  | same hrows hc => exact ⟨r, hrows ▸ hr, rfl, rfl, rfl⟩
  | begun x hstate hfresh hknown hrows hc =>
    exact ⟨r, hrows ▸ List.mem_append_left _ hr, rfl, rfl, rfl⟩
  | finalised x next hmem hrows hc =>
    rw [hrows]
    refine ⟨_, List.mem_map_of_mem hr, ?_⟩
    split <;> exact ⟨rfl, rfl, rfl⟩

theorem kept_after (db : Database) (calls : List ProcedureCall) : Kept db (after db calls) := by
  induction calls generalizing db with
  | nil => exact fun r hr => ⟨r, hr, rfl, rfl, rfl⟩
  | cons call calls ih =>
    intro r hr
    obtain ⟨x, hx, hop, hscope, hticket⟩ := kept_step db call r hr
    obtain ⟨y, hy, hop', hscope', hticket'⟩ := ih (step db call) x hx
    exact ⟨y, hy, hop'.trans hop, hscope'.trans hscope, hticket'.trans hticket⟩

theorem visited_append (db : Database) (calls later : List ProcedureCall) :
    visited db (calls ++ later) = visited db calls ++ (visited (after db calls) later).tail := by
  induction calls generalizing db with
  | nil => cases later <;> rfl
  | cons call calls ih =>
    rw [List.cons_append, visited, visited, ih (step db call)]
    rfl

theorem summarised_run {states : List Database} {db : Database} (hs : Summarised states db)
    (calls : List ProcedureCall) : Summarised (states ++ (visited db calls).tail) (after db calls) := by
  induction calls generalizing states db with
  | nil => simpa [visited, after] using hs
  | cons call calls ih =>
    have hrun := ih (summarised_step hs call)
    rw [List.append_assoc] at hrun
    cases calls <;> exact hrun

/-- The tables as they are installed: no restriction, and no cut-over of a scope. -/
structure Fresh (db : Database) : Prop where
  scopes : (db.scopeControl.map ScopeControl.scope).Nodup
  restrictions : db.restrictions = []
  pending : ∀ c ∈ db.scopeControl, c.pendingCutover = none
  effective : ∀ c ∈ db.scopeControl, c.effectiveCutover = none

theorem Fresh.summarised {db : Database} (h : Fresh db) (calls : List ProcedureCall) :
    Summarised (visited db calls) (after db calls) := by
  have hs : Summarised [db] db := by
    refine ⟨h.scopes, by simp [h.restrictions], by simp [h.restrictions], ?_, ?_, by simp [h.restrictions],
      by simp⟩
    · intro c hc
      rw [h.pending c hc, h.restrictions]
      rfl
    · intro c hc
      rw [h.effective c hc, h.restrictions]
      rfl
  have hrun := summarised_run hs calls
  cases calls <;> exact hrun

/-- The least of the two cut-overs of a scope. -/
def coveringCutover (c : ScopeControl) : Option Int :=
  (c.pendingCutover.toList ++ c.effectiveCutover.toList).min?

theorem coveringCutover_le {c : ScopeControl} {t : Int}
    (h : t ∈ c.pendingCutover ∨ t ∈ c.effectiveCutover) : ∃ m, coveringCutover c = some m ∧ m ≤ t := by
  have hmem : t ∈ c.pendingCutover.toList ++ c.effectiveCutover.toList := by simpa using h
  cases hm : coveringCutover c with
  | none => rw [List.min?_eq_none_iff.mp hm] at hmem; cases hmem
  | some m => exact ⟨m, rfl, (List.min?_eq_some_iff.mp hm).2 t hmem⟩

theorem exists_minTicket_le {p : RestrictionRequest → Bool} {rows : List RestrictionRequest} {r : RestrictionRequest}
    (hr : r ∈ rows) (hp : p r = true) : ∃ m, minTicket p rows = some m ∧ m ≤ r.ticketSequence := by
  cases hm : minTicket p rows with
  | none => rw [minTicket_eq_none.mp hm r hr] at hp; cases hp
  | some m => exact ⟨m, rfl, (minTicket_eq_some.mp hm).2 r hr hp⟩

theorem Summarised.covered {states : List Database} {db : Database} (hs : Summarised states db)
    {r : RestrictionRequest} (hr : r ∈ db.restrictions) {c : ScopeControl} (hc : c ∈ db.scopeControl)
    (hscope : c.scope = r.scope) : ∃ m, coveringCutover c = some m ∧ m ≤ r.ticketSequence := by
  cases hopen : r.state.open? with
  | true =>
    obtain ⟨t, ht, hle⟩ := exists_minTicket_le
      (p := fun x => decide (x.scope = c.scope) && x.state.open?) hr (by simp [hscope, hopen])
    obtain ⟨m, hm, hmt⟩ := coveringCutover_le (c := c) (.inl ((hs.pending c hc).trans ht))
    exact ⟨m, hm, hmt.trans hle⟩
  | false =>
    have hcon : everConcluded states r.operationId = true := hs.everConcluded_of_mem hr (by simp [concluded, hopen])
    obtain ⟨t, ht, hle⟩ := exists_minTicket_le
      (p := fun x => decide (x.scope = c.scope) && everConcluded states x.operationId) hr (by simp [hscope, hcon])
    obtain ⟨m, hm, hmt⟩ := coveringCutover_le (c := c) (.inr ((hs.effective c hc).trans ht))
    exact ⟨m, hm, hmt.trans hle⟩

/-- From the tables as they are installed, after every sequence of calls: the pending
cut-over of a scope is the least ticket of its open restrictions, the effective one the
least ticket of those that were ever concluded, later calls never raise the effective
cut-over, and the least of the two covers a restriction at every later time. -/
theorem restriction_summaries (db : Database) (h : Fresh db) (calls : List ProcedureCall) :
    (∀ c ∈ (after db calls).scopeControl,
      c.pendingCutover = minTicket (fun r => decide (r.scope = c.scope) && r.state.open?) (after db calls).restrictions ∧
      c.effectiveCutover = minTicket
        (fun r => decide (r.scope = c.scope) && everConcluded (visited db calls) r.operationId)
        (after db calls).restrictions) ∧
    ∀ later,
      (∀ c ∈ (after db calls).scopeControl, ∀ c' ∈ (after db (calls ++ later)).scopeControl, c'.scope = c.scope →
        ∀ t, c.effectiveCutover = some t → ∃ t', c'.effectiveCutover = some t' ∧ t' ≤ t) ∧
      ∀ r ∈ (after db calls).restrictions, ∃ c ∈ (after db (calls ++ later)).scopeControl,
        c.scope = r.scope ∧ ∃ m, coveringCutover c = some m ∧ m ≤ r.ticketSequence := by
  have hs := h.summarised calls
  refine ⟨fun c hc => ⟨hs.pending c hc, hs.effective c hc⟩, fun later => ?_⟩
  have hs' := h.summarised (calls ++ later)
  have hkept : Kept (after db calls) (after db (calls ++ later)) := by
    rw [after, after, List.foldl_append]
    exact kept_after _ later
  refine ⟨?_, ?_⟩
  · intro c hc c' hc' hscope t ht
    rw [hs.effective c hc] at ht
    obtain ⟨⟨r, hr, hcond, rfl⟩, -⟩ := minTicket_eq_some.mp ht
    simp only [Bool.and_eq_true, decide_eq_true_eq] at hcond
    obtain ⟨x, hx, hop, hxscope, hticket⟩ := hkept r hr
    have hever : everConcluded (visited db (calls ++ later)) x.operationId = true := by
      rw [visited_append, everConcluded_append, hop, hcond.2, Bool.true_or]
    rw [hs'.effective c' hc', ← hticket]
    exact exists_minTicket_le hx (by simp [hever, hxscope, hcond.1, hscope])
  · intro r hr
    obtain ⟨x, hx, -, hscope, hticket⟩ := hkept r hr
    obtain ⟨c, hc, hcs⟩ := hs'.known x hx
    rw [← hticket, ← hscope]
    exact ⟨c, hc, hcs, hs'.covered hx hc hcs⟩

namespace Sample

def attestation (operationId : String) (ticket : Int) (observed : Option Int) : G00Attestation :=
  { replayIdentity := "replay-" ++ operationId, issuerIdentity := "issuer", deploymentIdentity := "deployment",
    recipient := "publisher", operationId := operationId, requestDigest := "digest", requestType := "RESTRICTION",
    scope := "ACCOUNT", generation := 1, issuerEpoch := 1, ticketSequence := ticket,
    observedCutoverSequence := observed, policyVersion := 1, validUntil := 100, consumed := false }

def db : Database :=
  { scopeControl := [⟨"ACCOUNT", 1, 1, 9, none, none⟩]
    policy := some ⟨1, "issuer", "deployment", "publisher", 1, 1, false⟩
    attestations := [attestation "first" 7 none, attestation "second" 4 none]
    restrictions := []
    auditEvents := [] }

def session : Session := ⟨"publisher", true, true, true, 50⟩

/-- Two restrictions are begun; one takes effect, and the other needs reconciliation. -/
def calls : List ProcedureCall :=
  [.beginRestriction session (some "replay-first") (some "first") (some "digest") (some "PENDING"),
   .beginRestriction session (some "replay-second") (some "second") (some "digest") (some "PENDING"),
   .finalizeRestriction session (some "first") (some "digest") (some "EFFECTIVE"),
   .finalizeRestriction session (some "second") (some "digest") (some "RECONCILIATION_REQUIRED")]

end Sample

theorem restriction_summaries_sample :
    (after Sample.db Sample.calls).scopeControl = [⟨"ACCOUNT", 1, 1, 9, some 4, some 7⟩] ∧
      ∀ c ∈ (after Sample.db Sample.calls).scopeControl,
        c.pendingCutover = minTicket (fun r => decide (r.scope = c.scope) && r.state.open?)
          (after Sample.db Sample.calls).restrictions ∧
        c.effectiveCutover = minTicket
          (fun r => decide (r.scope = c.scope) && everConcluded (visited Sample.db Sample.calls) r.operationId)
          (after Sample.db Sample.calls).restrictions := by
  have hfresh : Fresh Sample.db :=
    ⟨by decide, rfl, by simp [Sample.db], by simp [Sample.db]⟩
  exact ⟨by decide, (restriction_summaries Sample.db hfresh Sample.calls).1⟩

end ATB.Proof.CommitBoundary
