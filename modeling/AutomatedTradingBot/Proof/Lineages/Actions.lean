import AutomatedTradingBot.Framework.SortedSet
import AutomatedTradingBot.Proof.Datasets.Dependencies
import AutomatedTradingBot.Source.CorporateActions

/-!
# Lineages of corporate actions

* `validateActionLineage_eq_ok`: what the check accepts, of the versions once each;
* `single_chain`: accepted versions that were created are one chain from the original;
* `versionMapping_inj`: the body of a version tells its facts and its authorities;
* `validateActionLineage_congr`: the check depends on what it reads of the versions, and
  versions with one identity agree in that when their digests do not collide.
-/

namespace ATB.Proof.Lineages

open Lineage CorporateActions Json
open Instruments (textOrNull timeText)

variable {py : Platform}

/-- A version is known after another. -/
def KnownAfter (v x : CorporateActionVersion py) : Prop :=
  ∃ k k', v.knowledgeFrom = some k ∧ x.knowledgeFrom = some k' ∧ k'.value < k.value

theorem checkKnowledge_eq_ok {v x : CorporateActionVersion py} {u : Unit} :
    checkKnowledge v x = .ok u ↔ KnownAfter v x := by
  unfold checkKnowledge KnownAfter
  cases v.knowledgeFrom with
  | none => simp
  | some k =>
    cases x.knowledgeFrom with
    | none => simp
    | some k' => simp [Datetime.not_le]

/-! ## The versions once each -/

/-- The versions by their identities, without these. -/
def known (values : List (CorporateActionVersion py)) : List (CorporateActionVersion py) := Dict.values (byId values)

/-- The dictionary while it is filled. -/
structure Filled (done : List (CorporateActionVersion py))
    (d : List (ActionVersionId × CorporateActionVersion py)) : Prop where
  nodup : (Dict.keys d).Nodup
  keyed : Dict.Keyed (·.actionVersionId) d
  mem : ∀ v ∈ Dict.values d, v ∈ done
  all : ∀ v ∈ done, v.actionVersionId ∈ Dict.keys d

theorem filled_byId (values : List (CorporateActionVersion py)) : Filled values (byId values) := by
  suffices h : ∀ done d, Filled done d → Filled (done ++ values) (values.foldl (fun known v =>
      if Dict.get? v.actionVersionId known = none then Dict.set v.actionVersionId v known else known) d) from
    h [] [] ⟨List.nodup_nil, by simp [Dict.Keyed], by simp [Dict.values], by simp⟩
  induction values with
  | nil => simp
  | cons v values ih =>
    intro done d hd
    have happend : done ++ v :: values = done ++ [v] ++ values := by simp
    rw [List.foldl_cons, happend]
    refine ih _ _ ?_
    by_cases hfresh : Dict.get? v.actionVersionId d = none
    · rw [if_pos hfresh, Dict.set_eq_append hfresh]
      have hkey := Dict.get?_eq_none.mp hfresh
      constructor
      · rw [← Dict.set_eq_append hfresh]
        exact Dict.nodup_keys_set hd.nodup _ _
      · rw [← Dict.set_eq_append hfresh]
        exact Dict.keyed_set hd.keyed rfl
      · intro x hx
        simp only [Dict.values, List.map_append, List.map_cons, List.map_nil, List.mem_append, List.mem_singleton] at hx ⊢
        exact hx.imp_left (hd.mem x)
      · intro x hx
        simp only [Dict.keys, List.map_append, List.map_cons, List.map_nil, List.mem_append, List.mem_singleton] at hx ⊢
        rcases hx with hx | rfl
        · exact Or.inl (hd.all x hx)
        · exact Or.inr rfl
    · rw [if_neg hfresh]
      refine ⟨hd.nodup, hd.keyed, fun x hx => List.mem_append_left _ (hd.mem x hx), fun x hx => ?_⟩
      rcases List.mem_append.mp hx with hx | hx
      · exact hd.all x hx
      · rw [List.mem_singleton.mp hx]
        exact Classical.not_not.mp fun h => hfresh (Dict.get?_eq_none.mpr h)

section Known

variable (values : List (CorporateActionVersion py))

theorem known_nodup : ((known values).map (·.actionVersionId)).Nodup := by
  rw [known, Dict.map_values_of_keyed (filled_byId values).keyed]
  exact (filled_byId values).nodup

theorem byId_eq : byId values = Dict.ofKeys (·.actionVersionId) (known values) := by
  rw [Dict.ofKeys_of_nodup (known_nodup values), known, Dict.values, List.map_map]
  refine (List.map_id _).symm.trans (List.map_congr_left fun p hp => ?_)
  exact Prod.ext ((filled_byId values).keyed p hp).symm rfl

theorem mem_of_mem_known {v : CorporateActionVersion py} (h : v ∈ known values) : v ∈ values :=
  (filled_byId values).mem v h

theorem exists_known {v : CorporateActionVersion py} (h : v ∈ values) :
    ∃ x ∈ known values, x.actionVersionId = v.actionVersionId := by
  have hkey := (filled_byId values).all v h
  rw [← Dict.map_values_of_keyed (filled_byId values).keyed] at hkey
  exact List.mem_map.mp hkey

end Known

/-! ## The check -/

/-- The loop over the versions, of distinct identities. -/
theorem checkSuccessors_eq_ok {d : List (ActionVersionId × CorporateActionVersion py)}
    {successors : List (ActionVersionId × ActionVersionId)} {vs : List (CorporateActionVersion py)} {u : Unit}
    (hn : (vs.map (·.actionVersionId)).Nodup)
    (hfresh : ∀ p s, Dict.get? p successors = some s → s ∉ vs.map (·.actionVersionId)) :
    checkSuccessors d successors vs = .ok u ↔
      (∀ v ∈ vs, ∀ p, v.predecessorVersionId = some p → ∃ x, Dict.get? p d = some x ∧ KnownAfter v x) ∧
      (vs.filterMap (·.predecessorVersionId)).Nodup ∧
      ∀ p ∈ vs.filterMap (·.predecessorVersionId), Dict.get? p successors = none := by
  induction vs generalizing successors with
  | nil => simp [checkSuccessors]
  | cons v vs ih =>
    obtain ⟨hv, hn⟩ := List.nodup_cons.mp hn
    rw [checkSuccessors]
    cases hp : v.predecessorVersionId with
    | none =>
      rw [ih hn fun p s h hs => hfresh p s h (List.mem_cons_of_mem _ hs)]
      simp [hp]
    | some p =>
      have hother : (Dict.get? p successors).any (fun s => decide (s ≠ v.actionVersionId)) = true ↔
          Dict.get? p successors ≠ none := by
        cases hs : Dict.get? p successors with
        | none => simp
        | some s =>
          have hne : s ≠ v.actionVersionId := fun e => hfresh p s hs (by simp [e])
          simp [hne]
      have hset : ∀ q s, Dict.get? q (Dict.set p v.actionVersionId successors) = some s → s ∉ vs.map (·.actionVersionId) := by
        intro q s h
        rw [Dict.get?_set] at h
        split at h
        · obtain rfl := Option.some.inj h
          exact hv
        · exact fun hs => hfresh q s h (List.mem_cons_of_mem _ hs)
      simp only [bind_eq_ok, orRaise_eq_ok, raiseIf_eq_ok, exists_const, checkKnowledge_eq_ok, hother, not_not,
        ih hn hset, List.filterMap_cons_some hp, List.nodup_cons, List.mem_cons, forall_eq_or_imp, hp, Option.some.injEq,
        forall_eq', Dict.get?_set]
      constructor
      · rintro ⟨x, hx, hfree, hafter, hall, hnodup, hsep⟩
        have hnot : p ∉ vs.filterMap (·.predecessorVersionId) := fun hmem => by simpa using hsep p hmem
        refine ⟨⟨⟨x, hx, hafter⟩, hall⟩, ⟨hnot, hnodup⟩, hfree, fun q hq => ?_⟩
        have := hsep q hq
        rwa [if_neg fun e : p = q => hnot (e ▸ hq)] at this
      · rintro ⟨⟨⟨x, hx, hafter⟩, hall⟩, ⟨hnot, hnodup⟩, hfree, hsep⟩
        refine ⟨x, hx, hfree, hafter, hall, hnodup, fun q hq => ?_⟩
        rw [if_neg fun e : p = q => hnot (e ▸ hq)]
        exact hsep q hq

/-- Two versions are of one action. -/
def SameAction (v w : CorporateActionVersion py) : Prop :=
  v.canonicalActionId = w.canonicalActionId ∧ v.rootInstrumentId = w.rootInstrumentId ∧ v.family = w.family

/-- What is accepted: one original, and chains of versions of its action, along which
knowledge is established and increases. -/
structure ActionLineage (vs : List (CorporateActionVersion py)) : Prop where
  root : ∃ root ∈ vs, root.operation = .original ∧
    (∀ v ∈ vs, v.operation = .original → v.actionVersionId = root.actionVersionId) ∧ ∀ v ∈ vs, SameAction v root
  after : ∀ v ∈ vs, ∀ p, v.predecessorVersionId = some p → ∃ x ∈ vs, x.actionVersionId = p ∧ KnownAfter v x
  single : ∀ v ∈ vs, ∀ w ∈ vs, ∀ p, v.predecessorVersionId = some p → w.predecessorVersionId = some p →
    v.actionVersionId = w.actionVersionId
  ends : ∀ v ∈ vs, ∃ n ≤ maxActionLineageDepth,
    Ends (parentOf (·.actionVersionId) (·.predecessorVersionId) vs) n v.actionVersionId

theorem soleOriginal_eq_some {vs : List (CorporateActionVersion py)} {root : CorporateActionVersion py}
    (hn : (vs.map (·.actionVersionId)).Nodup) : soleOriginal vs = some root ↔ root ∈ vs ∧ root.operation = .original ∧
      ∀ v ∈ vs, v.operation = .original → v.actionVersionId = root.actionVersionId := by
  have hnodup : (vs.filter fun v => decide (v.operation = .original)).Nodup := (List.Nodup.of_map _ hn).filter _
  have hmem : ∀ v, v ∈ vs.filter (fun v => decide (v.operation = .original)) ↔ v ∈ vs ∧ v.operation = .original := by simp
  rw [soleOriginal]
  constructor
  · intro h
    split at h
    · rename_i w hw
      obtain rfl := Option.some.inj h
      obtain ⟨hin, horiginal⟩ := (hmem _).mp (hw ▸ List.mem_singleton_self _)
      refine ⟨hin, horiginal, fun v hv hop => ?_⟩
      have hv' := (hmem v).mpr ⟨hv, hop⟩
      rw [hw, List.mem_singleton] at hv'
      rw [hv']
    · cases h
  · rintro ⟨hin, horiginal, hall⟩
    have hsole : vs.filter (fun v => decide (v.operation = .original)) = [root] := by
      refine List.perm_singleton.mp ((List.perm_ext_iff_of_nodup hnodup (List.nodup_singleton _)).mpr fun v => ?_)
      rw [hmem, List.mem_singleton]
      constructor
      · rintro ⟨hv, hop⟩
        exact List.inj_on_of_nodup_map hn hv hin (hall v hv hop)
      · rintro rfl
        exact ⟨hin, horiginal⟩
    rw [hsole]

/-- What the check accepts and returns. -/
theorem validateActionLineage_eq_ok {values r : List (CorporateActionVersion py)} :
    validateActionLineage values = .ok r ↔ values ≠ [] ∧ values.length ≤ maxActionLineageVersions ∧
      ActionLineage (known values) ∧
      r = (known values).insertionSort fun a b => a.actionVersionId.value ≤ b.actionVersionId.value := by
  have hn := known_nodup values
  have hfollow : ∀ start, follow (priorOf (byId values)) start maxActionLineageDepth [] start = .ok () ↔
      ∃ n ≤ maxActionLineageDepth,
        Ends (parentOf (·.actionVersionId) (·.predecessorVersionId) (known values)) n start := by
    intro start
    rw [follow_start_eq_ok]
    have hprior : priorOf (byId values) = parentOf (·.actionVersionId) (·.predecessorVersionId) (known values) := by
      funext i
      rw [priorOf, parentOf, ← byId_eq]
    rw [hprior]
  have hkeys : Dict.keys (byId values) = (known values).map (·.actionVersionId) :=
    (Dict.map_values_of_keyed (filled_byId values).keyed).symm
  have hget : ∀ p x, Dict.get? p (byId values) = some x ↔ x ∈ known values ∧ x.actionVersionId = p := fun p x => by
    rw [byId_eq, Dict.get?_ofKeys hn]
  have hpred : (known values |>.filterMap (·.predecessorVersionId)).Nodup ↔ _ := nodup_predecessors hn
  have hnone : ∀ p s, Dict.get? p ([] : List (ActionVersionId × ActionVersionId)) = some s →
      s ∉ (known values).map (·.actionVersionId) := by simp [Dict.get?]
  have known_def : Dict.values (byId values) = known values := rfl
  rw [validateActionLineage]
  simp only [bind_eq_ok, orRaise_eq_ok, raiseIf_eq_ok, exists_const, mapError_eq_ok, forM_eq_ok, hfollow, hkeys,
    List.forall_mem_map, not_lt, pure_eq_ok, known_def, soleOriginal_eq_some hn,
    checkSuccessors_eq_ok (d := byId values) hn hnone, hget, not_exists, not_and, not_or, not_not]
  constructor
  · rintro ⟨hne, hlength, root, ⟨hroot, horiginal, hsole⟩, hsame, ⟨hafter, hnodup, -⟩, hends, rfl⟩
    refine ⟨hne, hlength, ⟨⟨root, hroot, horiginal, hsole, hsame⟩, fun v hv p hp => ?_, fun v hv w hw p hvp hwp => ?_, hends⟩, rfl⟩
    · obtain ⟨x, ⟨hx, hid⟩, hk⟩ := hafter v hv p hp
      exact ⟨x, hx, hid, hk⟩
    · rw [hpred.mp hnodup v hv w hw p hvp hwp]
  · rintro ⟨hne, hlength, h, rfl⟩
    obtain ⟨root, hroot, horiginal, hsole, hsame⟩ := h.root
    refine ⟨hne, hlength, root, ⟨hroot, horiginal, hsole⟩, hsame, ⟨fun v hv p hp => ?_, ?_, by simp [Dict.get?]⟩, h.ends, rfl⟩
    · obtain ⟨x, hx, hid, hk⟩ := h.after v hv p hp
      exact ⟨x, ⟨hx, hid⟩, hk⟩
    · exact hpred.mpr fun v hv w hw p hvp hwp => List.inj_on_of_nodup_map hn hv hw (h.single v hv w hw p hvp hwp)

/-! ## Bodies -/

theorem timeText_injective : Function.Injective timeText := by
  rintro ⟨s⟩ ⟨t⟩ h
  have hs := s.day_le
  have ht := t.day_le
  obtain ⟨⟨-, hy⟩, ⟨-, hm⟩, -, hh, hi, hse, hu⟩ := s.real
  obtain ⟨⟨-, hy'⟩, ⟨-, hm'⟩, -, hh', hi', hse', hu'⟩ := t.real
  have hlen : ∀ {w m n : Nat}, 0 < w → m < 10 ^ w → n < 10 ^ w → (Text.zfill w m).length = (Text.zfill w n).length :=
    fun hw hm hn => (Text.length_zfill hw hm).trans (Text.length_zfill hw hn).symm
  dsimp only [timeText] at h
  have h' := String.ofList_injective h
  obtain ⟨hyear, h'⟩ := List.append_inj h' (hlen (by decide) (by omega) (by omega))
  obtain ⟨hmonth, h'⟩ := List.append_inj (List.cons.inj h').2 (hlen (by decide) (by omega) (by omega))
  obtain ⟨hday, h'⟩ := List.append_inj (List.cons.inj h').2 (hlen (by decide) (by omega) (by omega))
  obtain ⟨hhour, h'⟩ := List.append_inj (List.cons.inj h').2 (hlen (by decide) (by omega) (by omega))
  obtain ⟨hminute, h'⟩ := List.append_inj (List.cons.inj h').2 (hlen (by decide) (by omega) (by omega))
  obtain ⟨hsecond, h'⟩ := List.append_inj (List.cons.inj h').2 (hlen (by decide) (by omega) (by omega))
  obtain ⟨hmicro, -⟩ := List.append_inj (List.cons.inj h').2 (hlen (by decide) (by omega) (by omega))
  have hkey : s.key = t.key := by
    rw [Datetime.key, Datetime.key, Text.zfill_injective hyear, Text.zfill_injective hmonth, Text.zfill_injective hday,
      Text.zfill_injective hhour, Text.zfill_injective hminute, Text.zfill_injective hsecond, Text.zfill_injective hmicro]
  rw [Datetime.key_injective hkey]

theorem textOrNull_map_injective {α : Type} {f : α → String} (hf : Function.Injective f) :
    Function.Injective fun o : Option α => textOrNull (o.map f) := by
  rintro (_ | a) (_ | b) h
  · rfl
  · cases h
  · cases h
  · rw [hf (Json.str.inj h)]

theorem sorted_textOrNull (t : Option String) : Sorted (textOrNull t) := by
  cases t with
  | none => exact sorted_null
  | some t => exact sorted_str t

theorem sorted_mapped {α : Type} {l : List α} {f : α → Json} (h : ∀ a, Sorted (f a)) : Sorted (.arr (l.map f)) :=
  sorted_arr fun j hj => by
    obtain ⟨a, -, rfl⟩ := List.mem_map.mp hj
    exact h a

open Evidence Dependencies in
theorem sorted_slot (s : TemporalRoleSlot) : Sorted s.mapping :=
  sorted_obj (by simp only [List.forall_mem_cons, sorted_textOrNull, sorted_refItems, sorted_str]; simp)

open Evidence Dependencies in
theorem sorted_dependency (d : AffectedDependency) : Sorted d.mapping :=
  sorted_obj (by
    have hids : Sorted (.arr (d.instrumentIds.map fun i => .str i.toString)) := sorted_mapped fun _ => sorted_str _
    simp only [List.forall_mem_cons, sorted_textOrNull, sorted_refItems, sorted_str, sorted_mapping, hids]
    simp)

open Evidence Dependencies in
theorem sorted_declaration (d : AffectedDependencyDeclaration) : Sorted d.mapping :=
  sorted_obj (by
    have hscope : Sorted (d.scopeRef.elim .null Instruments.EvidenceRef.mapping) := by
      cases d.scopeRef with
      | none => exact sorted_null
      | some e => exact sorted_mapping e
    simp only [List.forall_mem_cons, sorted_mapped sorted_dependency, sorted_str, hscope]
    simp)

open Evidence Dependencies in
theorem sorted_provider (r : ProviderNativeActionRef) : Sorted r.mapping :=
  sorted_obj (by simp only [List.forall_mem_cons, sorted_mapping, sorted_str]; simp)

open Evidence Dependencies in
theorem sorted_roles (r : TemporalRoles) : Sorted r.mapping :=
  sorted_obj (by
    simp only [TemporalRoles.values, List.map_cons, List.map_nil, List.forall_mem_cons, sorted_slot]
    simp)

open Evidence Dependencies in
theorem sorted_version (facts : ActionFacts) (refs : List Instruments.EvidenceRef) : Sorted (versionMapping facts refs) :=
  sorted_obj (by
    simp only [List.forall_mem_cons, sorted_mapping, sorted_str, sorted_declaration, sorted_refItems, sorted_textOrNull,
      sorted_mapped sorted_provider, sorted_roles]
    simp)

theorem actionFamily_value_injective : Function.Injective ActionFamily.value := by
  intro a b h
  cases a <;> cases b <;> first | rfl | exact absurd h (by decide)

theorem actionOperation_value_injective : Function.Injective ActionOperation.value := by
  intro a b h
  cases a <;> cases b <;> first | rfl | exact absurd h (by decide)

theorem actionVersionId_value_injective : Function.Injective ActionVersionId.value := by
  rintro ⟨a⟩ ⟨b⟩ rfl
  rfl

theorem instrumentId_toString_injective : Function.Injective InstrumentId.toString := by
  rintro ⟨a⟩ ⟨b⟩ h
  exact congrArg InstrumentId.mk (Uuid.str_injective (String.append_right_inj _ |>.mp h))

theorem temporalRoleState_value_injective : Function.Injective TemporalRoleState.value := by
  intro a b h
  cases a <;> cases b <;> first | rfl | exact absurd h (by decide)

theorem dependencyState_value_injective : Function.Injective DependencyState.value := by
  intro a b h
  cases a <;> cases b <;> first | rfl | exact absurd h (by decide)

theorem dependencyKind_value_injective : Function.Injective DependencyKind.value := by
  intro a b h
  cases a <;> cases b <;> first | rfl | exact absurd h (by decide)

theorem validationState_value_injective : Function.Injective Instruments.ValidationState.value := by
  intro a b h
  cases a <;> cases b <;> first | rfl | exact absurd h (by decide)

open Datasets (refItems) in
theorem slot_mapping_injective : Function.Injective TemporalRoleSlot.mapping := by
  rintro ⟨state, at?, refs, h⟩ ⟨state', at?', refs', h'⟩ hm
  have hv := obj_inj ["at", "evidence_refs", "state"] (by decide)
    [textOrNull (at?.map timeText), refItems refs, .str state.value]
    [textOrNull (at?'.map timeText), refItems refs', .str state'.value] rfl rfl hm
  simp only [List.cons.injEq, Json.str.injEq, and_true] at hv
  obtain ⟨hat, hrefs, hstate⟩ := hv
  cases textOrNull_map_injective timeText_injective hat
  cases Dependencies.refItems_injective hrefs
  cases temporalRoleState_value_injective hstate
  rfl

theorem roles_mapping_injective : Function.Injective TemporalRoles.mapping := by
  rintro ⟨knowledge, announced, effective, ex, record, payable⟩ ⟨knowledge', announced', effective', ex', record', payable'⟩ h
  have hv := obj_inj ["announced_at", "effective_at", "ex_at", "knowledge_from", "payable_at", "record_at"] (by decide)
    ([announced, effective, ex, knowledge, payable, record].map TemporalRoleSlot.mapping)
    ([announced', effective', ex', knowledge', payable', record'].map TemporalRoleSlot.mapping) rfl rfl h
  cases slot_mapping_injective.list_map hv
  rfl

theorem provider_mapping_injective : Function.Injective ProviderNativeActionRef.mapping := by
  rintro ⟨source, dataset, interpretation, event, evidence⟩ ⟨source', dataset', interpretation', event', evidence'⟩ h
  have hv := obj_inj ["dataset_id", "evidence_ref", "interpretation_ref", "native_event_id", "source_id"] (by decide)
    [.str dataset, evidence.mapping, interpretation.mapping, .str event, .str source]
    [.str dataset', evidence'.mapping, interpretation'.mapping, .str event', .str source'] rfl rfl h
  simp only [List.cons.injEq, Json.str.injEq, and_true] at hv
  obtain ⟨rfl, hevidence, hinterpretation, rfl, rfl⟩ := hv
  cases Evidence.mapping_injective hevidence
  cases Evidence.mapping_injective hinterpretation
  rfl

open Datasets (refItems) in
theorem dependency_mapping_injective : Function.Injective AffectedDependency.mapping := by
  rintro ⟨kind, ref, ids, start, stop, reason, refs⟩ ⟨kind', ref', ids', start', stop', reason', refs'⟩ h
  have hv := obj_inj ["dependency_kind", "dependency_ref", "effective_from", "effective_to", "evidence_refs",
      "instrument_ids", "reason"] (by decide)
    [.str kind.value, ref.mapping, textOrNull (start.map timeText), textOrNull (stop.map timeText), refItems refs,
      .arr (ids.map fun i : InstrumentId => .str i.toString), .str reason]
    [.str kind'.value, ref'.mapping, textOrNull (start'.map timeText), textOrNull (stop'.map timeText), refItems refs',
      .arr (ids'.map fun i : InstrumentId => .str i.toString), .str reason'] rfl rfl h
  simp only [List.cons.injEq, Json.str.injEq, Json.arr.injEq, and_true] at hv
  obtain ⟨hkind, href, hstart, hstop, hrefs, hids, rfl⟩ := hv
  have hid : Function.Injective fun i : InstrumentId => Json.str i.toString := fun _ _ e =>
    instrumentId_toString_injective (Json.str.inj e)
  cases dependencyKind_value_injective hkind
  cases Evidence.mapping_injective href
  cases textOrNull_map_injective timeText_injective hstart
  cases textOrNull_map_injective timeText_injective hstop
  cases Dependencies.refItems_injective hrefs
  cases hid.list_map hids
  rfl

theorem declaration_mapping_injective : Function.Injective AffectedDependencyDeclaration.mapping := by
  rintro ⟨state, entries, scope⟩ ⟨state', entries', scope'⟩ h
  have hv := obj_inj ["entries", "scope_ref", "state"] (by decide)
    [.arr (entries.map AffectedDependency.mapping), scope.elim .null Instruments.EvidenceRef.mapping, .str state.value]
    [.arr (entries'.map AffectedDependency.mapping), scope'.elim .null Instruments.EvidenceRef.mapping, .str state'.value]
    rfl rfl h
  simp only [List.cons.injEq, Json.str.injEq, Json.arr.injEq, and_true] at hv
  obtain ⟨hentries, hscope, hstate⟩ := hv
  cases dependency_mapping_injective.list_map hentries
  cases dependencyState_value_injective hstate
  rcases scope with - | e <;> rcases scope' with - | e'
  · rfl
  · cases hscope
  · cases hscope
  · cases Evidence.mapping_injective hscope
    rfl

/-- A body tells all that it is made of. -/
theorem versionMapping_inj {f g : ActionFacts} {refs refs' : List Instruments.EvidenceRef}
    (h : (versionMapping f refs).dumps = (versionMapping g refs').dumps) : f = g ∧ refs = refs' := by
  let vals (f : ActionFacts) (refs : List Instruments.EvidenceRef) : List Json :=
    [f.actionTermsRef.mapping, f.affectedDependencies.mapping, .str f.action.canonicalActionId.value,
      .str f.action.family.value, .str "ATIS_C07_ACTION_VERSION_V1", Datasets.refItems refs,
      textOrNull f.lineageReason, .str f.operation.value, textOrNull (f.predecessorVersionId.map ActionVersionId.value),
      .arr (f.providerNativeRefs.map ProviderNativeActionRef.mapping), f.action.rootIdentityBindingRef.mapping,
      .str f.action.rootInstrumentId.toString, Datasets.refItems f.sourceEvidenceRefs, f.temporalRoles.mapping,
      .str f.validationPolicyId, .str f.validationState.value]
  have hv := obj_inj ["action_terms_ref", "affected_dependencies", "canonical_action_id", "family", "kind",
    "lineage_authority_refs", "lineage_reason", "operation", "predecessor_version_id", "provider_native_refs",
    "root_identity_binding_ref", "root_instrument_id", "source_evidence_refs", "temporal_roles",
    "validation_policy_id", "validation_state"] (by decide) (vals f refs) (vals g refs') rfl rfl
    (dumps_inj (sorted_version f refs) (sorted_version g refs') h)
  simp only [vals, List.cons.injEq, Json.str.injEq, Json.arr.injEq, and_true, true_and] at hv
  obtain ⟨hterms, hdependencies, haction, hfamily, hauthorities, hreason, hoperation, hpredecessor, hproviders, hbinding,
    hinstrument, hsources, hroles, hpolicy, hstate⟩ := hv
  obtain ⟨⟨⟨action⟩, instrument, family, binding⟩, operation, roles, terms, providers, sources, policy, state, dependencies,
    predecessor, reason⟩ := f
  obtain ⟨⟨⟨action'⟩, instrument', family', binding'⟩, operation', roles', terms', providers', sources', policy', state',
    dependencies', predecessor', reason'⟩ := g
  dsimp only at haction hpolicy
  subst haction hpolicy
  cases Evidence.mapping_injective hterms
  cases declaration_mapping_injective hdependencies
  cases actionFamily_value_injective hfamily
  cases textOrNull_map_injective Function.injective_id (by simpa using hreason)
  cases actionOperation_value_injective hoperation
  cases textOrNull_map_injective actionVersionId_value_injective hpredecessor
  cases provider_mapping_injective.list_map hproviders
  cases Evidence.mapping_injective hbinding
  cases instrumentId_toString_injective hinstrument
  cases Dependencies.refItems_injective hsources
  cases roles_mapping_injective hroles
  cases validationState_value_injective hstate
  exact ⟨rfl, Dependencies.refItems_injective hauthorities⟩

/-- What the check reads of a version's facts. -/
def readFacts (f : ActionFacts) :
    Option ActionVersionId × ActionOperation × Option Timestamp × CanonicalActionId × InstrumentId × ActionFamily :=
  (f.predecessorVersionId, f.operation, f.temporalRoles.knowledgeFrom.at?, f.action.canonicalActionId,
    f.action.rootInstrumentId, f.action.family)

/-! ## Created versions -/

/-- The facts that a version keeps. -/
def factsOf (v : CorporateActionVersion py) : ActionFacts :=
  ⟨⟨v.canonicalActionId, v.rootInstrumentId, v.family, v.rootIdentityBindingRef⟩, v.operation, v.temporalRoles,
    v.actionTermsRef, v.providerNativeRefs, v.sourceEvidenceRefs, v.validationPolicyId, v.validationState,
    v.affectedDependencies, v.predecessorVersionId, v.lineageReason⟩

/-- The body of a version, whose digest is its identity. -/
def bodyOf (v : CorporateActionVersion py) : Json :=
  versionMapping (factsOf v) ((authorityRefs py v.lineageAuthorities).toOption.getD [])

/-- A version that `create_action_version` returned. -/
def Created (v : CorporateActionVersion py) : Prop :=
  ∃ facts authorities, createActionVersion py facts authorities = .ok v

theorem Created.spec {v : CorporateActionVersion py} (h : Created v) :
    v.actionVersionId = versionIdOf py (bodyOf v) ∧ (v.predecessorVersionId = none ↔ v.operation = .original) := by
  obtain ⟨given, authorities, h⟩ := h
  simp only [createActionVersion, bind_eq_ok, raiseIf_eq_ok, exists_const, pure_eq_ok] at h
  obtain ⟨facts, -, _, hoperation, _, -, -, refs, hrefs, rfl⟩ := h
  refine ⟨?_, ?_⟩
  · simp only [bodyOf, hrefs, Except.toOption, Option.getD_some]
    rfl
  · unfold checkOperation at hoperation
    split at hoperation
    · rename_i horiginal
      rw [raiseIf_eq_ok] at hoperation
      exact iff_of_true (Classical.not_not.mp fun hne => hoperation (Or.inl hne)) horiginal
    · rename_i hother
      obtain ⟨hpredecessor, -⟩ := raiseIf_bind_eq_ok.mp hoperation
      exact iff_of_false hpredecessor hother

/-- Accepted versions that were created are one chain from the original, along which
knowledge increases. -/
theorem single_chain {values r : List (CorporateActionVersion py)} (hcreated : ∀ v ∈ values, Created v)
    (h : validateActionLineage values = .ok r) : ∃ root c, (root :: c).Perm r ∧
      SimpleChain (·.actionVersionId) (·.predecessorVersionId) (root :: c) ∧
      (root :: c).IsChain (fun older newer => KnownAfter newer older) ∧
      root.operation = .original ∧ (∀ v ∈ c, v.operation ≠ .original) ∧ (∀ v ∈ root :: c, v ∈ values ∧ SameAction v root) ∧
      ∀ v ∈ values, ∃ w ∈ root :: c, w.actionVersionId = v.actionVersionId := by
  obtain ⟨-, -, hlineage, rfl⟩ := validateActionLineage_eq_ok.mp h
  have hn := known_nodup values
  have hsub : ∀ v ∈ known values, Created v := fun v hv => hcreated v (mem_of_mem_known values hv)
  obtain ⟨root, hroot, horiginal, hsole, hsame⟩ := hlineage.root
  have hknown : ∀ v ∈ known values, ∀ p, v.predecessorVersionId = some p → ∃ x ∈ known values, x.actionVersionId = p :=
    fun v hv p hp => by
      obtain ⟨x, hx, hid, -⟩ := hlineage.after v hv p hp
      exact ⟨x, hx, hid⟩
  obtain ⟨hacyclic, hshallow⟩ := (ends_iff hn hknown).mp hlineage.ends
  obtain ⟨chains, hflat, hchains⟩ := (chainForest_iff hn).mp ⟨hknown, fun v hv w hw p hvp hwp =>
    List.inj_on_of_nodup_map hn hv hw (hlineage.single v hv w hw p hvp hwp), hacyclic, hshallow⟩
  have hflatNodup : chains.flatten.Nodup := hflat.nodup_iff.mpr (List.Nodup.of_map _ hn)
  have hmem : ∀ c ∈ chains, ∀ v ∈ c, v ∈ known values := fun c hc v hv =>
    hflat.mem_iff.mp (List.mem_flatten.mpr ⟨c, hc, hv⟩)
  -- the first of a chain is an original, so each chain that has a version has the root first
  have hhead : ∀ c ∈ chains, ∀ v c', c = v :: c' → v = root := fun c hc v c' hcons => by
    have hv := hmem c hc v (hcons ▸ List.mem_cons_self ..)
    have hfirst : v.predecessorVersionId = none := (hchains c hc).1.rooted v (by rw [hcons]; rfl)
    exact List.inj_on_of_nodup_map hn hv hroot (hsole v hv ((hsub v hv).spec.2.mp hfirst))
  obtain ⟨c, hc, hrootc⟩ := List.mem_flatten.mp (hflat.mem_iff.mpr hroot)
  cases c with
  | nil => cases hrootc
  | cons w c =>
    obtain rfl := hhead _ hc w c rfl
    have hperm : (w :: c).Perm (known values) := by
      refine (List.perm_ext_iff_of_nodup ((List.nodup_flatten.mp hflatNodup).1 _ hc) (List.Nodup.of_map _ hn)).mpr
        fun v => ⟨hmem _ hc v, fun hv => ?_⟩
      obtain ⟨c', hc', hvc'⟩ := List.mem_flatten.mp (hflat.mem_iff.mpr hv)
      cases c' with
      | nil => cases hvc'
      | cons x c' =>
        obtain rfl := hhead _ hc' x c' rfl
        exact chain_unique hflatNodup hc' hc (List.mem_cons_self ..) (List.mem_cons_self ..) ▸ hvc'
    have hchain := (hchains _ hc).1
    refine ⟨w, c, hperm.trans (List.perm_insertionSort _ _).symm, hchain, ?_, horiginal, fun v hv hop => ?_,
      fun v hv => ⟨mem_of_mem_known values (hmem _ hc v hv), hsame v (hperm.mem_iff.mp hv)⟩, fun v hv => ?_⟩
    · refine hchain.linked.imp_of_mem_imp fun older newer holder hnewer hpred => ?_
      obtain ⟨x, hx, hid, hafter⟩ := hlineage.after newer (hmem _ hc _ hnewer) _ hpred
      rwa [List.inj_on_of_nodup_map hn hx (hmem _ hc _ holder) hid] at hafter
    · have hv' := hmem _ hc v (List.mem_cons_of_mem _ hv)
      have heq : v = w := List.inj_on_of_nodup_map hn hv' hroot (hsole v hv' hop)
      exact (List.nodup_cons.mp ((List.nodup_flatten.mp hflatNodup).1 _ hc)).1 (heq ▸ hv)
    · obtain ⟨x, hx, hid⟩ := exists_known values hv
      exact ⟨x, hperm.mem_iff.mpr hx, hid⟩

/-! ## The order of the versions -/

/-- What the check reads of a version. -/
def read (v : CorporateActionVersion py) := (v.actionVersionId, readFacts (factsOf v))

/-- SHA-256 tells the bodies of these versions apart. -/
def CollisionFree (values : List (CorporateActionVersion py)) : Prop :=
  ∀ v ∈ values, ∀ w ∈ values, py.hexdigest (bodyOf v).dumps = py.hexdigest (bodyOf w).dumps →
    (bodyOf v).dumps = (bodyOf w).dumps

theorem read_eq {values : List (CorporateActionVersion py)} (hcreated : ∀ v ∈ values, Created v)
    (hfree : CollisionFree values) {v w : CorporateActionVersion py} (hv : v ∈ values) (hw : w ∈ values)
    (h : v.actionVersionId = w.actionVersionId) : read v = read w := by
  have hid := h
  rw [(hcreated v hv).spec.1, (hcreated w hw).spec.1] at hid
  have hhash : py.hexdigest (bodyOf v).dumps = py.hexdigest (bodyOf w).dumps :=
    String.append_right_inj _ |>.mp (ActionVersionId.mk.inj hid)
  exact Prod.ext h (congrArg readFacts (versionMapping_inj (hfree v hv w hw hhash)).1)

theorem read_fields {v w : CorporateActionVersion py} (h : read v = read w) :
    v.actionVersionId = w.actionVersionId ∧ v.predecessorVersionId = w.predecessorVersionId ∧
      v.operation = w.operation ∧ v.knowledgeFrom = w.knowledgeFrom ∧ v.canonicalActionId = w.canonicalActionId ∧
      v.rootInstrumentId = w.rootInstrumentId ∧ v.family = w.family := by
  simpa only [read, readFacts, factsOf, CorporateActionVersion.knowledgeFrom, Prod.mk.injEq] using h

/-- The check depends on what it reads. -/
theorem ActionLineage.congr {vs ws : List (CorporateActionVersion py)} (hn : (vs.map (·.actionVersionId)).Nodup)
    (hn' : (ws.map (·.actionVersionId)).Nodup) (hto : ∀ v ∈ vs, ∃ w ∈ ws, read v = read w)
    (hfrom : ∀ w ∈ ws, ∃ v ∈ vs, read v = read w) (h : ActionLineage vs) : ActionLineage ws := by
  have hparent : parentOf (·.actionVersionId) (·.predecessorVersionId) ws =
      parentOf (·.actionVersionId) (·.predecessorVersionId) vs := by
    funext i
    by_cases hi : ∃ w ∈ ws, w.actionVersionId = i
    · obtain ⟨w, hw, rfl⟩ := hi
      obtain ⟨v, hv, hvw⟩ := hfrom w hw
      obtain ⟨hid, hpred, -⟩ := read_fields hvw
      rw [parentOf_id hn' hw, ← hid, parentOf_id hn hv, hpred]
    · have hi' : ¬ ∃ v ∈ vs, v.actionVersionId = i := by
        rintro ⟨v, hv, rfl⟩
        obtain ⟨w, hw, hvw⟩ := hto v hv
        exact hi ⟨w, hw, (read_fields hvw).1.symm⟩
      rw [parentOf, parentOf, (Dict.get?_ofKeys_eq_none hn').mpr fun w hw e => hi ⟨w, hw, e⟩,
        (Dict.get?_ofKeys_eq_none hn).mpr fun v hv e => hi' ⟨v, hv, e⟩]
  obtain ⟨root, hroot, horiginal, hsole, hsame⟩ := h.root
  constructor
  · obtain ⟨root', hroot', hr⟩ := hto root hroot
    obtain ⟨hid, -, hop, -, haction, hinstrument, hfamily⟩ := read_fields hr
    refine ⟨root', hroot', hop ▸ horiginal, fun w hw hwop => ?_, fun w hw => ?_⟩
    · obtain ⟨v, hv, hvw⟩ := hfrom w hw
      obtain ⟨hid', -, hop', -⟩ := read_fields hvw
      rw [← hid', ← hid]
      exact hsole v hv (hop'.trans hwop)
    · obtain ⟨v, hv, hvw⟩ := hfrom w hw
      obtain ⟨-, -, -, -, haction', hinstrument', hfamily'⟩ := read_fields hvw
      obtain ⟨ha, hi, hf⟩ := hsame v hv
      exact ⟨haction' ▸ haction ▸ ha, hinstrument' ▸ hinstrument ▸ hi, hfamily' ▸ hfamily ▸ hf⟩
  · intro w hw p hp
    obtain ⟨v, hv, hvw⟩ := hfrom w hw
    obtain ⟨-, hpred, -, hknow, -⟩ := read_fields hvw
    obtain ⟨x, hx, hxid, k, k', hk, hk', hlt⟩ := h.after v hv p (hpred.trans hp)
    obtain ⟨y, hy, hxy⟩ := hto x hx
    obtain ⟨hid, -, -, hknow', -⟩ := read_fields hxy
    exact ⟨y, hy, hid ▸ hxid, k, k', hknow ▸ hk, hknow' ▸ hk', hlt⟩
  · intro w hw w' hw' p hp hp'
    obtain ⟨v, hv, hvw⟩ := hfrom w hw
    obtain ⟨v', hv', hvw'⟩ := hfrom w' hw'
    obtain ⟨hid, hpred, -⟩ := read_fields hvw
    obtain ⟨hid', hpred', -⟩ := read_fields hvw'
    rw [← hid, ← hid']
    exact h.single v hv v' hv' p (hpred.trans hp) (hpred'.trans hp')
  · intro w hw
    obtain ⟨v, hv, hvw⟩ := hfrom w hw
    rw [hparent, ← (read_fields hvw).1]
    exact h.ends v hv

section Order

variable {values values' : List (CorporateActionVersion py)}

/-- In another order the versions are kept once each with the same identities. -/
theorem exists_known_of_perm (hp : values.Perm values') {v : CorporateActionVersion py} (hv : v ∈ known values) :
    ∃ w ∈ known values', w ∈ values ∧ w.actionVersionId = v.actionVersionId := by
  obtain ⟨w, hw, hid⟩ := exists_known values' (hp.mem_iff.mp (mem_of_mem_known values hv))
  exact ⟨w, hw, hp.mem_iff.mpr (mem_of_mem_known values' hw), hid⟩

/-- The order of created versions does not matter to the check, nor to the identities that
it returns. -/
theorem validateActionLineage_congr (hcreated : ∀ v ∈ values, Created v) (hfree : CollisionFree values)
    (hp : values.Perm values') {r : List (CorporateActionVersion py)} (h : validateActionLineage values = .ok r) :
    ∃ r', validateActionLineage values' = .ok r' ∧ r'.map (·.actionVersionId) = r.map (·.actionVersionId) := by
  obtain ⟨hne, hlength, hlineage, rfl⟩ := validateActionLineage_eq_ok.mp h
  have hto : ∀ v ∈ known values, ∃ w ∈ known values', read v = read w := fun v hv => by
    obtain ⟨w, hw, hwv, hid⟩ := exists_known_of_perm hp hv
    exact ⟨w, hw, read_eq hcreated hfree (mem_of_mem_known values hv) hwv hid.symm⟩
  have hfrom : ∀ w ∈ known values', ∃ v ∈ known values, read v = read w := fun w hw => by
    obtain ⟨v, hv, -, hid⟩ := exists_known_of_perm hp.symm hw
    exact ⟨v, hv, read_eq hcreated hfree (mem_of_mem_known values hv) (hp.mem_iff.mpr (mem_of_mem_known values' hw)) hid⟩
  refine ⟨_, validateActionLineage_eq_ok.mpr ⟨fun e => hne (by rw [e] at hp; exact hp.eq_nil), hp.length_eq ▸ hlength,
    hlineage.congr (known_nodup values) (known_nodup values') hto hfrom, rfl⟩, ?_⟩
  have hsorted : ∀ vs : List (CorporateActionVersion py),
      ((vs.insertionSort fun a b => a.actionVersionId.value ≤ b.actionVersionId.value).map (·.actionVersionId)).Pairwise
        fun a b => a.value ≤ b.value := fun vs => by
    have htotal : Std.Total fun a b : CorporateActionVersion py => a.actionVersionId.value ≤ b.actionVersionId.value :=
      ⟨fun _ _ => le_total _ _⟩
    have htrans : IsTrans (CorporateActionVersion py) fun a b => a.actionVersionId.value ≤ b.actionVersionId.value :=
      ⟨fun _ _ _ => le_trans⟩
    exact List.pairwise_map.mpr (List.pairwise_insertionSort _ _)
  refine List.Perm.eq_of_pairwise (fun a b _ _ hab hba => actionVersionId_value_injective (le_antisymm hab hba))
    (hsorted _) (hsorted _) ?_
  refine (List.perm_ext_iff_of_nodup ?_ ?_).mpr fun i => ?_
  · exact ((List.perm_insertionSort _ _).map _).nodup_iff.mpr (known_nodup values')
  · exact ((List.perm_insertionSort _ _).map _).nodup_iff.mpr (known_nodup values)
  · simp only [List.mem_map, List.mem_insertionSort]
    constructor
    · rintro ⟨w, hw, rfl⟩
      obtain ⟨v, hv, hvw⟩ := hfrom w hw
      exact ⟨v, hv, (read_fields hvw).1⟩
    · rintro ⟨v, hv, rfl⟩
      obtain ⟨w, hw, hvw⟩ := hto v hv
      exact ⟨w, hw, (read_fields hvw).1.symm⟩

/-- The result is the same when the versions with one identity are. -/
theorem validateActionLineage_congr_of_unique (hunique : ∀ v ∈ values, ∀ w ∈ values,
    v.actionVersionId = w.actionVersionId → v = w) (hp : values.Perm values')
    {r : List (CorporateActionVersion py)} (h : validateActionLineage values = .ok r) :
    validateActionLineage values' = .ok r := by
  obtain ⟨hne, hlength, hlineage, rfl⟩ := validateActionLineage_eq_ok.mp h
  have hperm : (known values).Perm (known values') := by
    refine (List.perm_ext_iff_of_nodup (List.Nodup.of_map _ (known_nodup values))
      (List.Nodup.of_map _ (known_nodup values'))).mpr fun v => ⟨fun hv => ?_, fun hv => ?_⟩
    · obtain ⟨w, hw, hwv, hid⟩ := exists_known_of_perm hp hv
      rwa [hunique w hwv v (mem_of_mem_known values hv) hid] at hw
    · obtain ⟨w, hw, -, hid⟩ := exists_known_of_perm hp.symm hv
      rwa [hunique w (mem_of_mem_known values hw) v (hp.mem_iff.mpr (mem_of_mem_known values' hv)) hid] at hw
  refine validateActionLineage_eq_ok.mpr ⟨fun e => hne (by rw [e] at hp; exact hp.eq_nil), hp.length_eq ▸ hlength,
    hlineage.congr (known_nodup values) (known_nodup values') (fun v hv => ⟨v, hperm.mem_iff.mp hv, rfl⟩)
      (fun v hv => ⟨v, hperm.mem_iff.mpr hv, rfl⟩), ?_⟩
  exact insertionSort_eq_of_perm (fun _ _ => le_total _ _) (fun _ _ _ => le_trans)
    (fun v hv w hw hvw hwv => List.inj_on_of_nodup_map (known_nodup values) hv hw
      (actionVersionId_value_injective (le_antisymm hvw hwv))) hperm

end Order

end ATB.Proof.Lineages
