import AutomatedTradingBot.Source.MarketData.Eligibility

/-!
# Lineages of identities

* `validateLineageEdges_eq_ok`: the check accepts exactly the pairs of neighbours of
  distinct chains of identities.
-/

namespace ATB.Proof.Lineages

open Lineage MarketData
open Datasets (isIdentity)

/-! ## The maps -/

/-- Identities of the pattern, none its own predecessor, with one predecessor and one
successor at most. -/
structure Sound (edges : List (String × String)) : Prop where
  identities : ∀ e ∈ edges, isIdentity (Text.chars e.1) = true ∧ isIdentity (Text.chars e.2) = true
  irreflexive : ∀ e ∈ edges, e.1 ≠ e.2
  functional : ∀ e ∈ edges, ∀ f ∈ edges, e.1 = f.1 → e.2 = f.2
  injective : ∀ e ∈ edges, ∀ f ∈ edges, e.2 = f.2 → e.1 = f.1

/-- The maps hold these edges. -/
structure Recorded (edges : List (String × String)) (maps : EdgeMaps) : Prop where
  parents : ∀ s p, Dict.get? s maps.parents = some p ↔ (s, p) ∈ edges
  children : ∀ s p, Dict.get? p maps.children = some s ↔ (s, p) ∈ edges

theorem Recorded.nil : Recorded [] ⟨[], []⟩ where
  parents := by simp [Dict.get?]
  children := by simp [Dict.get?]

section Step

variable {done : List (String × String)} {maps : EdgeMaps} {s p : String}

theorem get?_any_ne {k v : String} {d : List (String × String)} :
    (Dict.get? k d).any (fun x => decide (x ≠ v)) = false ↔ ∀ x, Dict.get? k d = some x → x = v := by
  cases Dict.get? k d <;> simp

/-- An edge is added when it agrees with those before it. -/
theorem addEdge_eq_ok {maps' : EdgeMaps} (hr : Recorded done maps) : addEdge maps (s, p) = .ok maps' ↔
    (isIdentity (Text.chars s) = true ∧ isIdentity (Text.chars p) = true) ∧ s ≠ p ∧
      (∀ q, (s, q) ∈ done → q = p) ∧ (∀ t, (t, p) ∈ done → t = s) ∧
      ⟨Dict.set s p maps.parents, Dict.set p s maps.children⟩ = maps' := by
  simp only [addEdge, raiseIf_bind_eq_ok, pure_eq_ok, Bool.not_eq_false, Bool.not_eq_true, get?_any_ne, hr.parents,
    hr.children, and_assoc]

theorem Recorded.set (hr : Recorded done maps) (hp : ∀ q, (s, q) ∈ done → q = p) (hs : ∀ t, (t, p) ∈ done → t = s) :
    Recorded (done ++ [(s, p)]) ⟨Dict.set s p maps.parents, Dict.set p s maps.children⟩ where
  parents t q := by
    rw [Dict.get?_set, List.mem_append, List.mem_singleton, Prod.mk.injEq]
    by_cases ht : s = t
    · rw [if_pos ht, Option.some.injEq]
      constructor
      · exact fun e => Or.inr ⟨ht.symm, e.symm⟩
      · rintro (h | ⟨-, rfl⟩)
        · exact (hp q (ht ▸ h)).symm
        · rfl
    · rw [if_neg ht, hr.parents]
      exact ⟨Or.inl, fun h => h.resolve_right fun h' => ht h'.1.symm⟩
  children t q := by
    rw [Dict.get?_set, List.mem_append, List.mem_singleton, Prod.mk.injEq]
    by_cases hq : p = q
    · rw [if_pos hq, Option.some.injEq]
      constructor
      · exact fun e => Or.inr ⟨e.symm, hq.symm⟩
      · rintro (h | ⟨rfl, -⟩)
        · exact (hs t (hq ▸ h)).symm
        · rfl
    · rw [if_neg hq, hr.children]
      exact ⟨Or.inl, fun h => h.resolve_right fun h' => hq h'.2.symm⟩

theorem sound_snoc_iff (hd : Sound done) : Sound (done ++ [(s, p)]) ↔
    (isIdentity (Text.chars s) = true ∧ isIdentity (Text.chars p) = true) ∧ s ≠ p ∧
      (∀ q, (s, q) ∈ done → q = p) ∧ ∀ t, (t, p) ∈ done → t = s := by
  have hlast : (s, p) ∈ done ++ [(s, p)] := by simp
  constructor
  · intro h
    exact ⟨h.identities _ hlast, h.irreflexive _ hlast,
      fun q hq => h.functional (s, q) (List.mem_append_left _ hq) (s, p) hlast rfl,
      fun t ht => h.injective (t, p) (List.mem_append_left _ ht) (s, p) hlast rfl⟩
  · rintro ⟨hid, hne, hfun, hinj⟩
    have hmem : ∀ e, e ∈ done ++ [(s, p)] ↔ e ∈ done ∨ e = (s, p) := by simp
    constructor
    · rintro e he
      rcases (hmem e).mp he with he | rfl
      · exact hd.identities e he
      · exact hid
    · rintro e he
      rcases (hmem e).mp he with he | rfl
      · exact hd.irreflexive e he
      · exact hne
    · rintro ⟨e, e'⟩ he ⟨f, f'⟩ hf heq
      rcases (hmem _).mp he with he | he <;> rcases (hmem _).mp hf with hf | hf
      · exact hd.functional _ he _ hf heq
      · cases hf
        cases heq
        exact hfun _ he
      · cases he
        cases heq
        exact (hfun _ hf).symm
      · cases he
        cases hf
        rfl
    · rintro ⟨e, e'⟩ he ⟨f, f'⟩ hf heq
      rcases (hmem _).mp he with he | he <;> rcases (hmem _).mp hf with hf | hf
      · exact hd.injective _ he _ hf heq
      · cases hf
        cases heq
        exact hinj _ he
      · cases he
        cases heq
        exact (hinj _ hf).symm
      · cases he
        cases hf
        rfl

end Step

theorem Sound.of_append {done edges : List (String × String)} (h : Sound (done ++ edges)) : Sound done where
  identities := fun e he => h.identities e (List.mem_append_left _ he)
  irreflexive := fun e he => h.irreflexive e (List.mem_append_left _ he)
  functional := fun e he f hf => h.functional e (List.mem_append_left _ he) f (List.mem_append_left _ hf)
  injective := fun e he f hf => h.injective e (List.mem_append_left _ he) f (List.mem_append_left _ hf)

/-- The loop over the edges: it records them when they are sound. -/
theorem foldlM_addEdge (edges : List (String × String)) {done : List (String × String)} {maps : EdgeMaps} (hr : Recorded done maps)
    (hd : Sound done) : (∀ maps', edges.foldlM addEdge maps = .ok maps' → Recorded (done ++ edges) maps') ∧
      ((∃ maps', edges.foldlM addEdge maps = .ok maps') ↔ Sound (done ++ edges)) := by
  induction edges generalizing done maps with
  | nil =>
    rw [List.append_nil]
    refine ⟨fun maps' h => ?_, iff_of_true ⟨maps, rfl⟩ hd⟩
    obtain rfl := Except.ok.inj h
    exact hr
  | cons e edges ih =>
    obtain ⟨s, p⟩ := e
    have happend : done ++ (s, p) :: edges = done ++ [(s, p)] ++ edges := by simp
    rw [happend]
    simp only [List.foldlM_cons, bind_eq_ok, addEdge_eq_ok hr]
    constructor
    · rintro maps' ⟨_, ⟨hid, hne, hfun, hinj, rfl⟩, hrest⟩
      exact (ih (hr.set hfun hinj) ((sound_snoc_iff hd).mpr ⟨hid, hne, hfun, hinj⟩)).1 maps' hrest
    · constructor
      · rintro ⟨maps', _, ⟨hid, hne, hfun, hinj, rfl⟩, hrest⟩
        exact (ih (hr.set hfun hinj) ((sound_snoc_iff hd).mpr ⟨hid, hne, hfun, hinj⟩)).2.mp ⟨maps', hrest⟩
      · intro h
        obtain ⟨hid, hne, hfun, hinj⟩ := (sound_snoc_iff hd).mp h.of_append
        obtain ⟨maps', hrest⟩ := (ih (hr.set hfun hinj) h.of_append).2.mpr h
        exact ⟨maps', _, ⟨hid, hne, hfun, hinj, rfl⟩, hrest⟩

theorem sound_nil : Sound [] := ⟨by simp, by simp, by simp, by simp⟩

/-! ## Chains of identities -/

/-- The edges are the neighbours in distinct chains that are not too deep. -/
structure EdgeChains (edges : List (String × String)) (chains : List (List String)) : Prop where
  disjoint : chains.flatten.Nodup
  shallow : ∀ c ∈ chains, c.length ≤ maxC06LineageDepth + 1
  exact : ∀ s p, (s, p) ∈ edges ↔ ∃ c ∈ chains, [p, s] <:+: c

theorem infix_pair_iff {d : List String} {p s : String} :
    [p, s] <:+: d ↔ ∃ n, ∃ h : n + 1 < d.length, d[n] = p ∧ d[n + 1] = s := by
  constructor
  · rintro ⟨l, r, rfl⟩
    refine ⟨l.length, by simp, ?_, ?_⟩ <;> simp
  · rintro ⟨n, h, rfl, rfl⟩
    exact List.isChain_iff_getElem.mp (List.isChain_isInfix d) n h

section Walks

variable {edges : List (String × String)} {parent : String → Option String}

/-- Sound edges whose walks end are the neighbours in chains. -/
theorem exists_edgeChains (hs : Sound edges) (hparent : ∀ s p, parent s = some p ↔ (s, p) ∈ edges)
    (hends : ∀ e ∈ edges, ∃ n ≤ maxC06LineageDepth, Ends parent n e.1) : ∃ chains, EdgeChains edges chains := by
  let nodes := (edges.flatMap fun e => [e.1, e.2]).dedup
  have hn : nodes.Nodup := List.nodup_dedup _
  have hn' : (nodes.map id).Nodup := by rwa [List.map_id]
  have hmem : ∀ {e}, e ∈ edges → e.1 ∈ nodes ∧ e.2 ∈ nodes := fun he =>
    ⟨List.mem_dedup.mpr (List.mem_flatMap.mpr ⟨_, he, by simp⟩), List.mem_dedup.mpr (List.mem_flatMap.mpr ⟨_, he, by simp⟩)⟩
  have hself : parentOf id parent nodes = parent := parentOf_eq hn fun s p h => (hmem ((hparent s p).mp h)).1
  have hknown : ∀ v ∈ nodes, ∀ p, parent v = some p → ∃ x ∈ nodes, id x = p := fun v _ p h =>
    ⟨p, (hmem ((hparent v p).mp h)).2, rfl⟩
  have hall : ∀ v ∈ nodes, ∃ n ≤ maxC06LineageDepth, Ends (parentOf id parent nodes) n (id v) := by
    intro v _
    rw [hself]
    cases hv : parent v with
    | none => exact ⟨0, Nat.zero_le _, hv⟩
    | some p => exact hends _ ((hparent v p).mp hv)
  obtain ⟨hacyclic, hshallow⟩ := (ends_iff hn' hknown).mp hall
  have hsingle : ∀ v ∈ nodes, ∀ w ∈ nodes, ∀ p, parent v = some p → parent w = some p → v = w :=
    fun v _ w _ p hv hw => hs.injective _ ((hparent v p).mp hv) _ ((hparent w p).mp hw) rfl
  obtain ⟨chains, hflat, hchains⟩ := (chainForest_iff hn').mp ⟨hknown, hsingle, hacyclic, hshallow⟩
  refine ⟨chains, hflat.nodup_iff.mpr hn, fun c hc => (hchains c hc).2, fun s p => ?_⟩
  rw [← hparent]
  constructor
  · intro h
    obtain ⟨c, hc, hsc⟩ := List.mem_flatten.mp (hflat.mem_iff.mpr (hmem ((hparent s p).mp h)).1)
    obtain ⟨n, _, hlt, hs', hp⟩ := (hchains c hc).1.before hsc h
    exact ⟨c, hc, infix_pair_iff.mpr ⟨n, hlt, hp, hs'⟩⟩
  · rintro ⟨c, hc, hinfix⟩
    obtain ⟨n, hlt, rfl, rfl⟩ := infix_pair_iff.mp hinfix
    exact List.isChain_iff_getElem.mp (hchains c hc).1.linked n hlt

variable {chains : List (List String)}

/-- Neighbours of one place are neighbours of the place in its chain. -/
theorem EdgeChains.pair (h : EdgeChains edges chains) {s p : String} (hmem : (s, p) ∈ edges) {d : List String}
    (hc : d ∈ chains) {n : Nat} (hn : n < d.length) (hs : d[n] = s) :
    ∃ m, ∃ hm : m + 1 < d.length, n = m + 1 ∧ d[m] = p := by
  obtain ⟨d', hc', hinfix⟩ := (h.exact s p).mp hmem
  obtain ⟨m, hm, hp, hs'⟩ := infix_pair_iff.mp hinfix
  obtain rfl := chain_unique h.disjoint hc hc' (hs ▸ List.getElem_mem hn) (hs' ▸ List.getElem_mem hm)
  exact ⟨m, hm, ((List.nodup_flatten.mp h.disjoint).1 d hc).getElem_inj_iff.mp (hs.trans hs'.symm), hp⟩

theorem EdgeChains.sound (h : EdgeChains edges chains)
    (hid : ∀ e ∈ edges, isIdentity (Text.chars e.1) = true ∧ isIdentity (Text.chars e.2) = true) : Sound edges where
  identities := hid
  irreflexive := by
    rintro ⟨s, p⟩ he (rfl : s = p)
    obtain ⟨c, hc, hinfix⟩ := (h.exact _ _).mp he
    obtain ⟨n, hn, hp, hs⟩ := infix_pair_iff.mp hinfix
    have := ((List.nodup_flatten.mp h.disjoint).1 c hc).getElem_inj_iff.mp (hp.trans hs.symm)
    omega
  functional := by
    rintro ⟨s, p⟩ he ⟨t, q⟩ hf (rfl : s = t)
    obtain ⟨c, hc, hinfix⟩ := (h.exact _ _).mp he
    obtain ⟨n, hn, rfl, hs⟩ := infix_pair_iff.mp hinfix
    obtain ⟨m, hm, e, rfl⟩ := h.pair hf hc hn hs
    obtain rfl := Nat.succ.inj e
    rfl
  injective := by
    rintro ⟨s, p⟩ he ⟨t, q⟩ hf (rfl : p = q)
    obtain ⟨c, hc, hinfix⟩ := (h.exact _ _).mp he
    obtain ⟨c', hc', hinfix'⟩ := (h.exact _ _).mp hf
    obtain ⟨n, hn, hp, rfl⟩ := infix_pair_iff.mp hinfix
    obtain ⟨m, hm, hq, rfl⟩ := infix_pair_iff.mp hinfix'
    obtain rfl := chain_unique h.disjoint hc hc' (hp ▸ List.getElem_mem _) (hq ▸ List.getElem_mem _)
    obtain rfl := ((List.nodup_flatten.mp h.disjoint).1 c hc).getElem_inj_iff.mp (hp.trans hq.symm)
    rfl

theorem EdgeChains.ends (h : EdgeChains edges chains) (hparent : ∀ s p, parent s = some p ↔ (s, p) ∈ edges) {d : List String}
    (hc : d ∈ chains) {n : Nat} (hn : n < d.length) : Ends parent n d[n] := by
  have hn' : (chains.flatten.map id).Nodup := by rw [List.map_id]; exact h.disjoint
  have hself : parentOf id parent chains.flatten = parent := parentOf_eq h.disjoint fun s p hs => by
    obtain ⟨d, hc, hinfix⟩ := (h.exact s p).mp ((hparent s p).mp hs)
    exact List.mem_flatten.mpr ⟨d, hc, hinfix.subset (by simp)⟩
  have hchain : SimpleChain id parent d := by
    constructor
    · intro v hv
      rw [List.head?_eq_getElem?] at hv
      obtain ⟨hlt, rfl⟩ := List.getElem?_eq_some_iff.mp hv
      cases hp : parent d[0] with
      | none => rfl
      | some p =>
        obtain ⟨m, -, hzero, -⟩ := h.pair ((hparent _ p).mp hp) hc hlt rfl
        omega
    · refine List.isChain_iff_getElem.mpr fun n hlt => (hparent _ _).mpr ((h.exact _ _).mpr ?_)
      exact ⟨d, hc, infix_pair_iff.mpr ⟨n, hlt, rfl, rfl⟩⟩
  rw [← hself]
  exact hchain.ends hn' (fun v hv => List.mem_flatten.mpr ⟨d, hc, hv⟩) hn

end Walks

/-! ## The check -/

/-- The check accepts exactly the neighbours in distinct chains. -/
theorem validateLineageEdges_eq_ok {edges : List (String × String)} {u : Unit} :
    validateLineageEdges edges = .ok u ↔ edges.length ≤ maxC06LineageVersions ∧
      (∀ e ∈ edges, isIdentity (Text.chars e.1) = true ∧ isIdentity (Text.chars e.2) = true) ∧
      ∃ chains, EdgeChains edges chains := by
  obtain ⟨hrecorded, hsound⟩ := foldlM_addEdge edges Recorded.nil sound_nil
  rw [List.nil_append] at hrecorded hsound
  rw [validateLineageEdges, raiseIf_bind_eq_ok, bind_eq_ok]
  simp only [not_lt, mapError_eq_ok, forM_eq_ok]
  refine and_congr_right fun _ => ?_
  have hwalk : ∀ {maps : EdgeMaps} {start : String},
      pursue (fun i => Dict.get? i maps.parents) maxC06LineageDepth [] start = .ok () ↔
        ∃ n ≤ maxC06LineageDepth, Ends (fun i => Dict.get? i maps.parents) n start := pursue_eq_ok (by simp)
  constructor
  · rintro ⟨maps, hmaps, hwalks⟩
    have hs := hsound.mp ⟨maps, hmaps⟩
    have hr := hrecorded maps hmaps
    refine ⟨hs.identities, exists_edgeChains hs hr.parents fun e he => hwalk.mp (hwalks e.1 ?_)⟩
    exact List.mem_map.mpr ⟨e, Dict.mem_of_get? ((hr.parents e.1 e.2).mpr he), rfl⟩
  · rintro ⟨hid, chains, hchains⟩
    obtain ⟨maps, hmaps⟩ := hsound.mpr (hchains.sound hid)
    have hr := hrecorded maps hmaps
    refine ⟨maps, hmaps, fun start hstart => hwalk.mpr ?_⟩
    obtain ⟨p, hp⟩ := Option.ne_none_iff_exists'.mp fun e => Dict.get?_eq_none.mp e hstart
    obtain ⟨c, hc, hinfix⟩ := (hchains.exact _ _).mp ((hr.parents start p).mp hp)
    obtain ⟨n, hn, -, rfl⟩ := infix_pair_iff.mp hinfix
    have := hchains.shallow c hc
    exact ⟨n + 1, by omega, hchains.ends hr.parents hc hn⟩

/-- The order of the edges does not matter. -/
theorem validateLineageEdges_congr {edges edges' : List (String × String)} (hp : edges.Perm edges') {u : Unit}
    (h : validateLineageEdges edges = .ok u) : validateLineageEdges edges' = .ok u := by
  rw [validateLineageEdges_eq_ok] at h ⊢
  obtain ⟨hlength, hid, chains, hchains⟩ := h
  exact ⟨hp.length_eq ▸ hlength, fun e he => hid e (hp.mem_iff.mpr he), chains, hchains.disjoint, hchains.shallow,
    fun s p => hp.mem_iff.symm.trans (hchains.exact s p)⟩

end ATB.Proof.Lineages
