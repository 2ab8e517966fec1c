import AutomatedTradingBot.Framework.Collect
import AutomatedTradingBot.Framework.JsonText
import AutomatedTradingBot.Framework.SortedSet
import AutomatedTradingBot.Source.CalendarResolution

/-!
# Collections of evidence

A record keeps its evidence in the order of its canonical bytes, with one reference for
a key.

* `mapping_injective`: the bytes tell references apart;
* `mem_canonicalize`, `canonicalize_canonical`, `canonicalize_of_canonical`: what a record
  keeps is what it is given, is canonical, and when it is given so is kept as it is;
* `canonicalize_congr`: it depends on the members that are given only;
* `minimalEvidence_eq`, `minimalEvidence_eq_iff`: a result keeps the first reference of
  each key.
-/

namespace ATB.Proof.Evidence

open Instruments Json

theorem sorted_mapping (e : EvidenceRef) : Sorted e.mapping :=
  sorted_obj fun f hf => by
    simp only [List.mem_cons, List.not_mem_nil, or_false] at hf
    rcases hf with rfl | rfl | rfl | rfl <;> exact sorted_str _

theorem mapping_injective : Function.Injective EvidenceRef.mapping := by
  rintro ⟨a, b, c, ⟨d⟩⟩ ⟨a', b', c', ⟨d'⟩⟩ h
  have hv := obj_inj ["source_id", "dataset_id", "evidence_id", "content_digest"] (by decide)
    [.str a, .str b, .str c, .str d] [.str a', .str b', .str c', .str d'] rfl rfl h
  cases hv
  rfl

theorem dumps_injective : Function.Injective fun e : EvidenceRef => e.mapping.dumps := fun _ _ h =>
  mapping_injective (dumps_inj (sorted_mapping _) (sorted_mapping _) h)

/-- References with one key and one digest are one. -/
theorem eq_of_key {e f : EvidenceRef} (hk : e.key = f.key) (hd : e.contentDigest = f.contentDigest) : e = f := by
  obtain ⟨a, b, c, d⟩ := e
  obtain ⟨a', b', c', d'⟩ := f
  cases hk
  cases hd
  rfl

/-- By canonical bytes. -/
def order (refs : List EvidenceRef) : List EvidenceRef := refs.insertionSort fun a b => a.mapping.dumps ≤ b.mapping.dumps

theorem order_perm (refs : List EvidenceRef) : (order refs).Perm refs := List.perm_insertionSort _ _

theorem pairwise_order (refs : List EvidenceRef) : (order refs).Pairwise fun a b => a.mapping.dumps ≤ b.mapping.dumps := by
  have : Std.Total fun a b : EvidenceRef => a.mapping.dumps ≤ b.mapping.dumps := ⟨fun _ _ => le_total _ _⟩
  have : IsTrans EvidenceRef fun a b => a.mapping.dumps ≤ b.mapping.dumps := ⟨fun _ _ _ => le_trans⟩
  exact List.pairwise_insertionSort _ _

theorem order_congr {refs refs' : List EvidenceRef} (h : refs.Perm refs') : order refs = order refs' :=
  insertionSort_eq_of_perm (fun _ _ => le_total _ _) (fun _ _ _ => le_trans)
    (fun _ _ _ _ hab hba => dumps_injective (le_antisymm hab hba)) h

/-! ## What a record keeps -/

/-- The references are in order, with one for a key, and not too many. -/
structure Canonical (refs : List EvidenceRef) : Prop where
  distinct : (keys refs).Nodup
  sorted : refs.Pairwise fun a b => a.mapping.dumps ≤ b.mapping.dumps
  bounded : refs.length ≤ maxEvidenceRefs

theorem canonical_nil : Canonical [] := ⟨List.nodup_nil, .nil, Nat.zero_le _⟩

theorem canonical_order {refs : List EvidenceRef} (hn : (keys refs).Nodup) (hl : refs.length ≤ maxEvidenceRefs) :
    Canonical (order refs) where
  distinct := ((order_perm refs).map EvidenceRef.key).nodup_iff.mpr hn
  sorted := pairwise_order refs
  bounded := (order_perm refs).length_eq.trans_le hl

/-- A dictionary of references by their keys. -/
structure ByKey (refs : List EvidenceRef) (d : List (EvidenceKey × EvidenceRef)) : Prop where
  nodup : (Dict.keys d).Nodup
  keyed : Dict.Keyed EvidenceRef.key d
  mem : ∀ e ∈ Dict.values d, e ∈ refs

section ByKey

variable {refs : List EvidenceRef} {d : List (EvidenceKey × EvidenceRef)}

theorem ByKey.nil (refs : List EvidenceRef) : ByKey refs [] where
  nodup := List.nodup_nil
  keyed := by simp [Dict.Keyed]
  mem := by simp [Dict.values]

theorem ByKey.set (h : ByKey refs d) {e : EvidenceRef} (he : e ∈ refs) : ByKey refs (Dict.set e.key e d) where
  nodup := Dict.nodup_keys_set h.nodup _ _
  keyed := Dict.keyed_set h.keyed rfl
  mem := fun x hx => by
    rcases Dict.mem_values_set hx with rfl | hx
    · exact he
    · exact h.mem x hx

theorem ByKey.distinct (h : ByKey refs d) : (keys (Dict.values d)).Nodup := by
  rw [keys, Dict.map_values_of_keyed h.keyed]
  exact h.nodup

theorem ByKey.length_le (h : ByKey refs d) : (Dict.values d).length ≤ refs.length :=
  ((List.Nodup.of_map _ h.distinct).subperm fun e he => h.mem e he).length_le

theorem ByKey.mem_values (h : ByKey refs d) {e : EvidenceRef} : e ∈ Dict.values d ↔ Dict.get? e.key d = some e := by
  rw [Dict.values, List.mem_map]
  constructor
  · rintro ⟨p, hp, rfl⟩
    have hk : p.2.key = p.1 := h.keyed p hp
    rw [hk]
    exact Dict.get?_of_mem h.nodup hp
  · intro hget
    exact ⟨_, Dict.mem_of_get? hget, rfl⟩

end ByKey

theorem byKey_byKey {refs : List EvidenceRef} {d : List (EvidenceKey × EvidenceRef)}
    (h : Datasets.byKey refs = .ok d) : ByKey refs d := by
  refine foldlM_ok_induction (P := ByKey refs) (fun known e known' he hstep hk => ?_) h (ByKey.nil refs)
  simp only [bind_eq_ok, pure_eq_ok] at hstep
  obtain ⟨-, -, rfl⟩ := hstep
  exact hk.set he

theorem get?_byKey {refs : List EvidenceRef} {d : List (EvidenceKey × EvidenceRef)}
    (h : Datasets.byKey refs = .ok d) (e : EvidenceRef) : Dict.get? e.key d = some e ↔ e ∈ refs := by
  rw [Dict.get?_foldlM_set EvidenceRef.key id (Dict.Keyed EvidenceRef.key)
    (fun known x known' hstep hk => ?_) h (ByKey.nil refs).keyed]
  · simp [Dict.get?]
  · simp only [bind_eq_ok, raiseIf_eq_ok, exists_const, pure_eq_ok] at hstep
    obtain ⟨hsame, rfl⟩ := hstep
    refine ⟨?_, rfl, Dict.keyed_set hk rfl⟩
    cases hx : Dict.get? x.key known with
    | none => exact .inl rfl
    | some y =>
      have hdigest : y.contentDigest = x.contentDigest := by simpa [hx] using hsame
      exact .inr (congrArg some (eq_of_key (hk _ (Dict.mem_of_get? hx)) hdigest))

theorem canonicalize_eq_ok {refs kept : List EvidenceRef} (h : Datasets.canonicalizeEvidenceRefs refs = .ok kept) :
    refs.length ≤ maxEvidenceRefs ∧ ∃ d, Datasets.byKey refs = .ok d ∧ order (Dict.values d) = kept := by
  simp only [Datasets.canonicalizeEvidenceRefs, bind_eq_ok, raiseIf_eq_ok, exists_const, pure_eq_ok, not_lt] at h
  obtain ⟨-, hlimit, d, hd, hkept⟩ := h
  exact ⟨hlimit, d, hd, hkept⟩

theorem canonicalize_canonical {refs kept : List EvidenceRef}
    (h : Datasets.canonicalizeEvidenceRefs refs = .ok kept) : Canonical kept := by
  obtain ⟨hlimit, d, hd, rfl⟩ := canonicalize_eq_ok h
  exact canonical_order (byKey_byKey hd).distinct ((byKey_byKey hd).length_le.trans hlimit)

/-- A record keeps what it is given. -/
theorem mem_canonicalize {refs kept : List EvidenceRef} (h : Datasets.canonicalizeEvidenceRefs refs = .ok kept)
    (e : EvidenceRef) : e ∈ kept ↔ e ∈ refs := by
  obtain ⟨-, d, hd, rfl⟩ := canonicalize_eq_ok h
  rw [(order_perm _).mem_iff, (byKey_byKey hd).mem_values, get?_byKey hd]

/-- The keys are collected with their digests compared. -/
theorem byKey_eq (refs : List EvidenceRef) : Datasets.byKey refs =
    Collect.collect (.identityConflict "EVIDENCE_IDENTITY_CONFLICT") EvidenceRef.key
      (fun a b => decide (a.contentDigest ≠ b.contentDigest)) refs := rfl

theorem tells_digest : Collect.Tells EvidenceRef.key fun a b => decide (a.contentDigest ≠ b.contentDigest) :=
  fun a b hk => by
    rw [decide_eq_true_iff]
    exact not_congr ⟨eq_of_key hk, fun h => by rw [h]⟩

/-- The members of a collection determine what a record keeps. -/
theorem canonicalize_congr {refs refs' kept : List EvidenceRef} (h : ∀ e, e ∈ refs ↔ e ∈ refs')
    (hl : refs'.length ≤ maxEvidenceRefs) (hk : Datasets.canonicalizeEvidenceRefs refs = .ok kept) :
    Datasets.canonicalizeEvidenceRefs refs' = .ok kept := by
  have hne : refs ≠ [] := by
    rintro rfl
    cases hk
  have hne' : refs' ≠ [] := by
    obtain ⟨e, he⟩ := List.exists_mem_of_ne_nil refs hne
    exact List.ne_nil_of_mem ((h e).mp he)
  obtain ⟨-, d, hd, rfl⟩ := canonicalize_eq_ok hk
  obtain ⟨d', hd', hp⟩ := Collect.collect_perm tells_digest h (byKey_eq refs ▸ hd)
  rw [Datasets.canonicalizeEvidenceRefs, raiseIf_of_not hne', ok_bind, raiseIf_of_not (Nat.not_lt.mpr hl), ok_bind,
    byKey_eq, hd', ok_bind, pure_eq_ok]
  exact order_congr hp.symm

theorem byKey_of_distinct {refs : List EvidenceRef} (h : (keys refs).Nodup) :
    Datasets.byKey refs = .ok (refs.map fun e => (e.key, e)) := by
  suffices hall : ∀ d : List (EvidenceKey × EvidenceRef), (Dict.keys d ++ keys refs).Nodup →
      refs.foldlM (fun known value => do
        raiseIf ((Dict.get? value.key known).any fun previous => decide (previous.contentDigest ≠ value.contentDigest))
          (.identityConflict "EVIDENCE_IDENTITY_CONFLICT")
        return Dict.set value.key value known) d = (.ok (d ++ refs.map fun e => (e.key, e)) :
          Except Datasets.EvidenceError _) from hall [] (by simpa [Dict.keys] using h)
  induction refs with
  | nil => intro d _; simp [pure, Except.pure]
  | cons e refs ih =>
    intro d hd
    have hfresh : Dict.get? e.key d = none := by
      rw [Dict.get?_eq_none]
      intro hmem
      exact (List.nodup_append.mp hd).2.2 _ hmem _ (List.mem_cons_self ..) rfl
    rw [List.foldlM_cons, hfresh, raiseIf_of_not (by simp), ok_bind, pure_bind, Dict.set_eq_append hfresh,
      ih (List.nodup_cons.mp h).2]
    · simp
    · simpa [Dict.keys, keys] using hd

/-- References with distinct keys are sorted. -/
theorem canonicalize_of_distinct {refs : List EvidenceRef} (hn : (keys refs).Nodup) (hne : refs ≠ [])
    (hl : refs.length ≤ maxEvidenceRefs) : Datasets.canonicalizeEvidenceRefs refs = .ok (order refs) := by
  rw [Datasets.canonicalizeEvidenceRefs, raiseIf_of_not hne, ok_bind, raiseIf_of_not (Nat.not_lt.mpr hl), ok_bind,
    byKey_of_distinct hn, ok_bind]
  have hvalues : Dict.values (refs.map fun e => (e.key, e)) = refs := by
    rw [Dict.values, List.map_map]
    exact List.map_id refs
  rw [hvalues, pure_eq_ok]
  rfl

theorem canonicalize_of_canonical {refs : List EvidenceRef} (h : Canonical refs) (hne : refs ≠ []) :
    Datasets.canonicalizeEvidenceRefs refs = .ok refs := by
  rw [canonicalize_of_distinct h.distinct hne h.bounded, Except.ok.injEq]
  exact h.sorted.insertionSort_eq

/-! ## What a result keeps -/

/-- One reference of `_minimal_evidence`, against those before it. -/
def keepFirst (d : List (EvidenceKey × EvidenceRef)) (e : EvidenceRef) : List (EvidenceKey × EvidenceRef) :=
  if ∃ x ∈ Dict.get? e.key d, x.contentDigest ≠ e.contentDigest then d else Dict.set e.key e d

/-- The first reference of a key. -/
def firstOf (refs : List EvidenceRef) (k : EvidenceKey) : Option EvidenceRef := refs.find? fun e => decide (e.key = k)

theorem get?_keepFirst {d : List (EvidenceKey × EvidenceRef)} (hd : Dict.Keyed EvidenceRef.key d) (e : EvidenceRef)
    (k : EvidenceKey) : Dict.get? k (keepFirst d e) = (Dict.get? k d).or (if e.key = k then some e else none) := by
  cases hx : Dict.get? e.key d with
  | none =>
    rw [keepFirst, if_neg (by simp [hx]), Dict.get?_set]
    split
    · rename_i hk
      rw [← hk, hx, Option.none_or]
    · rw [Option.or_none]
  | some x =>
    have hkey : x.key = e.key := hd _ (Dict.mem_of_get? hx)
    -- a second reference of the key changes nothing
    have hsame : keepFirst d e = d ∨ x = e ∧ keepFirst d e = Dict.set e.key e d := by
      by_cases hdigest : x.contentDigest = e.contentDigest
      · exact .inr ⟨eq_of_key hkey hdigest, if_neg (by simp [hx, hdigest])⟩
      · exact .inl (if_pos ⟨x, hx, hdigest⟩)
    by_cases hk : e.key = k
    · subst hk
      rw [hx, Option.some_or]
      rcases hsame with h | ⟨rfl, h⟩
      · rw [h, hx]
      · rw [h, Dict.get?_set_self]
    · rw [if_neg hk, Option.or_none]
      rcases hsame with h | ⟨-, h⟩
      · rw [h]
      · rw [h, Dict.get?_set_ne hk]

theorem byKey_foldl_keepFirst {refs all : List EvidenceRef} {d : List (EvidenceKey × EvidenceRef)}
    (h : ∀ e ∈ refs, e ∈ all) (hd : ByKey all d) :
    ByKey all (refs.foldl keepFirst d) ∧
      ∀ k, Dict.get? k (refs.foldl keepFirst d) = (Dict.get? k d).or (firstOf refs k) := by
  induction refs generalizing d with
  | nil => exact ⟨hd, fun k => by rw [List.foldl_nil, firstOf, List.find?_nil, Option.or_none]⟩
  | cons e refs ih =>
    have hstep : ByKey all (keepFirst d e) := by
      rw [keepFirst]
      split
      · exact hd
      · exact hd.set (h e (List.mem_cons_self ..))
    obtain ⟨hall, hget⟩ := ih (fun x hx => h x (List.mem_cons_of_mem _ hx)) hstep
    refine ⟨hall, fun k => ?_⟩
    rw [List.foldl_cons, hget, get?_keepFirst hd.keyed, Option.or_assoc, firstOf, firstOf, List.find?_cons]
    by_cases hk : e.key = k <;> simp [hk]

/-- The references that a result keeps. -/
def kept (refs : List EvidenceRef) : List EvidenceRef := Dict.values (refs.foldl keepFirst [])

theorem minimalEvidence_eq (refs : List EvidenceRef) :
    Calendars.minimalEvidence refs = if maxEvidenceRefs < (kept refs).length then none else some (order (kept refs)) := by
  rw [Calendars.minimalEvidence]
  change (if maxEvidenceRefs < (order (kept refs)).length then none else some (order (kept refs))) = _
  rw [(order_perm _).length_eq]

theorem byKey_kept (refs : List EvidenceRef) : ByKey refs (refs.foldl keepFirst []) :=
  (byKey_foldl_keepFirst (fun _ h => h) (ByKey.nil refs)).1

theorem mem_kept {refs : List EvidenceRef} {e : EvidenceRef} : e ∈ kept refs ↔ firstOf refs e.key = some e := by
  have hget := (byKey_foldl_keepFirst (fun _ h => h) (ByKey.nil refs)).2 e.key
  rw [Dict.get?, Option.none_or] at hget
  rw [kept, (byKey_kept refs).mem_values, hget]

theorem nodup_kept (refs : List EvidenceRef) : (keys (kept refs)).Nodup := (byKey_kept refs).distinct

theorem kept_perm {refs refs' : List EvidenceRef} (h : ∀ k, firstOf refs k = firstOf refs' k) :
    (kept refs).Perm (kept refs') := by
  rw [List.perm_ext_iff_of_nodup (List.Nodup.of_map _ (nodup_kept refs)) (List.Nodup.of_map _ (nodup_kept refs'))]
  intro e
  rw [mem_kept, mem_kept, h]

/-- What a result keeps depends on the first reference of each key. -/
theorem minimalEvidence_congr {refs refs' : List EvidenceRef} (h : ∀ k, firstOf refs k = firstOf refs' k) :
    Calendars.minimalEvidence refs = Calendars.minimalEvidence refs' := by
  have hp := kept_perm h
  rw [minimalEvidence_eq, minimalEvidence_eq, hp.length_eq, order_congr hp]

theorem mem_minimalEvidence {refs evidence : List EvidenceRef} (h : Calendars.minimalEvidence refs = some evidence)
    {e : EvidenceRef} : e ∈ evidence ↔ firstOf refs e.key = some e := by
  rw [minimalEvidence_eq] at h
  split at h
  · cases h
  · cases h
    rw [(order_perm _).mem_iff, mem_kept]

theorem canonical_minimalEvidence {refs evidence : List EvidenceRef} (h : Calendars.minimalEvidence refs = some evidence) :
    Canonical evidence := by
  rw [minimalEvidence_eq] at h
  split at h
  · cases h
  · rename_i hle
    cases h
    exact canonical_order (nodup_kept refs) (Nat.not_lt.mp hle)

/-! ### Many keys -/

theorem firstOf_eq_some {refs : List EvidenceRef} {k : EvidenceKey} {e : EvidenceRef} (h : firstOf refs k = some e) :
    e ∈ refs ∧ e.key = k := ⟨List.mem_of_find?_eq_some h, by simpa using List.find?_some h⟩

theorem firstOf_eq_none {refs : List EvidenceRef} {k : EvidenceKey} : firstOf refs k = none ↔ k ∉ keys refs := by
  simp [firstOf, keys]

theorem firstOf_append (refs refs' : List EvidenceRef) (k : EvidenceKey) :
    firstOf (refs ++ refs') k = (firstOf refs k).or (firstOf refs' k) := List.find?_append

/-- The first reference of a key in many groups is the first of one of them. -/
theorem firstOf_flatMap {α : Type} {groups : List α} {refs : α → List EvidenceRef} {k : EvidenceKey} {e : EvidenceRef}
    (h : firstOf (groups.flatMap refs) k = some e) : ∃ g ∈ groups, firstOf (refs g) k = some e := by
  induction groups with
  | nil => cases h
  | cons g groups ih =>
    rw [List.flatMap_cons, firstOf_append, Option.or_eq_some_iff] at h
    rcases h with h | ⟨-, h⟩
    · exact ⟨g, List.mem_cons_self .., h⟩
    · obtain ⟨g', hg', he⟩ := ih h
      exact ⟨g', List.mem_cons_of_mem _ hg', he⟩

theorem length_kept (refs : List EvidenceRef) : (kept refs).length = (keys refs).dedup.length := by
  have hp : (keys (kept refs)).Perm (keys refs).dedup := by
    rw [List.perm_ext_iff_of_nodup (nodup_kept refs) (List.nodup_dedup _)]
    intro k
    rw [List.mem_dedup, keys, List.mem_map]
    constructor
    · rintro ⟨e, he, rfl⟩
      exact List.mem_map_of_mem (firstOf_eq_some (mem_kept.mp he)).1
    · intro hk
      obtain ⟨e, he⟩ := Option.ne_none_iff_exists'.mp fun hnone => firstOf_eq_none.mp hnone hk
      have hkey := (firstOf_eq_some he).2
      exact ⟨e, mem_kept.mpr (hkey ▸ he), hkey⟩
  rw [← hp.length_eq, keys, List.length_map]

/-- More keys than a result may cite. -/
def Limited (refs : List EvidenceRef) : Prop := maxEvidenceRefs < (keys refs).dedup.length

theorem minimalEvidence_eq_none {refs : List EvidenceRef} : Calendars.minimalEvidence refs = none ↔ Limited refs := by
  rw [minimalEvidence_eq, Limited, length_kept]
  split <;> simp_all

/-- What a result keeps is one exactly when the first references are. -/
theorem minimalEvidence_eq_iff {refs refs' : List EvidenceRef} (h : ¬ Limited refs) :
    Calendars.minimalEvidence refs = Calendars.minimalEvidence refs' ↔ ∀ k, firstOf refs k = firstOf refs' k := by
  refine ⟨fun heq k => Option.ext fun e => ?_, minimalEvidence_congr⟩
  obtain ⟨evidence, hevidence⟩ := Option.ne_none_iff_exists'.mp fun e => h (minimalEvidence_eq_none.mp e)
  have hmem := mem_minimalEvidence hevidence (e := e)
  have hmem' := mem_minimalEvidence (heq.symm.trans hevidence) (e := e)
  constructor
  · intro he
    have hkey := (firstOf_eq_some he).2
    exact hkey ▸ hmem'.mp (hmem.mpr (hkey ▸ he))
  · intro he
    have hkey := (firstOf_eq_some he).2
    exact hkey ▸ hmem.mp (hmem'.mpr (hkey ▸ he))

end ATB.Proof.Evidence
