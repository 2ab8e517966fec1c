import AutomatedTradingBot.Framework.Refusal
import AutomatedTradingBot.Proof.Datasets.PhysicalPersistence.RoundTrip

/-!
# Persisting one exact version

* `writeObjects_spec`, `writeObjects_ok_iff`: the objects are written unless a digest
  stands for other content;
* `prepare_ok`: the checks before the first write;
* `validateRetainedInventory_ok`, `validateRetainedInventory_error`: the inventory of a
  record that was just written, which counts the base objects once more;
* `confirm_ok`, `confirm_error`: the checks after the record is committed, and from them
  `persist_leaves_no_record_iff`.
-/

namespace ATB.Proof.PhysicalPersistence

open ATB.Datasets ATB.Datasets.LocalPhysicalDatasetStore
open Instruments (EvidenceRef)

variable {store : LocalPhysicalDatasetStore} {files files' : Files} {request : PersistRequest} {id : StoredVersionId}

/-! ## Writing objects -/

theorem writeObject_frame {content : List UInt8} (h : store.writeObject files content = .ok files') :
    ∃ objects, files' = { files with objects } := by
  unfold writeObject at h
  obtain ⟨-, h⟩ := raiseIf_bind_eq_ok.mp h
  split at h
  · obtain ⟨-, h⟩ := raiseIf_bind_eq_ok.mp h
    exact ⟨files.objects, (pure_eq_ok.mp h).symm⟩
  · exact ⟨_, (pure_eq_ok.mp h).symm⟩

theorem writeObject_ok {content : List UInt8} (h : store.writeObject files content = .ok files') :
    files'.objects (store.fromBytes content) = some content ∧
      (∀ d c, files.objects d = some c → files'.objects d = some c) ∧
      ∀ d c, files'.objects d = some c → files.objects d = some c ∨ d = store.fromBytes content ∧ c = content := by
  unfold writeObject at h
  generalize store.fromBytes content = digest at h ⊢
  obtain ⟨-, h⟩ := raiseIf_bind_eq_ok.mp h
  cases hf : files.objects digest with
  | some existing =>
    rw [hf] at h
    obtain ⟨hsame, h⟩ := raiseIf_bind_eq_ok.mp h
    rw [pure_eq_ok] at h
    subst h
    exact ⟨by rw [hf, not_not.mp hsame], fun _ _ h => h, fun _ _ h => Or.inl h⟩
  | none =>
    rw [hf, pure_eq_ok] at h
    subst h
    refine ⟨Function.update_self .., fun d c hd => ?_, fun d c hd => ?_⟩
    · show Function.update files.objects digest (some content) d = some c
      rw [Function.update_of_ne, hd]
      rintro rfl
      rw [hf] at hd
      cases hd
    · replace hd : Function.update files.objects digest (some content) d = some c := hd
      by_cases hne : d = digest
      · subst hne
        rw [Function.update_self] at hd
        exact Or.inr ⟨rfl, (Option.some.inj hd).symm⟩
      · rw [Function.update_of_ne hne] at hd
        exact Or.inl hd

/-- Writing objects changes nothing else. -/
theorem writeObjects_frame (store : LocalPhysicalDatasetStore) (files : Files) (os : List LocalObject) :
    ∃ objects, (store.writeObjects files os).1 = { files with objects } := by
  induction os generalizing files with
  | nil => exact ⟨files.objects, rfl⟩
  | cons o os ih =>
    rw [writeObjects]
    cases h : store.writeObject files o.content with
    | error e => exact ⟨files.objects, rfl⟩
    | ok files' =>
      obtain ⟨objects, hobjects⟩ := ih files'
      obtain ⟨objects', rfl⟩ := writeObject_frame h
      exact ⟨objects, hobjects⟩

theorem writeObjects_versions {os : List LocalObject} :
    (store.writeObjects files os).1.versions = files.versions := by
  obtain ⟨objects, h⟩ := writeObjects_frame store files os
  rw [h]

theorem writeObjects_spec {os : List LocalObject} (h : store.writeObjects files os = (files', .ok ())) :
    (∀ o ∈ os, files'.objects (store.fromBytes o.content) = some o.content) ∧
      ∀ d c, files.objects d = some c → files'.objects d = some c := by
  induction os generalizing files with
  | nil =>
    cases h
    exact ⟨fun _ ho => (by cases ho), fun _ _ h => h⟩
  | cons o os ih =>
    rw [writeObjects] at h
    cases hw : store.writeObject files o.content with
    | error e =>
      rw [hw] at h
      cases h
    | ok next =>
      rw [hw] at h
      obtain ⟨hself, hkept, -⟩ := writeObject_ok hw
      obtain ⟨hall, hkept'⟩ := ih h
      refine ⟨fun p hp => ?_, fun d c hd => hkept' d c (hkept d c hd)⟩
      rcases List.mem_cons.mp hp with rfl | hp
      · exact hkept' _ _ hself
      · exact hall p hp

/-- The digests of the objects stand for their contents, in the store and among them. -/
structure Writable (store : LocalPhysicalDatasetStore) (files : Files) (os : List LocalObject) : Prop where
  stored : ∀ o ∈ os, ∀ c ∈ files.objects (store.fromBytes o.content), c = o.content
  among : ∀ o ∈ os, ∀ p ∈ os, store.fromBytes o.content = store.fromBytes p.content → o.content = p.content

theorem writeObjects_ok_iff {os : List LocalObject}
    (hsize : ∀ o ∈ os, o.content.length ≤ store.limit .maxPersistedObjectBytes) :
    (store.writeObjects files os).2 = .ok () ↔ Writable store files os := by
  constructor
  · intro h
    have hspec := writeObjects_spec (Prod.ext rfl h)
    refine ⟨fun o ho c hc => ?_, fun o ho p hp heq => ?_⟩
    · have := hspec.2 _ _ hc
      rw [hspec.1 o ho] at this
      exact (Option.some.inj this).symm
    · have := hspec.1 o ho
      rw [heq, hspec.1 p hp] at this
      exact (Option.some.inj this).symm
  · intro h
    induction os generalizing files with
    | nil => rfl
    | cons o os ih =>
      obtain ⟨next, hw⟩ : ∃ next, store.writeObject files o.content = .ok next := by
        refine exists_ok_raiseIf (not_lt.mpr (hsize o (List.mem_cons_self ..))) ?_
        cases hf : files.objects (store.fromBytes o.content) with
        | none => exact ⟨_, rfl⟩
        | some existing =>
          exact exists_ok_raiseIf (not_not.mpr (h.stored o (List.mem_cons_self ..) _ hf)) ⟨_, rfl⟩
      rw [writeObjects, hw]
      refine ih (fun p hp => hsize p (List.mem_cons_of_mem _ hp)) ⟨fun p hp c hc => ?_, fun p hp q hq =>
        h.among p (List.mem_cons_of_mem _ hp) q (List.mem_cons_of_mem _ hq)⟩
      rcases (writeObject_ok hw).2.2 _ _ hc with hc | ⟨heq, rfl⟩
      · exact h.stored p (List.mem_cons_of_mem _ hp) c hc
      · exact (h.among p (List.mem_cons_of_mem _ hp) o (List.mem_cons_self ..) heq).symm

/-! ## The objects and references of a request -/

section Request

variable (request)

/-- The objects that are written for every request. -/
def baseObjects : List LocalObject :=
  [⟨.canonicalAnalyticalBytes, "canonical", request.canonicalBytes⟩,
    ⟨.datasetManifest, "manifest", request.manifestBytes⟩,
    ⟨.provenanceGraph, "provenance", request.provenanceBytes⟩,
    ⟨.transformationLineage, "lineage", request.lineageBytes⟩]

/-- The objects of the retained artifacts. -/
def retainedObjects : List LocalObject :=
  request.retainedArtifacts.filterMap fun item =>
    item.retention.content?.map fun content => ⟨item.kind, item.identity, content⟩

theorem localObjects_eq : request.localObjects = baseObjects request ++ retainedObjects request := rfl

variable {request}

theorem mem_retainedObjects {o : LocalObject} : o ∈ retainedObjects request ↔
    ∃ item ∈ request.retainedArtifacts, ∃ content, item.retention = .content content ∧
      o = ⟨item.kind, item.identity, content⟩ := by
  simp only [retainedObjects, List.mem_filterMap, Option.map_eq_some_iff]
  refine ⟨?_, ?_⟩
  · rintro ⟨item, hitem, content, hcontent, rfl⟩
    refine ⟨item, hitem, content, ?_, rfl⟩
    cases hr : item.retention with
    | content bytes => rw [hr] at hcontent; rw [← Option.some.inj hcontent]
    | externalReference reference => rw [hr] at hcontent; cases hcontent
  · rintro ⟨item, hitem, content, hcontent, rfl⟩
    exact ⟨item, hitem, content, by rw [hcontent]; rfl, rfl⟩

theorem mem_external {e : String × ImmutableExternalReference} : e ∈ request.external ↔
    ∃ item ∈ request.retainedArtifacts, ∃ reference, item.retention = .externalReference reference ∧
      e = (item.identity, reference) := by
  simp only [PersistRequest.external, List.mem_filterMap, Option.map_eq_some_iff]
  refine ⟨?_, ?_⟩
  · rintro ⟨item, hitem, reference, hreference, rfl⟩
    refine ⟨item, hitem, reference, ?_, rfl⟩
    cases hr : item.retention with
    | content bytes => rw [hr] at hreference; cases hreference
    | externalReference reference' => rw [hr] at hreference; rw [← Option.some.inj hreference]
  · rintro ⟨item, hitem, reference, hreference, rfl⟩
    exact ⟨item, hitem, reference, by rw [hreference]; rfl, rfl⟩

theorem safe_localObjects {o : LocalObject} (ho : o ∈ request.localObjects) : isIdentity (Text.chars o.identity) = true := by
  rw [localObjects_eq, List.mem_append] at ho
  rcases ho with ho | ho
  · simp only [baseObjects, List.mem_cons, List.not_mem_nil, or_false] at ho
    have hnames : ∀ name ∈ ["canonical", "manifest", "provenance", "lineage"], isIdentity (Text.chars name) = true := by
      decide
    rcases ho with rfl | rfl | rfl | rfl <;> exact hnames _ (by simp)
  · obtain ⟨item, -, content, -, rfl⟩ := mem_retainedObjects.mp ho
    exact item.safe

/-- Each retained artifact is an object or an external reference. -/
theorem identities_perm : ((retainedObjects request).map (·.identity) ++ request.external.map Prod.fst).Perm
    (request.retainedArtifacts.map (·.identity)) := by
  unfold retainedObjects PersistRequest.external
  induction request.retainedArtifacts with
  | nil => exact List.Perm.refl _
  | cons item items ih =>
    cases hr : item.retention with
    | content bytes =>
      rw [List.filterMap_cons_some (by rw [hr]; rfl), List.filterMap_cons_none (by rw [hr]; rfl)]
      exact ih.cons item.identity
    | externalReference reference =>
      rw [List.filterMap_cons_none (by rw [hr]; rfl), List.filterMap_cons_some (by rw [hr]; rfl)]
      exact List.perm_middle.trans (ih.cons item.identity)

end Request

/-! ## The checks before the first write -/

/-- What `persist_exact_version` requires before it commits a record: the checks of its
arguments, no interruption, and objects that can be written. -/
structure WriteSide (store : LocalPhysicalDatasetStore) (files : Files) (request : PersistRequest)
    (id : StoredVersionId) (content : FileBytes) : Prop where
  required : ∀ kind ∈ RetainedArtifactKind.required, kind ∈ request.retainedArtifacts.map (·.kind)
  distinct : (request.retainedArtifacts.map (·.identity)).Nodup
  count : request.localObjects.length + request.external.length ≤ store.limit .maxObjectsPerVersion
  sizes : ∀ o ∈ request.localObjects, o.content.length ≤ store.limit .maxPersistedObjectBytes
  version : store.storedVersion request = .ok id
  record : store.canonicalJson (store.metadata request id) = .ok content
  recordSize : content.size ≤ store.limit .maxMetadataBytes
  bundle : (request.localObjects.map (·.content.length)).sum + content.size ≤ store.limit .maxBundleBytes
  staging : files.staging < store.limit .maxRecoveryStagingEntries
  uninterrupted : request.failurePoint ≠ some .afterStaging ∧ request.failurePoint ≠ some .afterObjectCommit
  writable : Writable store files request.localObjects

theorem prepare_ok {content : FileBytes} (h : store.prepare files request = .ok (id, content))
    (hrun : request.failurePoint ≠ some .afterStaging ∧ request.failurePoint ≠ some .afterObjectCommit)
    (hwrite : Writable store files request.localObjects) : WriteSide store files request id content := by
  simp only [prepare, raiseIf_bind_eq_ok, not_not, not_exists, not_and, not_lt] at h
  obtain ⟨hrequired, hdistinct, hcount, hsizes, h⟩ := h
  obtain ⟨id', hid, h⟩ := bind_eq_ok.mp h
  obtain ⟨content', hcontent, h⟩ := bind_eq_ok.mp h
  obtain ⟨⟨⟩, hsize, h⟩ := bind_eq_ok.mp h
  simp only [raiseIf_bind_eq_ok, not_lt, not_le, pure_eq_ok, Prod.mk.injEq] at h
  obtain ⟨hbundle, hstaging, rfl, rfl⟩ := h
  exact ⟨hrequired, hdistinct, hcount, hsizes, hid, hcontent, not_lt.mp (raiseIf_eq_ok.mp hsize), hbundle, hstaging, hrun,
    hwrite⟩

theorem prepare_sizes {prepared : StoredVersionId × FileBytes} (h : store.prepare files request = .ok prepared) :
    ∀ o ∈ request.localObjects, o.content.length ≤ store.limit .maxPersistedObjectBytes := by
  simp only [LocalPhysicalDatasetStore.prepare, raiseIf_bind_eq_ok, not_exists, not_and, not_lt] at h
  exact h.2.2.2.1

theorem WriteSide.prepare {content : FileBytes} (h : WriteSide store files request id content) :
    store.prepare files request = .ok (id, content) := by
  simp only [LocalPhysicalDatasetStore.prepare, raiseIf_bind_eq_ok, not_not, not_exists, not_and, not_lt]
  refine ⟨h.required, h.distinct, h.count, h.sizes, ?_⟩
  rw [h.version, ok_bind, h.record, ok_bind, checkSize, raiseIf_of_not (not_lt.mpr h.recordSize), ok_bind,
    raiseIf_of_not (not_lt.mpr h.bundle), ok_bind, raiseIf_of_not (not_le.mpr h.staging), ok_bind]
  rfl

/-! ## The inventory of a committed record -/

section Inventory

variable (store request)

/-- The records of a request, in the order of its record. -/
def records : List ObjectRecord :=
  (request.localObjects.map store.objectRecord).insertionSort fun a b =>
    a.kind.value < b.kind.value ∨ a.kind.value = b.kind.value ∧ a.identity ≤ b.identity

/-- The external references of a request, in the order of its record. -/
def references : List (String × ImmutableExternalReference) := request.external.insertionSort fun a b => a.1 ≤ b.1

theorem records_perm : (records store request).Perm (request.localObjects.map store.objectRecord) :=
  List.perm_insertionSort _ _

theorem references_perm : (references request).Perm request.external := List.perm_insertionSort _ _

variable {store request}

theorem mem_records {r : ObjectRecord} : r ∈ records store request ↔ ∃ o ∈ request.localObjects, store.objectRecord o = r := by
  rw [(records_perm store request).mem_iff, List.mem_map]

/-- The identities of the artifacts that are objects, but those of a base kind. -/
theorem retained_identities_perm : (((records store request).filter fun r =>
      decide (r.kind ∉ RetainedArtifactKind.base)).map (·.identity)).Perm
    (((retainedObjects request).filter fun o => decide (o.kind ∉ RetainedArtifactKind.base)).map (·.identity)) := by
  refine (((records_perm store request).filter _).map _).trans (List.Perm.of_eq ?_)
  rw [List.filter_map, List.map_map, localObjects_eq, List.filter_append]
  rfl

theorem inventoryRecords_ok (hdistinct : (request.retainedArtifacts.map (·.identity)).Nodup) :
    inventoryRecords ((records store request).map ObjectRecord.body) = .ok (records store request) := by
  have hparse : ∀ r ∈ records store request,
      (orRaise (.physical .versionBundleInvalid) (objectRecord? r.body) : Except StoreError _) = .ok r := by
    intro r hr
    obtain ⟨o, ho, rfl⟩ := mem_records.mp hr
    exact orRaise_eq_ok.mpr (objectRecord?_body (safe_localObjects ho) (canonical_fromBytes ..))
  have hnodup : (((records store request).filter fun r =>
      decide (r.kind ∉ RetainedArtifactKind.base)).map (·.identity)).Nodup := by
    rw [retained_identities_perm.nodup_iff]
    have hsub : ((retainedObjects request).filter fun o => decide (o.kind ∉ RetainedArtifactKind.base)).map (·.identity)
        |>.Sublist ((retainedObjects request).map (·.identity)) := (List.filter_sublist).map _
    exact (((identities_perm).nodup_iff.mpr hdistinct).of_append_left).sublist hsub
  unfold inventoryRecords
  rw [mapM_ok (f := fun item => orRaise _ (objectRecord? item)) (g := ObjectRecord.body) hparse, ok_bind, raiseIf_of_not (not_not.mpr hnodup), ok_bind]
  rfl

theorem acceptExternal_ok {known : List String} {l : List (String × ImmutableExternalReference)}
    (hsafe : ∀ e ∈ l, isIdentity (Text.chars e.1) = true) (h : (known ++ l.map Prod.fst).Nodup) :
    (l.map externalBody).foldlM acceptExternal known = .ok (known ++ l.map Prod.fst) := by
  induction l generalizing known with
  | nil => simp
  | cons e l ih =>
    have hnew : e.1 ∉ known := fun hmem => by
      rw [List.map_cons, List.nodup_append] at h
      exact h.2.2 _ hmem _ (List.mem_cons_self ..) rfl
    have hfirst : acceptExternal known (externalBody e) = .ok (known ++ [e.1]) := by
      refine bind_eq_ok.mpr ⟨_, orRaise_eq_ok.mpr (externalRecord?_body (hsafe e (List.mem_cons_self ..))), ?_⟩
      exact raiseIf_bind_eq_ok.mpr ⟨hnew, bind_eq_ok.mpr ⟨_, externalReferenceFromBody_body e.2, rfl⟩⟩
    have hrest : (known ++ [e.1] ++ l.map Prod.fst).Nodup := by simpa using h
    rw [List.map_cons, List.foldlM_cons, hfirst, ok_bind, ih (fun e' he' => hsafe e' (List.mem_cons_of_mem _ he')) hrest]
    simp

/-- A base kind has its own object, and those of the artifacts of that kind. -/
theorem base_count {kind : RetainedArtifactKind} (hkind : kind ∈ RetainedArtifactKind.base) :
    ((records store request).filter fun r => decide (r.kind = kind)).length =
      1 + ((retainedObjects request).filter fun o => decide (o.kind = kind)).length := by
  have hown : ((baseObjects request).filter fun o => decide (o.kind = kind)).length = 1 := by
    simp only [RetainedArtifactKind.base, List.mem_cons, List.not_mem_nil, or_false] at hkind
    rcases hkind with rfl | rfl | rfl | rfl <;> rfl
  rw [((records_perm store request).filter _).length_eq, List.filter_map, List.length_map, localObjects_eq,
    List.filter_append, List.length_append]
  exact congrArg (· + _) hown

theorem metadata_objects : listField "objects" (store.metadata request id) =
    .ok ((records store request).map ObjectRecord.body) := by
  have h : (store.metadata request id).get? "objects" = some (.arr ((records store request).map ObjectRecord.body)) := by
    simp [metadata, get?_obj_ne, get?_obj_self, records]
  rw [listField, h]

theorem metadata_external : listField "external_references" (store.metadata request id) =
    .ok ((references request).map externalBody) := by
  have h : (store.metadata request id).get? "external_references" =
      some (.arr ((references request).map externalBody)) := by
    simp [metadata, get?_obj_ne, get?_obj_self, references]
  rw [listField, h]

theorem safe_references {e : String × ImmutableExternalReference} (he : e ∈ references request) :
    isIdentity (Text.chars e.1) = true := by
  obtain ⟨item, -, reference, -, rfl⟩ := mem_external.mp ((references_perm request).mem_iff.mp he)
  exact item.safe

/-- No kind of the base objects is retained beside them. -/
def OnlyRetained (request : PersistRequest) : Prop :=
  ∀ item ∈ request.retainedArtifacts, item.kind ∉ RetainedArtifactKind.base

theorem base_count_eq_one (store : LocalPhysicalDatasetStore) : (∀ kind ∈ RetainedArtifactKind.base,
    ((records store request).filter fun r => decide (r.kind = kind)).length = 1) ↔ OnlyRetained request := by
  constructor
  · intro h item hitem hkind
    have hcount := h item.kind hkind
    rw [base_count hkind, Nat.add_eq_left, List.length_eq_zero_iff, List.filter_eq_nil_iff] at hcount
    cases hr : item.retention with
    | content bytes =>
      exact hcount _ (mem_retainedObjects.mpr ⟨item, hitem, bytes, hr, rfl⟩) (decide_eq_true rfl)
    | externalReference reference =>
      have hsource := item.source (by rw [hr]; rfl)
      rw [hsource] at hkind
      revert hkind
      decide
  · intro h kind hkind
    rw [base_count hkind, Nat.add_eq_left, List.length_eq_zero_iff, List.filter_eq_nil_iff]
    intro o ho hk
    obtain ⟨item, hitem, content, -, rfl⟩ := mem_retainedObjects.mp ho
    rw [decide_eq_true_eq] at hk
    refine h item hitem ?_
    rw [show item.kind = kind from hk]
    exact hkind

variable (hrequired : ∀ kind ∈ RetainedArtifactKind.required, kind ∈ request.retainedArtifacts.map (·.kind))
  (hdistinct : (request.retainedArtifacts.map (·.identity)).Nodup)
  (hcount : request.localObjects.length + request.external.length ≤ store.limit .maxObjectsPerVersion)

include hrequired in
theorem kinds_established : (∀ kind ∈ RetainedArtifactKind.required, kind ∈ (records store request).map (·.kind) ++
      ((references request).map externalBody).map fun _ => RetainedArtifactKind.sourceEvidence) ∧
    ∀ kind ∈ RetainedArtifactKind.base, kind ∈ (records store request).map (·.kind) ++
      ((references request).map externalBody).map fun _ => RetainedArtifactKind.sourceEvidence := by
  constructor
  · intro kind hkind
    obtain ⟨item, hitem, rfl⟩ := List.mem_map.mp (hrequired kind hkind)
    rw [List.mem_append]
    cases hr : item.retention with
    | content bytes =>
      refine Or.inl (List.mem_map.mpr ⟨_, mem_records.mpr ⟨⟨item.kind, item.identity, bytes⟩, ?_, rfl⟩, rfl⟩)
      rw [localObjects_eq, List.mem_append]
      exact Or.inr (mem_retainedObjects.mpr ⟨item, hitem, bytes, hr, rfl⟩)
    | externalReference reference =>
      rw [item.source (by rw [hr]; rfl)]
      refine Or.inr (List.mem_map.mpr ⟨externalBody (item.identity, reference), List.mem_map_of_mem ?_, rfl⟩)
      rw [(references_perm request).mem_iff]
      exact mem_external.mpr ⟨item, hitem, reference, hr, rfl⟩
  · intro kind hkind
    have hpos : 0 < ((records store request).filter fun r => decide (r.kind = kind)).length := by
      rw [base_count hkind]
      omega
    obtain ⟨r, hr⟩ := List.exists_mem_of_length_pos hpos
    rw [List.mem_filter, decide_eq_true_eq] at hr
    exact List.mem_append_left _ (List.mem_map.mpr ⟨r, hr⟩)

include hrequired hdistinct hcount in
/-- All that the inventory of a record that was just written can refuse is the number of
objects of a base kind. -/
theorem validateRetainedInventory_metadata :
    store.validateRetainedInventory (store.metadata request id) = (do
      raiseIf (∃ kind ∈ RetainedArtifactKind.base,
        ((records store request).filter fun r => decide (r.kind = kind)).length ≠ 1) (.physical .versionBundleInvalid)
      return records store request) := by
  have hlimit : ¬ store.limit .maxObjectsPerVersion < ((records store request).map ObjectRecord.body).length +
      ((references request).map externalBody).length := by
    rw [List.length_map, List.length_map, (records_perm store request).length_eq, List.length_map,
      (references_perm request).length_eq]
    omega
  have hidentities : ((((records store request).filter fun r =>
      decide (r.kind ∉ RetainedArtifactKind.base)).map (·.identity)) ++ (references request).map Prod.fst).Nodup := by
    have hall := identities_perm.nodup_iff.mpr hdistinct
    rw [(retained_identities_perm.append ((references_perm request).map Prod.fst)).nodup_iff]
    exact hall.sublist ((List.filter_sublist.map _).append (List.Sublist.refl _))
  unfold validateRetainedInventory
  rw [metadata_objects, ok_bind, metadata_external, ok_bind, raiseIf_of_not hlimit, ok_bind,
    inventoryRecords_ok hdistinct, ok_bind, acceptExternal_ok (fun e he => safe_references he) hidentities, ok_bind]
  dsimp only
  rw [raiseIf_of_not (not_not.mpr (kinds_established hrequired)), ok_bind]

include hrequired hdistinct hcount in
theorem validateRetainedInventory_ok (honly : OnlyRetained request) :
    store.validateRetainedInventory (store.metadata request id) = .ok (records store request) := by
  rw [validateRetainedInventory_metadata hrequired hdistinct hcount, raiseIf_of_not, ok_bind]
  · rfl
  · have hone := (base_count_eq_one store).mpr honly
    rintro ⟨kind, hkind, hne⟩
    exact hne (hone kind hkind)

include hrequired hdistinct hcount in
theorem validateRetainedInventory_error (honly : ¬ OnlyRetained request) :
    store.validateRetainedInventory (store.metadata request id) = .error (.physical .versionBundleInvalid) := by
  rw [validateRetainedInventory_metadata hrequired hdistinct hcount, raiseIf_of, error_bind]
  rw [← base_count_eq_one store] at honly
  simpa only [not_forall, exists_prop] using honly

end Inventory

/-! ## Reading a committed record -/

section Confirm

/-- What the checks after the commit need: no base kind is retained, and the evidence is
a conflict-free tuple of one to 64 references. -/
def Readable (request : PersistRequest) : Prop :=
  OnlyRetained request ∧ ∃ evidence, canonicalizeEvidenceRefs (request.verificationEvidenceRefs.map AttributedRef.ref) =
    .ok evidence

/-- The objects of a request are in the store. -/
def Stored (store : LocalPhysicalDatasetStore) (files : Files) (request : PersistRequest) : Prop :=
  ∀ o ∈ request.localObjects, files.objects (store.fromBytes o.content) = some o.content

theorem readObject_ok (hstored : Stored store files request) {o : LocalObject} (ho : o ∈ request.localObjects)
    (canonical : Option (List UInt8)) : store.readObject files canonical (store.objectRecord o) =
      .ok (if o.kind = .canonicalAnalyticalBytes then some o.content else canonical) := by
  have hread : store.readBytes files (store.fromBytes o.content) = .ok o.content :=
    bind_eq_ok.mpr ⟨_, orRaise_eq_ok.mpr (hstored o ho), raiseIf_bind_eq_ok.mpr ⟨not_not.mpr rfl, rfl⟩⟩
  exact bind_eq_ok.mpr ⟨_, hread, raiseIf_bind_eq_ok.mpr ⟨not_not.mpr rfl, rfl⟩⟩

theorem content_of_canonical (honly : OnlyRetained request) {o : LocalObject} (ho : o ∈ request.localObjects)
    (hkind : o.kind = .canonicalAnalyticalBytes) : o.content = request.canonicalBytes := by
  rw [localObjects_eq, List.mem_append] at ho
  rcases ho with ho | ho
  · simp only [baseObjects, List.mem_cons, List.not_mem_nil, or_false] at ho
    rcases ho with rfl | rfl | rfl | rfl
    · rfl
    all_goals cases hkind
  · obtain ⟨item, hitem, content, -, rfl⟩ := mem_retainedObjects.mp ho
    refine absurd ?_ (honly item hitem)
    rw [show item.kind = .canonicalAnalyticalBytes from hkind]
    decide

theorem readObjects_ok (hstored : Stored store files request) (honly : OnlyRetained request) :
    (records store request).foldlM (store.readObject files) none = .ok (some request.canonicalBytes) := by
  -- over any part of the records, the canonical bytes are known once their record was read
  have hpart : ∀ (l : List ObjectRecord) (known : Option (List UInt8)), (∀ r ∈ l, r ∈ records store request) →
      (known = none ∨ known = some request.canonicalBytes) →
      (known = some request.canonicalBytes ∨ ∃ r ∈ l, r.kind = .canonicalAnalyticalBytes) →
      l.foldlM (store.readObject files) known = .ok (some request.canonicalBytes) := by
    intro l
    induction l with
    | nil =>
      intro known _ _ hknown
      rcases hknown with rfl | ⟨r, hr, -⟩
      · rfl
      · cases hr
    | cons r l ih =>
      intro known hl hvalue hknown
      obtain ⟨o, ho, rfl⟩ := mem_records.mp (hl r (List.mem_cons_self ..))
      rw [List.foldlM_cons, readObject_ok hstored ho, ok_bind]
      have hl' : ∀ r ∈ l, r ∈ records store request := fun r hr => hl r (List.mem_cons_of_mem _ hr)
      by_cases hkind : o.kind = .canonicalAnalyticalBytes
      · rw [if_pos hkind, content_of_canonical honly ho hkind]
        exact ih _ hl' (Or.inr rfl) (Or.inl rfl)
      · rw [if_neg hkind]
        refine ih known hl' hvalue (hknown.imp_right ?_)
        rintro ⟨r, hr, hrk⟩
        rcases List.mem_cons.mp hr with rfl | hr
        · exact absurd hrk hkind
        · exact ⟨r, hr, hrk⟩
  refine hpart _ none (fun _ h => h) (Or.inl rfl) (Or.inr ?_)
  refine ⟨_, mem_records.mpr ⟨⟨.canonicalAnalyticalBytes, "canonical", request.canonicalBytes⟩, ?_, rfl⟩, rfl⟩
  rw [localObjects_eq]
  exact List.mem_append_left _ (List.mem_cons_self ..)

theorem metadata_evidence : listField "verification_evidence_refs" (store.metadata request id) =
    .ok (request.verificationEvidenceRefs.map AttributedRef.body) := by
  have h : (store.metadata request id).get? "verification_evidence_refs" =
      some (.arr (request.verificationEvidenceRefs.map AttributedRef.body)) := by
    simp [metadata, get?_obj_ne, get?_obj_self]
  rw [listField, h]

theorem metadata_written : digestField "written_content_digest" (store.metadata request id) =
    some (store.fromBytes request.canonicalBytes) :=
  digestField_of_get? (canonical_fromBytes ..) (by simp [metadata, get?_obj_ne, get?_obj_self])

variable {content : FileBytes} (hw : WriteSide store files request id content) (hstored : Stored store files' request)
  (hrecord : files'.versions (store.versionPath id) = some content)

include hw hrecord in
theorem loadVersion_committed : store.loadVersion files' id = .ok (store.metadata request id) :=
  loadVersion_of_record hw.version hw.record (raiseIf_of_not (not_lt.mpr hw.recordSize)) hrecord

include hw hstored hrecord

/-- Reading a committed record that retains no base kind comes down to its evidence. -/
theorem retrieval_committed (honly : OnlyRetained request) :
    store.retrieval files' id = (do
      let evidence ← retrievedEvidence request.verificationEvidenceRefs
      return (⟨id, store.fromBytes request.canonicalBytes, evidence⟩, request.canonicalBytes)) := by
  have hrefs : (request.verificationEvidenceRefs.map AttributedRef.body).mapM
      (fun item => (orRaise (.physical .versionBundleInvalid) (evidenceRefFromBody item) : Except StoreError _)) =
      .ok request.verificationEvidenceRefs :=
    mapM_ok fun e _ => orRaise_eq_ok.mpr (evidenceRefFromBody_body e)
  have hexternal : ((references request).map externalBody).forM recheckExternal = .ok () := by
    rw [forM_eq_ok]
    intro item hitem
    obtain ⟨e, he, rfl⟩ := List.mem_map.mp hitem
    exact bind_eq_ok.mpr ⟨_, orRaise_eq_ok.mpr (externalRecord?_body (safe_references he)),
      bind_eq_ok.mpr ⟨_, externalReferenceFromBody_body e.2, rfl⟩⟩
  unfold retrieval
  refine (bind_of_eq_ok (loadVersion_committed hw hrecord) _).trans ?_
  refine (bind_of_eq_ok (validateRetainedInventory_ok hw.required hw.distinct hw.count honly) _).trans ?_
  refine (bind_of_eq_ok (readObjects_ok hstored honly) _).trans ?_
  refine (bind_of_eq_ok (orRaise_eq_ok.mpr rfl) _).trans ?_
  refine (bind_of_eq_ok (orRaise_eq_ok.mpr metadata_written) _).trans ?_
  refine (bind_of_eq_ok (raiseIf_of_not (not_not.mpr rfl)) _).trans ?_
  refine (bind_of_eq_ok metadata_evidence _).trans ?_
  refine (bind_of_eq_ok hrefs _).trans ?_
  refine (bind_of_eq_ok metadata_external _).trans ?_
  exact bind_of_eq_ok hexternal _

omit hstored hrecord in
theorem receipt_error {e : StoreError} (h : canonicalVerificationEvidence request.verificationEvidenceRefs = .error e) :
    createPersistenceReceipt store.py request.manifest id request.storageAdapterContractRef
      (store.fromBytes request.canonicalBytes) request.verificationEvidenceRefs request.completedAt store.policy =
    .error e := by
  unfold createPersistenceReceipt
  refine (bind_of_eq_ok hw.version _).trans ?_
  refine (bind_of_eq_ok (raiseIf_of_not (not_not.mpr rfl)) _).trans ?_
  rw [h, error_bind]

/-- A readable record is confirmed. -/
theorem confirm_ok (h : Readable request) : ∃ receipt, store.confirm files' request id = .ok receipt := by
  obtain ⟨honly, evidence, hevidence⟩ := h
  have hne : request.verificationEvidenceRefs ≠ [] := by
    intro hnil
    rw [hnil] at hevidence
    cases hevidence
  have hretrieved : retrievedEvidence request.verificationEvidenceRefs = .ok evidence := by
    rw [retrievedEvidence, if_neg hne, hevidence]
    rfl
  have hcanonical : canonicalVerificationEvidence request.verificationEvidenceRefs = .ok evidence := by
    rw [canonicalVerificationEvidence, raiseIf_of_not hne, ok_bind, hevidence]
    rfl
  unfold confirm
  refine exists_ok_bind (by rw [retrieval_committed hw hstored hrecord honly, hretrieved]; rfl) ?_
  refine exists_ok_raiseIf (not_not.mpr rfl) ?_
  unfold createPersistenceReceipt
  exact exists_ok_bind hw.version (exists_ok_raiseIf (not_not.mpr rfl) (exists_ok_bind hcanonical ⟨_, rfl⟩))

/-- Any other record is refused once it is committed. -/
theorem confirm_error (h : ¬ Readable request) :
    ∃ e, store.confirm files' request id = .error e ∧ e ≠ .physical .injectedInterruption := by
  by_cases honly : OnlyRetained request
  · have hevidence : ∀ evidence,
        canonicalizeEvidenceRefs (request.verificationEvidenceRefs.map AttributedRef.ref) ≠ .ok evidence :=
      fun evidence heq => h ⟨honly, evidence, heq⟩
    unfold confirm
    by_cases hnil : request.verificationEvidenceRefs = []
    · -- the record is read, but it has no receipt
      refine ⟨.persistence .verificationEvidenceNotEstablished, ?_, by simp⟩
      rw [retrieval_committed hw hstored hrecord honly, retrievedEvidence, if_pos hnil, ok_bind]
      refine (bind_of_eq_ok (raiseIf_of_not (not_not.mpr rfl)) _).trans (receipt_error hw ?_)
      rw [canonicalVerificationEvidence, raiseIf_of hnil, error_bind]
    · cases hrefs : canonicalizeEvidenceRefs (request.verificationEvidenceRefs.map AttributedRef.ref) with
      | ok evidence => exact absurd hrefs (hevidence evidence)
      | error e =>
        refine ⟨.evidence e, ?_, by simp⟩
        rw [retrieval_committed hw hstored hrecord honly, retrievedEvidence, if_neg hnil, hrefs]
        rfl
  · refine ⟨.physical .versionBundleInvalid, ?_, by simp⟩
    unfold confirm retrieval
    rw [loadVersion_committed hw hrecord, ok_bind, validateRetainedInventory_error hw.required hw.distinct hw.count honly]
    rfl

end Confirm

/-! ## A whole call -/

section Call

theorem writeOnceMetadata_publication {path : String} {content : FileBytes}
    (h : store.writeOnceMetadata files path content = .ok files') : files'.publication = files.publication := by
  unfold writeOnceMetadata at h
  obtain ⟨⟨⟩, -, h⟩ := bind_eq_ok.mp h
  split at h
  · obtain ⟨-, h⟩ := raiseIf_bind_eq_ok.mp h
    rw [← pure_eq_ok.mp h]
  · rw [← pure_eq_ok.mp h]

variable {content : FileBytes}

variable (store files request id content) in
/-- The files once the record of a request is committed: what was there stays. -/
structure Committed (committed : Files) : Prop where
  versions : committed.versions = Function.update files.versions (store.versionPath id) (some content)
  objects : ∀ d c, files.objects d = some c → committed.objects d = some c
  stored : Stored store committed request
  staging : committed.staging = files.staging + 1

theorem Committed.record {committed : Files} (h : Committed store files request id content committed) :
    committed.versions (store.versionPath id) = some content := by
  rw [h.versions, Function.update_self]

/-- A call that passes its own checks commits its record, and then confirms it. -/
theorem persist_committed (hw : WriteSide store files request id content)
    (hfresh : files.versions (store.versionPath id) = none) :
    ∃ committed : Files, Committed store files request id content committed ∧
      store.persistExactVersion files request =
        match store.confirm committed request id with
        | .error e => (committed, .error e)
        | .ok receipt => ({ committed with staging := committed.staging - 1 }, .ok receipt) := by
  have hwritable : Writable store { files with staging := files.staging + 1 } request.localObjects :=
    ⟨hw.writable.stored, hw.writable.among⟩
  have hok := (writeObjects_ok_iff hw.sizes).mpr hwritable
  obtain ⟨objects, hframe⟩ := writeObjects_frame store { files with staging := files.staging + 1 } request.localObjects
  unfold persistExactVersion
  rw [hw.prepare]
  simp only [if_neg hw.uninterrupted.1]
  generalize hwritten : store.writeObjects { files with staging := files.staging + 1 } request.localObjects = written
    at hok hframe ⊢
  obtain ⟨written, result⟩ := written
  dsimp only at hok hframe
  subst hok
  obtain ⟨hstored, hkept⟩ := writeObjects_spec hwritten
  have hversions : written.versions = files.versions := by rw [hframe]
  have hstaging : written.staging = files.staging + 1 := by rw [hframe]
  have hcommit : store.writeOnceMetadata written (store.versionPath id) content =
      .ok { written with versions := Function.update written.versions (store.versionPath id) (some content) } := by
    unfold writeOnceMetadata checkSize
    rw [raiseIf_of_not (not_lt.mpr hw.recordSize), ok_bind, hversions, hfresh]
    rfl
  have hcommitted : Committed store files request id content
      { written with versions := Function.update written.versions (store.versionPath id) (some content) } :=
    ⟨by rw [hversions], hkept, hstored, hstaging⟩
  refine ⟨_, hcommitted, ?_⟩
  generalize store.versionPath id = path at hcommit ⊢
  simp only [if_neg hw.uninterrupted.2, hcommit]
  all_goals
    generalize store.confirm _ request id = outcome
    cases outcome <;> rfl

/-- A call that does not pass its own checks commits nothing. -/
theorem persist_not_committed (hid : store.storedVersion request = .ok id)
    (hw : ∀ content, ¬ WriteSide store files request id content) :
    (store.persistExactVersion files request).1.versions = files.versions := by
  unfold persistExactVersion
  cases hprepare : store.prepare files request with
  | error e => rfl
  | ok prepared =>
    obtain ⟨id', content⟩ := prepared
    dsimp only
    by_cases hstage : request.failurePoint = some .afterStaging
    · rw [if_pos hstage]
    · rw [if_neg hstage]
      have hversions : (store.writeObjects { files with staging := files.staging + 1 } request.localObjects).1.versions =
          files.versions := writeObjects_versions
      have hwritable : (store.writeObjects { files with staging := files.staging + 1 } request.localObjects).2 = .ok () ↔ _ :=
        writeObjects_ok_iff (prepare_sizes hprepare)
      generalize store.writeObjects { files with staging := files.staging + 1 } request.localObjects = written
        at hversions hwritable ⊢
      obtain ⟨written, _ | ⟨⟨⟩⟩⟩ := written
      · exact hversions
      · by_cases hcommit : request.failurePoint = some .afterObjectCommit
        · simpa only [if_pos hcommit] using hversions
        · have hside := prepare_ok hprepare ⟨hstage, hcommit⟩
            ⟨(hwritable.mp rfl).stored, (hwritable.mp rfl).among⟩
          obtain rfl : id' = id := Except.ok.inj (hside.version.symm.trans hid)
          exact absurd hside (hw content)

/-- A call does not touch the publication. -/
theorem persist_publication (store : LocalPhysicalDatasetStore) (files : Files) (request : PersistRequest) :
    (store.persistExactVersion files request).1.publication = files.publication := by
  unfold persistExactVersion
  cases store.prepare files request with
  | error e => rfl
  | ok prepared =>
    obtain ⟨id, content⟩ := prepared
    dsimp only
    obtain ⟨objects, hobjects⟩ := writeObjects_frame store { files with staging := files.staging + 1 }
      request.localObjects
    generalize store.writeObjects { files with staging := files.staging + 1 } request.localObjects = written at hobjects ⊢
    obtain ⟨written, result⟩ := written
    dsimp only at hobjects
    subst hobjects
    split
    · rfl
    · cases result with
      | error e => rfl
      | ok _ =>
        dsimp only
        split
        · rfl
        · cases hcommit : store.writeOnceMetadata _ (store.versionPath id) content with
          | error e => rfl
          | ok committed =>
            have hpublication := writeOnceMetadata_publication hcommit
            dsimp only
            cases store.confirm committed request id <;> exact hpublication

/-- A readable request is persisted. -/
theorem persist_ok (hw : WriteSide store files request id content)
    (hfresh : files.versions (store.versionPath id) = none) (h : Readable request) :
    ∃ receipt committed, Committed store files request id content committed ∧
      store.persistExactVersion files request = ({ committed with staging := files.staging }, .ok receipt) := by
  obtain ⟨committed, hcommitted, heq⟩ := persist_committed hw hfresh
  obtain ⟨receipt, hconfirm⟩ := confirm_ok hw hcommitted.stored hcommitted.record h
  refine ⟨receipt, committed, hcommitted, ?_⟩
  rw [heq, hconfirm, hcommitted.staging]
  rfl

theorem persist_returns (hw : WriteSide store files request id content)
    (hfresh : files.versions (store.versionPath id) = none) (h : Readable request) :
    ∃ receipt, (store.persistExactVersion files request).2 = .ok receipt := by
  obtain ⟨receipt, committed, -, heq⟩ := persist_ok hw hfresh h
  exact ⟨receipt, by rw [heq]⟩

/-- A record that cannot be read is left behind. -/
theorem persist_refused (hw : WriteSide store files request id content)
    (hfresh : files.versions (store.versionPath id) = none) (h : ¬ Readable request) :
    ∃ e, (store.persistExactVersion files request).2 = .error e ∧ e ≠ .physical .injectedInterruption ∧
      (store.persistExactVersion files request).1.versions (store.versionPath id) = some content := by
  obtain ⟨committed, hcommitted, heq⟩ := persist_committed hw hfresh
  obtain ⟨e, hconfirm, hne⟩ := confirm_error hw hcommitted.stored hcommitted.record h
  rw [heq, hconfirm]
  exact ⟨e, rfl, hne, hcommitted.record⟩

variable (store files request)

/-- A call that is refused for another reason than an interruption leaves no record of its
version where there was none, and a later call for the version that passes the checks and
can be read is accepted. -/
def LeavesNoRecord : Prop :=
  ∀ id e, store.storedVersion request = .ok id → files.versions (store.versionPath id) = none →
    (store.persistExactVersion files request).2 = .error e → e ≠ .physical .injectedInterruption →
    (store.persistExactVersion files request).1.versions (store.versionPath id) = none ∧
    ∀ later content, later.manifest = request.manifest → later.canonicalBytes = request.canonicalBytes →
      WriteSide store (store.persistExactVersion files request).1 later id content → Readable later →
      ∃ receipt, (store.persistExactVersion (store.persistExactVersion files request).1 later).2 = .ok receipt

/-- A record that the call commits is accepted by the checks that follow. -/
def AcceptsCommitted : Prop :=
  ∀ id content, WriteSide store files request id content → files.versions (store.versionPath id) = none →
    ∃ receipt, (store.persistExactVersion files request).2 = .ok receipt

/-- Where the call commits a record, its evidence is a conflict-free tuple of one to 64
references and no base kind is among its artifacts. -/
def CommitsReadable : Prop :=
  ∀ id content, WriteSide store files request id content → files.versions (store.versionPath id) = none →
    Readable request

theorem persist_leaves_no_record_iff : (LeavesNoRecord store files request ↔ CommitsReadable store files request) ∧
    (AcceptsCommitted store files request ↔ CommitsReadable store files request) := by
  refine ⟨⟨fun h id content hw hfresh => ?_, fun h id e hid hfresh he hne => ?_⟩,
    ⟨fun h id content hw hfresh => ?_, fun h id content hw hfresh => persist_returns hw hfresh (h id content hw hfresh)⟩⟩
  · by_contra hreadable
    obtain ⟨e, he, hne, hrecord⟩ := persist_refused hw hfresh hreadable
    have hnone := (h id e hw.version hfresh he hne).1
    rw [hrecord] at hnone
    cases hnone
  · have hw : ∀ content, ¬ WriteSide store files request id content := by
      intro content hw
      obtain ⟨receipt, hok⟩ := persist_returns hw hfresh (h id content hw hfresh)
      rw [hok] at he
      cases he
    have hnone : (store.persistExactVersion files request).1.versions (store.versionPath id) = none := by
      rw [persist_not_committed hid hw, hfresh]
    exact ⟨hnone, fun later content _ _ hlater hreadable => persist_returns hlater hnone hreadable⟩
  · by_contra hreadable
    obtain ⟨e, he, -, -⟩ := persist_refused hw hfresh hreadable
    obtain ⟨receipt, hok⟩ := h id content hw hfresh
    rw [hok] at he
    cases he

end Call

/-! ## A call without evidence -/

namespace Sample

/-- Every text is in normal form, and a text is told by the sum of its characters. -/
def platform : Platform := ⟨fun _ => true, fun text => Fin.ofNat _ (text.map Char.toNat).sum⟩

/-- A store whose limits are this and a hundred more. -/
def localStore (bound : Nat) : LocalPhysicalDatasetStore where
  py := platform
  sha256Bytes content := Fin.ofNat _ content.length
  policy := ⟨⟨"storage-policy", by decide⟩, fun _ => 100, some fun _ => bound + 100, by simp, by simp⟩
  limit := fun _ => bound + 100
  established := rfl

def empty : Files := ⟨fun _ => none, fun _ => none, 0, none⟩

def artifacts : List RetainedArtifact :=
  [⟨.sourceEvidence, "a1", .content [], by decide, by decide⟩,
    ⟨.currentnessEvidence, "a2", .content [], by decide, by decide⟩,
    ⟨.quarantineEligibilityEvidence, "a3", .content [], by decide, by decide⟩,
    ⟨.correctionCancellationEvidence, "a4", .content [], by decide, by decide⟩,
    ⟨.invalidationAffectedSetEvidence, "a5", .content [], by decide, by decide⟩,
    ⟨.resourcePolicy, "a6", .content [], by decide, by decide⟩,
    ⟨.recoveryMetadata, "a7", .content [], by decide, by decide⟩,
    ⟨.supersessionLineage, "a8", .content [], by decide, by decide⟩]

def evidence : AttributedRef :=
  ⟨⟨"source:a/1", "dataset:a/1", "evidence:a/1",
    ⟨"sha256:0000000000000000000000000000000000000000000000000000000000000000"⟩⟩, by decide⟩

def manifest (version : DatasetVersionId) : DatasetManifest := ⟨version, ⟨"m", by decide⟩, ⟨"l", by decide⟩⟩

def completedAt : Timestamp := ⟨⟨2025, 1, 1, 0, 0, 0, 0, by decide⟩⟩

def persistRequest (version : DatasetVersionId) (refs : List AttributedRef) : PersistRequest where
  canonicalBytes := []
  manifest := manifest version
  manifestBytes := []
  provenanceBytes := []
  lineageBytes := []
  retainedArtifacts := artifacts
  storageAdapterContractRef := evidence
  verificationEvidenceRefs := refs
  completedAt := completedAt
  failurePoint := none

theorem stored_version (version : DatasetVersionId) : ∃ id, ∀ bound refs,
    (localStore bound).storedVersion (persistRequest version refs) = .ok id := by
  have htext : (platform.text "contract_version" sharedContractVersion).mapError StoreError.python = .ok () := by decide
  obtain ⟨id, hid⟩ : ∃ id, (localStore 0).storedVersion (persistRequest version []) = .ok id :=
    exists_ok_bind htext ⟨_, rfl⟩
  exact ⟨id, fun bound refs => hid⟩

/-- The record does not depend on the limits. -/
theorem metadata_eq (bound : Nat) (request : PersistRequest) (id : StoredVersionId) :
    (localStore bound).metadata request id = (localStore 0).metadata request id := rfl

/-- The size of the record. -/
def recordSize (version : DatasetVersionId) (refs : List AttributedRef) (id : StoredVersionId) : Nat :=
  (FileBytes.text ((localStore 0).metadata (persistRequest version refs) id).dumps).size

theorem content_localObjects (version : DatasetVersionId) (refs : List AttributedRef) :
    ∀ o ∈ (persistRequest version refs).localObjects, o.content = [] := by
  have hall : (persistRequest version refs).localObjects.all fun o => decide (o.content = []) := rfl
  exact fun o ho => of_decide_eq_true (List.all_eq_true.mp hall o ho)

/-- A store with large enough limits commits the record of the sample request. -/
theorem writeSide {files : Files} {version : DatasetVersionId} {refs : List AttributedRef} {id : StoredVersionId}
    {bound : Nat} (hid : (localStore bound).storedVersion (persistRequest version refs) = .ok id)
    (hrefs : ∀ e ∈ refs, platform.canonicalValue e.body = .ok ()) (hstaging : files.staging = 0)
    (hobjects : ∀ c ∈ files.objects ((localStore bound).fromBytes []), c = [])
    (hbound : recordSize version refs id ≤ bound) :
    WriteSide (localStore bound) files (persistRequest version refs) id
      (.text ((localStore bound).metadata (persistRequest version refs) id).dumps) := by
  rw [recordSize, ← metadata_eq bound] at hbound
  have hempty := content_localObjects version refs
  have hlimit : ∀ name, (localStore bound).limit name = bound + 100 := fun _ => rfl
  have hsum : ((persistRequest version refs).localObjects.map (·.content.length)).sum = 0 := rfl
  refine {
    required := (by decide : ∀ kind ∈ RetainedArtifactKind.required, kind ∈ artifacts.map (·.kind))
    distinct := (by decide : (artifacts.map (·.identity)).Nodup)
    count := ?_
    sizes := fun o ho => ?_
    version := hid
    record := canonical_metadata (fun _ => rfl) rfl (fun o ho => safe_localObjects ho) hrefs
    recordSize := ?_
    bundle := ?_
    staging := ?_
    uninterrupted := ⟨nofun, nofun⟩
    writable := ⟨fun o ho c hc => ?_, fun o ho p hp _ => by rw [hempty o ho, hempty p hp]⟩ }
  · rw [hlimit]
    exact (by omega : 12 + 0 ≤ bound + 100)
  · rw [hempty o ho, hlimit]
    exact Nat.zero_le _
  · rw [hlimit]
    omega
  · rw [hlimit, hsum]
    omega
  · rw [hlimit, hstaging]
    omega
  · rw [hempty o ho] at hc ⊢
    exact hobjects c hc

end Sample

theorem evidence_checked_after_commit :
    ∃ bound, ¬ LeavesNoRecord (Sample.localStore bound) Sample.empty (Sample.persistRequest ⟨"v1", by decide⟩ []) := by
  obtain ⟨id, hid⟩ := Sample.stored_version ⟨"v1", by decide⟩
  refine ⟨Sample.recordSize ⟨"v1", by decide⟩ [] id, fun h => ?_⟩
  have hw : WriteSide _ Sample.empty (Sample.persistRequest ⟨"v1", by decide⟩ []) id _ :=
    Sample.writeSide (hid _ []) (by simp) rfl (fun _ h => by cases h) le_rfl
  have hreadable : ¬ Readable (Sample.persistRequest ⟨"v1", by decide⟩ []) := by
    rintro ⟨-, evidence, hevidence⟩
    cases hevidence
  obtain ⟨e, he, hne, hrecord⟩ := persist_refused hw rfl hreadable
  have hnone := (h id e hw.version rfl he hne).1
  rw [hrecord] at hnone
  cases hnone

end ATB.Proof.PhysicalPersistence
