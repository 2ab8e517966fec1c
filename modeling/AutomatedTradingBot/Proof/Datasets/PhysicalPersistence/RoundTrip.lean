import Mathlib
import AutomatedTradingBot.Source.Datasets.PhysicalPersistence

/-!
# What the store writes reads back

* `evidenceRefFromBody_body`, `externalReferenceFromBody_body`, `objectRecord?_body`,
  `externalRecord?_body`: the parts of a version's record;
* `loadVersion_of_record`: the record of a request is loaded again;
* `markerOf?_body`: the publication marker.
-/

namespace ATB.Proof.PhysicalPersistence

open ATB.Datasets ATB.Datasets.LocalPhysicalDatasetStore
open Instruments (EvidenceRef)
open Json (obj)

/-! ## Fields of a `dict` display -/

section Fields

variable {fs : List (String × Json)} {k k' s : String} {j j' : Json}

theorem get?_obj_ne (h : k' ≠ k) : Json.get? k (obj ((k', j) :: fs)) = Json.get? k (obj fs) :=
  Json.find?_insert_ne h

theorem get?_obj_self (h : k ∉ fs.map Prod.fst) : Json.get? k (obj ((k, j) :: fs)) = some j :=
  Json.find?_insert_self fun g hg e => h (List.mem_map.mpr ⟨g, Json.mem_display hg, e⟩)

theorem textField_of_get? (h : j.get? k = some (.str s)) : textField k j = some s := by
  rw [textField, h]

theorem idField_of_get? {kind : IdKind} {i : OpaqueId kind} (h : j.get? k = some (.str i.value)) :
    idField k j = some i := by
  rw [idField, textField_of_get? h]
  exact dif_pos i.identity

theorem digestField_of_get? {d : EvidenceContentDigest} (hd : d.canonical = true) (h : j.get? k = some (.str d.value)) :
    digestField k j = some d := by
  rw [digestField, textField_of_get? h]
  exact if_pos hd

end Fields

theorem mem_map_fst_insert {k l : String} {j : Json} {fs : List (String × Json)} :
    l ∈ (Json.insert k j fs).map Prod.fst ↔ l = k ∨ l ∈ fs.map Prod.fst := by
  induction fs with
  | nil => simp [Json.insert]
  | cons f fs ih =>
    simp only [Json.insert]
    split
    · simp
    · split
      · rename_i hk
        simp [hk]
      · simp only [List.map_cons, List.mem_cons, ih]
        tauto

theorem mem_map_fst_display {l : String} {fs : List (String × Json)} :
    l ∈ (Json.display fs).map Prod.fst ↔ l ∈ fs.map Prod.fst := by
  induction fs with
  | nil => rfl
  | cons f fs ih => rw [Json.display, mem_map_fst_insert, ih, List.map_cons, List.mem_cons]

/-- A `dict` display has the keys it is written with. -/
theorem hasKeys_obj {keys : List String} {fs : List (String × Json)} (h : (fs.map Prod.fst).Perm keys) :
    hasKeys keys (obj fs) = true := by
  rw [obj, hasKeys, decide_eq_true_eq]
  refine ⟨fun f hf => ?_, fun k hk => ?_⟩
  · rw [← h.mem_iff, ← mem_map_fst_display]
    exact List.mem_map_of_mem hf
  · rw [mem_map_fst_display, h.mem_iff]
    exact hk

/-! ## Parts of a record -/

theorem evidenceRefFromBody_body (e : AttributedRef) : evidenceRefFromBody e.body = some e := by
  have hsource : textField "source_id" e.body = some e.ref.sourceId :=
    textField_of_get? (by simp [AttributedRef.body, EvidenceRef.mapping, get?_obj_self])
  have hdataset : textField "dataset_id" e.body = some e.ref.datasetId :=
    textField_of_get? (by simp [AttributedRef.body, EvidenceRef.mapping, get?_obj_ne, get?_obj_self])
  have hevidence : textField "evidence_id" e.body = some e.ref.evidenceId :=
    textField_of_get? (by simp [AttributedRef.body, EvidenceRef.mapping, get?_obj_ne, get?_obj_self])
  have hdigest : textField "content_digest" e.body = some e.ref.contentDigest.value :=
    textField_of_get? (by simp [AttributedRef.body, EvidenceRef.mapping, get?_obj_ne, get?_obj_self])
  rw [evidenceRefFromBody, hsource, hdataset, hevidence, hdigest]
  exact dif_pos e.canonical

theorem timestampFromText_isoformat (t : Timestamp) : timestampFromText t.value.isoformat = some t := by
  rw [timestampFromText, Datetime.fromIsoformat?_isoformat]
  rfl

theorem ofValue?_value (kind : RetainedArtifactKind) : RetainedArtifactKind.ofValue? kind.value = some kind := by
  cases kind <;> decide

theorem externalReferenceFromBody_body (r : ImmutableExternalReference) : externalReferenceFromBody r.body = .ok r := by
  have hkeys : hasKeys ["acquired_at", "content_digest", "entitlement_ref", "exactly_retrievable", "knowledge_at",
      "reference_id", "source_identity", "version_identity"] r.body = true := hasKeys_obj (List.Perm.refl _)
  have hreference : textField "reference_id" r.body = some r.referenceId :=
    textField_of_get? (by simp [ImmutableExternalReference.body, get?_obj_ne, get?_obj_self])
  have hsource : textField "source_identity" r.body = some r.sourceIdentity :=
    textField_of_get? (by simp [ImmutableExternalReference.body, get?_obj_ne, get?_obj_self])
  have hversion : textField "version_identity" r.body = some r.versionIdentity :=
    textField_of_get? (by simp [ImmutableExternalReference.body, get?_obj_ne, get?_obj_self])
  have hdigest : r.body.get? "content_digest" = some (.str r.contentDigest.value) := by
    simp [ImmutableExternalReference.body, get?_obj_ne, get?_obj_self]
  have hacquired : textField "acquired_at" r.body = some r.acquiredAt.value.isoformat :=
    textField_of_get? (by simp [ImmutableExternalReference.body, get?_obj_self])
  have hknowledge : textField "knowledge_at" r.body = some r.knowledgeAt.value.isoformat :=
    textField_of_get? (by simp [ImmutableExternalReference.body, get?_obj_ne, get?_obj_self])
  have hentitlement : r.body.get? "entitlement_ref" = some r.entitlementRef.body := by
    simp [ImmutableExternalReference.body, get?_obj_ne, get?_obj_self]
  have hflag : flagField "exactly_retrievable" r.body = some true := by
    simp [flagField, ImmutableExternalReference.body, get?_obj_ne, get?_obj_self]
  simp only [externalReferenceFromBody, hkeys, hreference, hsource, hversion, textField_of_get? hdigest,
    digestField_of_get? r.canonical hdigest, hacquired, hknowledge, hentitlement, hflag, orRaise, ok_bind,
    timestampFromText_isoformat, Option.bind_some, evidenceRefFromBody_body, raiseIf, not_true_eq_false, if_false, ne_eq]
  exact dif_pos ⟨r.immutable, r.canonical⟩

theorem objectRecord?_body {r : ObjectRecord} (hsafe : isIdentity (Text.chars r.identity) = true)
    (hdigest : r.contentDigest.canonical = true) : objectRecord? r.body = some r := by
  have hkeys : hasKeys ["kind", "identity", "content_digest", "size"] r.body = true :=
    hasKeys_obj (show ["content_digest", "identity", "kind", "size"].Perm _ by decide)
  have hkind : textField "kind" r.body = some r.kind.value :=
    textField_of_get? (by simp [ObjectRecord.body, get?_obj_ne, get?_obj_self])
  have hidentity : textField "identity" r.body = some r.identity :=
    textField_of_get? (by simp [ObjectRecord.body, get?_obj_ne, get?_obj_self])
  have hcontent : digestField "content_digest" r.body = some r.contentDigest :=
    digestField_of_get? hdigest (by simp [ObjectRecord.body, get?_obj_self])
  have hsize : r.body.get? "size" = some (.int r.size) := by
    simp [ObjectRecord.body, get?_obj_ne, get?_obj_self]
  rw [objectRecord?, hkeys, hkind, hidentity, hcontent, hsize]
  simp only [not_true_eq_false, if_false, Option.bind_eq_bind, Option.bind_some, ofValue?_value, hsafe]

theorem externalRecord?_body {e : String × ImmutableExternalReference} (hsafe : isIdentity (Text.chars e.1) = true) :
    externalRecord? (externalBody e) = some (e.1, e.2.body) := by
  have hkeys : hasKeys ["kind", "identity", "reference"] (externalBody e) = true :=
    hasKeys_obj (show ["identity", "kind", "reference"].Perm _ by decide)
  have hkind : textField "kind" (externalBody e) = some RetainedArtifactKind.sourceEvidence.value :=
    textField_of_get? (by simp [externalBody, get?_obj_ne, get?_obj_self])
  have hidentity : textField "identity" (externalBody e) = some e.1 :=
    textField_of_get? (by simp [externalBody, get?_obj_self])
  have hreference : (externalBody e).get? "reference" = some e.2.body := by
    simp [externalBody, get?_obj_ne, get?_obj_self]
  rw [externalRecord?, hkeys, hkind, hidentity, hreference]
  simp only [not_true_eq_false, if_false, Option.bind_eq_bind, Option.bind_some, ofValue?_value, hsafe, ne_eq, or_self]

/-! ## Records and markers -/

theorem canonical_fromBytes (store : LocalPhysicalDatasetStore) (content : List UInt8) :
    (store.fromBytes content).canonical = true := by
  have hhex : ∀ c ∈ Uuid.hexChars 64 (store.sha256Bytes content), Text.isLowerHex c = true := by
    intro c hc
    obtain ⟨d, hd, rfl⟩ := mem_hexChars hc
    exact (by decide : ∀ d < 16, Text.isLowerHex (Nat.digitChar d) = true) d hd
  have hafter : Text.after? (Text.chars "sha256:") (Text.chars (store.fromBytes content).value) =
      some (Uuid.hexChars 64 (store.sha256Bytes content)) := by
    rw [Text.after?_eq_some, Text.chars_eq, Text.chars_eq, fromBytes, String.toList_append]
    exact congrArg _ String.toList_ofList
  rw [EvidenceContentDigest.canonical, Text.fullmatch, hafter]
  simp only [Uuid.length_hexChars, le_refl, decide_true, Bool.true_and, List.all_eq_true]
  exact hhex

section Record

variable {store : LocalPhysicalDatasetStore} {request : PersistRequest} {id : StoredVersionId}

theorem sorted_ref (e : EvidenceRef) : Json.Sorted e.mapping := by
  refine Json.sorted_obj ?_
  simp [Json.sorted_str]

theorem sorted_external (e : String × ImmutableExternalReference) : Json.Sorted (externalBody e) := by
  have hreference : Json.Sorted e.2.body := by
    refine Json.sorted_obj ?_
    simp only [List.forall_mem_cons, Json.sorted_str, Json.sorted_bool, List.not_mem_nil, false_imp_iff, implies_true,
      and_true, true_and]
    exact sorted_ref _
  refine Json.sorted_obj ?_
  simp only [List.forall_mem_cons, Json.sorted_str, hreference, List.not_mem_nil, false_imp_iff, implies_true, and_true]

theorem sorted_object (r : ObjectRecord) : Json.Sorted r.body := by
  refine Json.sorted_obj ?_
  simp [Json.sorted_str, Json.sorted_int]

theorem sorted_map {α : Type} {f : α → Json} (h : ∀ a, Json.Sorted (f a)) (l : List α) : Json.Sorted (.arr (l.map f)) :=
  Json.sorted_arr fun j hj => by
    obtain ⟨a, -, rfl⟩ := List.mem_map.mp hj
    exact h a

theorem sorted_metadata : Json.Sorted (store.metadata request id) := by
  have hrefs := sorted_map (f := AttributedRef.body) (fun e => sorted_ref e.ref) request.verificationEvidenceRefs
  refine Json.sorted_obj ?_
  simp only [List.forall_mem_cons, Json.sorted_str, sorted_map sorted_external, sorted_map sorted_object, hrefs,
    List.not_mem_nil, false_imp_iff, implies_true, and_true]

/-! ## Bodies that can be encoded -/

/-- A text that `_text` accepts when it is in normal form. -/
def clean (s : String) : Bool := s ≠ "" && (Text.chars s).all fun c => !Text.isSpace c

theorem isSpace_of_isIdChar {c : Char} (h : isIdChar c = true) : Text.isSpace c = false := by
  have hrange : 0x20 < c.toNat ∧ c.toNat < 0x80 := by
    simp only [isIdChar, Text.isTokenChar, Char.isAlphanum, Char.isAlpha, Char.isUpper, Char.isLower, Char.isDigit,
      Bool.or_eq_true, Bool.and_eq_true, decide_eq_true_eq, beq_iff_eq, ge_iff_le, UInt32.le_iff_toNat_le] at h
    rcases h with ((((((h | h) | h) | rfl) | rfl) | rfl) | rfl) | rfl
    all_goals first | decide | (simp at h; omega)
  simp only [Text.isSpace, Bool.or_eq_false_iff, Bool.and_eq_false_iff, decide_eq_false_iff_not, beq_eq_false_iff_ne]
  omega

theorem clean_of_identity {value : String} (h : isIdentity (Text.chars value) = true) : clean value = true := by
  have hall : ∀ c ∈ Text.chars value, isIdChar c = true := by
    cases hv : Text.chars value with
    | nil => simp
    | cons c cs =>
      rw [hv, isIdentity] at h
      simp only [Bool.and_eq_true, List.all_eq_true] at h
      rintro d (_ | ⟨_, hd⟩)
      · simp [isIdChar, Text.isTokenChar, h.1.1]
      · exact h.1.2 d hd
  have hne : value ≠ "" := by
    rintro rfl
    revert h
    decide
  rw [clean, Bool.and_eq_true, decide_eq_true_eq, List.all_eq_true]
  exact ⟨hne, fun c hc => by rw [isSpace_of_isIdChar (hall c hc)]; rfl⟩

theorem clean_digest (n : Nat) : clean ("sha256:" ++ String.ofList (Uuid.hexChars 64 n)) = true := by
  have hlead : Text.chars "sha256" = ['s', 'h', 'a', '2', '5', '6'] := by decide
  have hchars : Text.chars ("sha256:" ++ String.ofList (Uuid.hexChars 64 n)) =
      Text.chars "sha256" ++ ':' :: Uuid.hexChars 64 n := by
    rw [hlead, Text.chars_eq, String.toList_append, String.toList_ofList, String.toList_ofList]
    simp only [List.cons_append, List.nil_append]
  refine clean_of_identity ?_
  rw [hchars]
  exact isIdentity_derived (by decide) (by decide) n

theorem clean_fromBytes (store : LocalPhysicalDatasetStore) (content : List UInt8) :
    clean (store.fromBytes content).value = true := clean_digest _

theorem clean_kind (kind : RetainedArtifactKind) : clean kind.value = true := by
  cases kind <;> decide

section Canonical

variable {py : Platform} (hnfc : ∀ s, py.isNfc s = true)

include hnfc

theorem text_ok {name value : String} (h : clean value = true) : py.text name value = .ok () := by
  simp only [clean, Bool.and_eq_true, decide_eq_true_eq, List.all_eq_true, Bool.not_eq_true'] at h
  have hstrip : Text.strip (Text.chars value) = Text.chars value := Text.stripOf_of_none h.2
  refine raiseIf_bind_eq_ok.mpr ⟨not_or.mpr ⟨h.1, not_not.mpr hstrip⟩, raiseIf_eq_ok.mpr ?_⟩
  rw [hnfc]
  exact not_not.mpr rfl

theorem canonicalValue_str {value : String} (h : clean value = true) : py.canonicalValue (.str value) = .ok () := by
  rw [Platform.canonicalValue]
  exact text_ok hnfc h

omit hnfc in
theorem canonicalValue_arr {items : List Json} (h : ∀ j ∈ items, py.canonicalValue j = .ok ()) :
    py.canonicalValue (.arr items) = .ok () := by
  rw [Platform.canonicalValue]
  induction items with
  | nil => rfl
  | cons j items ih =>
    rw [Platform.canonicalItems, h j (List.mem_cons_self ..), ok_bind]
    exact ih fun j hj => h j (List.mem_cons_of_mem _ hj)

theorem canonicalValue_obj {fields : List (String × Json)}
    (h : ∀ f ∈ fields, clean f.1 = true ∧ py.canonicalValue f.2 = .ok ()) : py.canonicalValue (.obj fields) = .ok () := by
  have hdisplay : ∀ f ∈ Json.display fields, clean f.1 = true ∧ py.canonicalValue f.2 = .ok () :=
    fun f hf => h f (Json.mem_display hf)
  rw [Json.obj, Platform.canonicalValue]
  generalize Json.display fields = fs at hdisplay ⊢
  induction fs with
  | nil => rfl
  | cons f fs ih =>
    obtain ⟨hkey, hvalue⟩ := hdisplay f (List.mem_cons_self ..)
    rw [Platform.canonicalFields, Platform.canonicalField, text_ok hnfc hkey, ok_bind, hvalue, ok_bind]
    exact ih fun f hf => hdisplay f (List.mem_cons_of_mem _ hf)

end Canonical

/-- A body whose texts are canonical is encoded. -/
theorem canonicalJson_ok {j : Json} (h : store.py.canonicalValue j = .ok ()) :
    store.canonicalJson j = .ok (.text j.dumps) := by
  unfold LocalPhysicalDatasetStore.canonicalJson Platform.canonicalJson
  rw [h]
  rfl

/-- The record of a request without external references is encoded. -/
theorem canonical_metadata (hnfc : ∀ s, store.py.isNfc s = true) (hexternal : request.external = [])
    (hidentities : ∀ o ∈ request.localObjects, isIdentity (Text.chars o.identity) = true)
    (hrefs : ∀ e ∈ request.verificationEvidenceRefs, store.py.canonicalValue e.body = .ok ()) :
    store.canonicalJson (store.metadata request id) = .ok (.text (store.metadata request id).dumps) := by
  have hid : ∀ {kind : IdKind} (i : OpaqueId kind), store.py.canonicalValue (.str i.value) = .ok () :=
    fun i => canonicalValue_str hnfc (clean_of_identity i.identity)
  have hobject : ∀ o ∈ request.localObjects, store.py.canonicalValue (store.objectRecord o).body = .ok () := by
    intro o ho
    refine canonicalValue_obj hnfc ?_
    simp only [List.forall_mem_cons, List.not_mem_nil, false_imp_iff, implies_true, and_true]
    exact ⟨⟨by decide, canonicalValue_str hnfc (clean_fromBytes ..)⟩,
      ⟨by decide, canonicalValue_str hnfc (clean_of_identity (hidentities o ho))⟩,
      ⟨by decide, canonicalValue_str hnfc (clean_kind _)⟩, by decide, by rw [Platform.canonicalValue]; rfl⟩
  have hlist : ∀ j ∈ ((request.localObjects.map store.objectRecord).insertionSort fun a b =>
      a.kind.value < b.kind.value ∨ a.kind.value = b.kind.value ∧ a.identity ≤ b.identity).map ObjectRecord.body,
      store.py.canonicalValue j = .ok () := by
    intro j hj
    obtain ⟨r, hr, rfl⟩ := List.mem_map.mp hj
    rw [(List.perm_insertionSort _ _).mem_iff] at hr
    obtain ⟨o, ho, rfl⟩ := List.mem_map.mp hr
    exact hobject o ho
  have hevidence : ∀ j ∈ request.verificationEvidenceRefs.map AttributedRef.body, store.py.canonicalValue j = .ok () := by
    intro j hj
    obtain ⟨e, he, rfl⟩ := List.mem_map.mp hj
    exact hrefs e he
  refine canonicalJson_ok (canonicalValue_obj hnfc ?_)
  rw [hexternal]
  simp only [List.forall_mem_cons, List.not_mem_nil, false_imp_iff, implies_true, and_true]
  exact ⟨⟨by decide, canonicalValue_str hnfc (by decide)⟩, ⟨by decide, hid _⟩, ⟨by decide, canonicalValue_arr (by simp)⟩,
    ⟨by decide, hid _⟩, ⟨by decide, hid _⟩, ⟨by decide, canonicalValue_arr hlist⟩, ⟨by decide, hid _⟩, ⟨by decide, hid _⟩,
    ⟨by decide, canonicalValue_arr hevidence⟩, by decide, canonicalValue_str hnfc (clean_fromBytes ..)⟩

/-- The marker of a stored version is encoded. -/
theorem canonical_marker (hnfc : ∀ s, store.py.isNfc s = true) (receiptId : PublicationReceiptId) (id : StoredVersionId)
    (content : List UInt8) : store.canonicalJson (PublicationMarker.body ⟨receiptId, id, store.fromBytes content⟩) =
      .ok (.text (PublicationMarker.body ⟨receiptId, id, store.fromBytes content⟩).dumps) := by
  refine canonicalJson_ok (canonicalValue_obj hnfc ?_)
  simp only [List.forall_mem_cons, List.not_mem_nil, false_imp_iff, implies_true, and_true]
  exact ⟨⟨by decide, canonicalValue_str hnfc (by decide)⟩,
    ⟨by decide, canonicalValue_str hnfc (clean_of_identity receiptId.identity)⟩,
    ⟨by decide, canonicalValue_str hnfc (clean_of_identity id.identity)⟩, by decide,
    canonicalValue_str hnfc (clean_fromBytes ..)⟩

theorem canonicalJson_eq_ok {j : Json} {content : FileBytes} (h : store.canonicalJson j = .ok content) :
    content = .text j.dumps := by
  unfold LocalPhysicalDatasetStore.canonicalJson at h
  cases hj : store.py.canonicalJson j with
  | error e =>
    rw [hj] at h
    cases h
  | ok chars =>
    rw [hj] at h
    cases h
    rw [((store.py.canonicalJson_eq_ok).mp hj).2]

/-- The record of a request is loaded again. -/
theorem loadVersion_of_record {files : Files} {content : FileBytes} (hid : store.storedVersion request = .ok id)
    (hcontent : store.canonicalJson (store.metadata request id) = .ok content) (hsize : store.checkSize content = .ok ())
    (hfile : files.versions (store.versionPath id) = some content) :
    store.loadVersion files id = .ok (store.metadata request id) := by
  have htext := canonicalJson_eq_ok hcontent
  have hloads : (Json.loads (store.metadata request id).dumps).filter (fun value => value.fields?.isSome) =
      some (store.metadata request id) := by
    rw [Json.loads_dumps sorted_metadata]
    rfl
  have hstored : textField "stored_version_id" (store.metadata request id) = some id.value :=
    textField_of_get? (by simp [metadata, get?_obj_ne, get?_obj_self])
  have hcontract : textField "contract_version" (store.metadata request id) = some sharedContractVersion :=
    textField_of_get? (by simp [metadata, get?_obj_self])
  have hdataset : idField "dataset_version_id" (store.metadata request id) = some request.manifest.datasetVersionId :=
    idField_of_get? (by simp [metadata, get?_obj_ne, get?_obj_self])
  have hmanifest : idField "manifest_id" (store.metadata request id) = some request.manifest.manifestId :=
    idField_of_get? (by simp [metadata, get?_obj_ne, get?_obj_self])
  have hlogical : idField "logical_content_id" (store.metadata request id) = some request.manifest.logicalContentId :=
    idField_of_get? (by simp [metadata, get?_obj_ne, get?_obj_self])
  have hdigest : digestField "written_content_digest" (store.metadata request id) =
      some (store.fromBytes request.canonicalBytes) :=
    digestField_of_get? (canonical_fromBytes ..) (by simp [metadata, get?_obj_ne, get?_obj_self])
  have hderived : store.derivedVersion (store.metadata request id) = some id := by
    rw [derivedVersion, hcontract, hdataset, hmanifest, hlogical, hdigest]
    show (store.storedVersion request).toOption = some id
    rw [hid]
    rfl
  unfold loadVersion
  rw [hfile]
  refine bind_eq_ok.mpr ⟨content, rfl, ?_⟩
  rw [hsize, ok_bind, htext]
  refine bind_eq_ok.mpr ⟨_, orRaise_eq_ok.mpr hloads, ?_⟩
  rw [← htext, hcontent]
  refine raiseIf_bind_eq_ok.mpr ⟨not_not.mpr rfl, ?_⟩
  refine raiseIf_bind_eq_ok.mpr ⟨not_not.mpr hstored, ?_⟩
  refine bind_eq_ok.mpr ⟨id, orRaise_eq_ok.mpr hderived, ?_⟩
  exact raiseIf_bind_eq_ok.mpr ⟨not_not.mpr rfl, rfl⟩

end Record

/-- A written marker reads back. -/
theorem markerOf?_body {store : LocalPhysicalDatasetStore} {m : PublicationMarker} {content : FileBytes}
    (hdigest : m.writtenContentDigest.canonical = true) (h : store.canonicalJson m.body = .ok content) :
    store.markerOf? content = some m := by
  have htext := canonicalJson_eq_ok h
  have hsorted : Json.Sorted m.body := by
    refine Json.sorted_obj ?_
    simp [Json.sorted_str]
  have hkeys : hasKeys ["consumer_visibility_state", "publication_receipt_id", "stored_version_id",
      "written_content_digest"] m.body = true := hasKeys_obj (List.Perm.refl _)
  have hvisibility : textField "consumer_visibility_state" m.body = some "COMPLETE" :=
    textField_of_get? (by simp [PublicationMarker.body, get?_obj_self])
  have hreceipt : idField "publication_receipt_id" m.body = some m.publicationReceiptId :=
    idField_of_get? (by simp [PublicationMarker.body, get?_obj_ne, get?_obj_self])
  have hversion : idField "stored_version_id" m.body = some m.storedVersionId :=
    idField_of_get? (by simp [PublicationMarker.body, get?_obj_ne, get?_obj_self])
  have hwritten : digestField "written_content_digest" m.body = some m.writtenContentDigest :=
    digestField_of_get? hdigest (by simp [PublicationMarker.body, get?_obj_ne, get?_obj_self])
  subst htext
  rw [markerOf?, Json.loads_dumps hsorted]
  simp only [Option.bind_eq_bind, Option.bind_some, hkeys, hvisibility, hreceipt, hversion, hwritten, h, not_true_eq_false,
    if_false, ne_eq, or_self, Except.toOption]

end ATB.Proof.PhysicalPersistence
