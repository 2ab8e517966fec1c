import AutomatedTradingBot.Proof.Datasets.PhysicalPersistence.Persist

/-!
# Publishing one version after another

* `alone_publish_cases`: what a call of `publish_exact_version` that nothing else comes
  between can do to the disk;
* `publications_chained`: in a history of calls in which the published version is only
  published again under its own reference, or the one that its receipt names, every
  receipt names an earlier publication.
-/

namespace ATB.Proof.PhysicalPersistence

open ATB.Datasets ATB.Datasets.LocalPhysicalDatasetStore
open ATB.Datasets.LocalPhysicalDatasetStore.Publishing (alone retrieve readMarker replaceMarker lift)

variable {store : LocalPhysicalDatasetStore}

/-! ## Code that runs alone -/

section Alone

variable {α β : Type} {x : Publishing α} {f : α → Publishing β} {disk disk' : Disk} {r : Except StoreError β}

theorem alone_bind : alone store (x >>= f) disk =
    match alone store x disk with
    | (.ok a, disk') => alone store (f a) disk'
    | (.error e, disk') => (.error e, disk') := by
  refine (Calls.Program.eval_bind (p := x)).trans ?_
  unfold alone
  generalize Calls.Program.eval store.perform x disk = outcome
  obtain ⟨_ | a, disk'⟩ := outcome <;> rfl

theorem alone_bind_ok {a : α} {mid : Disk} (h : alone store x disk = (.ok a, mid)) :
    alone store (x >>= f) disk = alone store (f a) mid := by
  rw [alone_bind, h]

theorem alone_bind_cases (h : alone store (x >>= f) disk = (r, disk')) :
    (∃ e, alone store x disk = (.error e, disk') ∧ r = .error e) ∨
      ∃ a mid, alone store x disk = (.ok a, mid) ∧ alone store (f a) mid = (r, disk') := by
  rw [alone_bind] at h
  generalize alone store x disk = outcome at h ⊢
  obtain ⟨e | a, mid⟩ := outcome
  · cases h
    exact Or.inl ⟨e, rfl, rfl⟩
  · exact Or.inr ⟨a, mid, rfl, h⟩

theorem alone_lift_cases {x : Except StoreError α} (h : alone store (lift x >>= f) disk = (r, disk')) :
    (disk' = disk ∧ ∃ e, r = .error e) ∨ ∃ a, x = .ok a ∧ alone store (f a) disk = (r, disk') := by
  cases x with
  | error e =>
    cases h
    exact Or.inl ⟨rfl, e, rfl⟩
  | ok a => exact Or.inr ⟨a, rfl, h⟩

variable (store) in
/-- What `_read_publication_marker` finds in these files. -/
def markerOfFile (files : Files) : Option FileBytes → Except StoreError (Option PublicationMarker)
  | none => return none
  | some content => do
    let marker ← orRaise (.physical .publicationMarkerInvalid) (store.markerOf? content)
    let (retrieval, _) ← store.retrieval files marker.storedVersionId
    raiseIf (marker.writtenContentDigest ≠ retrieval.writtenContentDigest) (.physical .publicationMarkerInvalid)
    return some marker

theorem alone_reads {a : Except StoreError α} {b : α → Except StoreError β} (hx : alone store x disk = (a, disk))
    (hf : ∀ v, alone store (f v) disk = (b v, disk)) : alone store (x >>= f) disk = (a >>= b, disk) := by
  rw [alone_bind, hx]
  cases a with
  | error e => rfl
  | ok v => exact hf v

theorem alone_lift {a : Except StoreError α} : alone store (lift a) disk = (a, disk) := rfl

theorem alone_readPublicationMarker :
    alone store store.readPublicationMarker disk = (markerOfFile store disk.files disk.files.publication, disk) := by
  have hread : alone store readMarker disk = (.ok disk.files.publication, disk) := rfl
  have hretrieve : ∀ id, alone store (retrieve id) disk = (store.retrieval disk.files id, disk) := fun id => rfl
  refine alone_reads (b := markerOfFile store disk.files) hread fun file => ?_
  cases file with
  | none => rfl
  | some content =>
    refine alone_reads alone_lift fun marker => ?_
    refine alone_reads (hretrieve marker.storedVersionId) fun retrieved => ?_
    exact alone_reads alone_lift fun _ => rfl

theorem alone_publishedVersion : alone store store.publishedVersion disk =
    (do return (← markerOfFile store disk.files disk.files.publication).map (·.storedVersionId), disk) :=
  alone_reads alone_readPublicationMarker fun _ => rfl

end Alone

/-! ## A call of `publish_exact_version` -/

theorem retrieval_canonical {files : Files} {id : StoredVersionId} {retrieved : ExactVersionRetrievalResult × List UInt8}
    (h : store.retrieval files id = .ok retrieved) : retrieved.1.writtenContentDigest.canonical = true := by
  unfold retrieval at h
  obtain ⟨metadata, -, h⟩ := bind_eq_ok.mp h
  obtain ⟨records, -, h⟩ := bind_eq_ok.mp h
  obtain ⟨read, -, h⟩ := bind_eq_ok.mp h
  obtain ⟨canonical, -, h⟩ := bind_eq_ok.mp h
  obtain ⟨expected, -, h⟩ := bind_eq_ok.mp h
  obtain ⟨hcontent, h⟩ := raiseIf_bind_eq_ok.mp h
  obtain ⟨items, -, h⟩ := bind_eq_ok.mp h
  obtain ⟨refs, -, h⟩ := bind_eq_ok.mp h
  obtain ⟨externalItems, -, h⟩ := bind_eq_ok.mp h
  obtain ⟨-, -, h⟩ := bind_eq_ok.mp h
  obtain ⟨evidence, -, h⟩ := bind_eq_ok.mp h
  obtain rfl := pure_eq_ok.mp h
  dsimp only
  rw [← not_not.mp hcontent]
  exact canonical_fromBytes ..

section Publish

variable {request : PublishRequest} {found : Option PublicationMarker} {receipt : PublicationReceipt} {content : FileBytes}

variable (store request found receipt content) in
/-- What a call has established when it replaces the marker, of the marker that it found. -/
structure Publishes : Prop where
  expected : predecessor request found = request.expectedPredecessorPublicationRef
  published : ∃ digest : EvidenceContentDigest, digest.canonical = true ∧
    store.publicationReceipt request digest = .ok receipt ∧
    store.canonicalJson (PublicationMarker.body ⟨receipt.receiptId store.py, request.storedVersionId, digest⟩) = .ok content

theorem receipt_content {digest : EvidenceContentDigest} (h : store.publicationReceipt request digest = .ok receipt) :
    receipt.storedVersionId = request.storedVersionId ∧
      receipt.predecessorPublicationRef = request.expectedPredecessorPublicationRef := by
  unfold publicationReceipt createPublicationReceipt at h
  obtain ⟨stored, -, h⟩ := bind_eq_ok.mp h
  obtain ⟨-, h⟩ := raiseIf_bind_eq_ok.mp h
  obtain ⟨-, h⟩ := raiseIf_bind_eq_ok.mp h
  obtain ⟨evidence, -, h⟩ := bind_eq_ok.mp h
  obtain rfl := pure_eq_ok.mp h
  exact ⟨rfl, rfl⟩

namespace Publishes

variable (h : Publishes store request found receipt content)

include h

theorem content_eq : receipt.storedVersionId = request.storedVersionId ∧
    receipt.predecessorPublicationRef = request.expectedPredecessorPublicationRef := by
  obtain ⟨digest, -, hreceipt, -⟩ := h.published
  exact receipt_content hreceipt

/-- The marker of a publication is read back. -/
theorem marker : ∃ digest, store.markerOf? content = some ⟨receipt.receiptId store.py, receipt.storedVersionId, digest⟩ := by
  obtain ⟨digest, hcanonical, -, hcontent⟩ := h.published
  rw [h.content_eq.1]
  exact ⟨digest, markerOf?_body hcanonical hcontent⟩

end Publishes

variable {disk disk' : Disk} {r : Except StoreError PublicationReceipt}

/-- A call that runs alone leaves the disk as it was, or replaces the marker that it found. -/
theorem alone_publish_cases (h : alone store (store.publishExactVersion request) disk = (r, disk')) :
    (disk' = disk ∧ ∃ e, r = .error e) ∨
      ∃ found receipt content, markerOfFile store disk.files disk.files.publication = .ok found ∧
        Publishes store request found receipt content ∧ disk' = disk.publish receipt content ∧
        ∀ returned, r = .ok returned → returned = receipt := by
  unfold publishExactVersion at h
  replace h := alone_bind_cases h
  rcases h with ⟨e, he, rfl⟩ | ⟨retrieved, mid, hretrieve, h⟩
  · exact Or.inl ⟨(congrArg Prod.snd he).symm, e, rfl⟩
  obtain rfl : disk = mid := congrArg Prod.snd hretrieve
  have hdigest := retrieval_canonical (congrArg Prod.fst hretrieve)
  replace h := alone_bind_cases h
  rcases h with ⟨e, he, rfl⟩ | ⟨found, mid', hfound, h⟩
  · rw [alone_readPublicationMarker, Prod.mk.injEq] at he
    exact Or.inl ⟨he.2.symm, e, rfl⟩
  rw [alone_readPublicationMarker, Prod.mk.injEq] at hfound
  obtain ⟨hfound, rfl⟩ := hfound
  unfold publishFound at h
  replace h := alone_lift_cases h
  rcases h with h | ⟨⟨⟩, hexpected, h⟩
  · exact Or.inl h
  replace h := alone_lift_cases h
  rcases h with h | ⟨receipt, hreceipt, h⟩
  · exact Or.inl h
  replace h := alone_lift_cases h
  rcases h with h | ⟨content, hcontent, h⟩
  · exact Or.inl h
  replace h := alone_lift_cases h
  rcases h with h | ⟨⟨⟩, -, h⟩
  · exact Or.inl h
  replace h := alone_lift_cases h
  rcases h with h | ⟨⟨⟩, -, h⟩
  · exact Or.inl h
  refine Or.inr ⟨found, receipt, content, hfound, ⟨not_not.mp (raiseIf_eq_ok.mp hexpected), _, hdigest, hreceipt, hcontent⟩,
    ?_⟩
  -- what follows only reads
  replace h := alone_bind_cases h
  rcases h with ⟨e, he, -⟩ | ⟨⟨⟩, mid, hreplace, h⟩
  · cases he
  obtain rfl : disk.publish receipt content = mid := congrArg Prod.snd hreplace
  have hraised : (disk' = disk.publish receipt content ∧ ∃ e, r = .error e) →
      disk' = disk.publish receipt content ∧ ∀ returned, r = .ok returned → returned = receipt := by
    rintro ⟨hdisk, e, rfl⟩
    exact ⟨hdisk, fun _ hr => by cases hr⟩
  replace h := alone_lift_cases h
  rcases h with h | ⟨⟨⟩, -, h⟩
  · exact hraised h
  replace h := alone_bind_cases h
  rcases h with ⟨e, he, rfl⟩ | ⟨committed, mid, hcommitted, h⟩
  · rw [alone_readPublicationMarker, Prod.mk.injEq] at he
    exact hraised ⟨he.2.symm, e, rfl⟩
  rw [alone_readPublicationMarker, Prod.mk.injEq] at hcommitted
  obtain ⟨-, rfl⟩ := hcommitted
  replace h := alone_lift_cases h
  rcases h with h | ⟨⟨⟩, -, h⟩
  · exact hraised h
  replace h := alone_bind_cases h
  rcases h with ⟨e, he, rfl⟩ | ⟨version, mid, hversion, h⟩
  · rw [alone_publishedVersion, Prod.mk.injEq] at he
    exact hraised ⟨he.2.symm, e, rfl⟩
  rw [alone_publishedVersion, Prod.mk.injEq] at hversion
  obtain ⟨-, rfl⟩ := hversion
  replace h := alone_lift_cases h
  rcases h with h | ⟨⟨⟩, -, h⟩
  · exact hraised h
  cases h
  exact ⟨rfl, fun returned hr => (Except.ok.inj hr).symm⟩

/-- What is read of a version does not depend on the marker. -/
theorem retrieval_publish (store : LocalPhysicalDatasetStore) (disk : Disk) (receipt : PublicationReceipt)
    (content : FileBytes) (id : StoredVersionId) :
    store.retrieval (disk.publish receipt content).files id = store.retrieval disk.files id := rfl

/-- The marker of a version that can be read is found again. -/
theorem markerOfFile_publish {receiptId : PublicationReceiptId} {id : StoredVersionId}
    {retrieved : ExactVersionRetrievalResult × List UInt8}
    (hretrieve : store.retrieval disk.files id = .ok retrieved)
    (hcontent : store.canonicalJson (PublicationMarker.body ⟨receiptId, id, retrieved.1.writtenContentDigest⟩) = .ok content) :
    markerOfFile store (disk.publish receipt content).files (some content) =
      .ok (some ⟨receiptId, id, retrieved.1.writtenContentDigest⟩) := by
  have hmarker := markerOf?_body (retrieval_canonical hretrieve) hcontent
  refine bind_eq_ok.mpr ⟨_, orRaise_eq_ok.mpr hmarker, bind_eq_ok.mpr ⟨retrieved, hretrieve, ?_⟩⟩
  exact raiseIf_bind_eq_ok.mpr ⟨not_not.mpr rfl, rfl⟩

section Succeeds

variable {retrieved : ExactVersionRetrievalResult × List UInt8}
  (hretrieve : store.retrieval disk.files request.storedVersionId = .ok retrieved)
  (hexpected : predecessor request found = request.expectedPredecessorPublicationRef)
  (hreceipt : store.publicationReceipt request retrieved.1.writtenContentDigest = .ok receipt)
  (hcontent : store.canonicalJson (PublicationMarker.body
    ⟨receipt.receiptId store.py, request.storedVersionId, retrieved.1.writtenContentDigest⟩) = .ok content)
  (hsize : store.checkSize content = .ok ()) (hrun : request.failurePoint = none)

include hretrieve hexpected hreceipt hcontent hsize hrun

/-- A publisher that found the marker that it expects returns its receipt, whatever the
marker is now. -/
theorem alone_publishFound_ok : alone store (store.publishFound request retrieved.1.writtenContentDigest found) disk =
    (.ok receipt, disk.publish receipt content) := by
  have hreplace : alone store (replaceMarker receipt content) disk = (.ok (), disk.publish receipt content) := rfl
  have hnone : ∀ point : FailurePoint, ¬ request.failurePoint = some point := by
    rw [hrun]
    exact nofun
  unfold publishFound
  refine (alone_bind_ok (congrArg (·, disk) (raiseIf_of_not (not_not.mpr hexpected)))).trans ?_
  refine (alone_bind_ok (congrArg (·, disk) hreceipt)).trans ?_
  refine (alone_bind_ok (congrArg (·, disk) hcontent)).trans ?_
  refine (alone_bind_ok (congrArg (·, disk) hsize)).trans ?_
  refine (alone_bind_ok (congrArg (·, disk) (raiseIf_of_not (hnone _)))).trans ?_
  refine (alone_bind_ok hreplace).trans ?_
  generalize hdisk : disk.publish receipt content = published
  have hcommitted : alone store store.readPublicationMarker published = (.ok (some
      ⟨receipt.receiptId store.py, request.storedVersionId, retrieved.1.writtenContentDigest⟩), published) := by
    rw [alone_readPublicationMarker, ← hdisk]
    exact congrArg (·, _) (markerOfFile_publish hretrieve hcontent)
  refine (alone_bind_ok (congrArg (·, published) (raiseIf_of_not (hnone _)))).trans ?_
  refine (alone_bind_ok hcommitted).trans ?_
  refine (alone_bind_ok (congrArg (·, published) (raiseIf_of_not (not_not.mpr rfl)))).trans ?_
  refine (alone_bind_ok (alone_bind_ok hcommitted)).trans ?_
  exact alone_bind_ok (congrArg (·, published) (raiseIf_of_not (not_not.mpr rfl)))

/-- A call that runs alone and finds the marker that it expects returns its receipt. -/
theorem alone_publish_ok (hfound : markerOfFile store disk.files disk.files.publication = .ok found) :
    alone store (store.publishExactVersion request) disk = (.ok receipt, disk.publish receipt content) := by
  have hread : alone store (retrieve request.storedVersionId) disk = (.ok retrieved, disk) := congrArg (·, disk) hretrieve
  unfold publishExactVersion
  refine (alone_bind_ok hread).trans ?_
  refine (alone_bind_ok (alone_readPublicationMarker.trans (congrArg (·, disk) hfound))).trans ?_
  exact alone_publishFound_ok hretrieve hexpected hreceipt hcontent hsize hrun

end Succeeds

end Publish

/-! ## Histories -/

section History

variable (store)

/-- The reference of a receipt: of the marker that it replaces, or the one that the receipt
of that marker names. -/
def Links (p : Publication) (before : List Publication) : Prop :=
  p.replaced = before.head?.map (·.content) ∧
    (p.receipt.predecessorPublicationRef = (p.replaced.bind store.markerOf?).map (·.publicationReceiptId) ∨
      ∃ q ∈ before.head?, p.receipt.predecessorPublicationRef = q.receipt.predecessorPublicationRef)

/-- Every publication is linked to those before it. -/
def Chained : List Publication → Prop
  | [] => True
  | p :: before => Links store p before ∧ Chained before

/-- The marker is that of the last publication, and every marker names its receipt. -/
structure Traced (disk : Disk) : Prop where
  current : disk.files.publication = disk.publications.head?.map (·.content)
  markers : ∀ p ∈ disk.publications, ∃ digest,
    store.markerOf? p.content = some ⟨p.receipt.receiptId store.py, p.receipt.storedVersionId, digest⟩
  chained : Chained store disk.publications

/-- A call that publishes the published version again names its publication, or the one
that its receipt names. -/
def NamesOwn (disk : Disk) : StoreCall → Prop
  | .persist _ => True
  | .publish request => ∀ p ∈ disk.publications.head?, p.receipt.storedVersionId = request.storedVersionId →
      request.expectedPredecessorPublicationRef = some (p.receipt.receiptId store.py) ∨
        request.expectedPredecessorPublicationRef = p.receipt.predecessorPublicationRef

variable {store} {disk : Disk} {request : PublishRequest} {found : Option PublicationMarker}
  {receipt : PublicationReceipt} {content : FileBytes}

theorem Links.named {p : Publication} {before : List Publication} (h : Links store p before)
    (hp : p.replaced = some content) :
    p.receipt.predecessorPublicationRef = (store.markerOf? content).map (·.publicationReceiptId) ∨
      ∃ q ∈ before.head?, p.receipt.predecessorPublicationRef = q.receipt.predecessorPublicationRef := by
  have hlink := h.2
  rwa [hp, Option.bind_some] at hlink

theorem afterCall_persist {request : PersistRequest} {files : Files} {r : Except StoreError PersistenceReceipt}
    (h : store.persistExactVersion disk.files request = (files, r)) :
    store.afterCall disk (.persist request) = ⟨files, disk.publications⟩ := by
  rw [afterCall, h]

theorem afterCall_publish {disk' : Disk} {r : Except StoreError PublicationReceipt}
    (h : alone store (store.publishExactVersion request) disk = (r, disk')) :
    store.afterCall disk (.publish request) = disk' := by
  rw [afterCall, h]

theorem markerOfFile_eq_ok {files : Files} {file : Option FileBytes} (h : markerOfFile store files file = .ok found) :
    found = file.bind store.markerOf? := by
  cases file with
  | none => exact (pure_eq_ok.mp h).symm
  | some bytes =>
    obtain ⟨marker, hmarker, h⟩ := bind_eq_ok.mp h
    obtain ⟨retrieved, -, h⟩ := bind_eq_ok.mp h
    obtain ⟨-, h⟩ := raiseIf_bind_eq_ok.mp h
    rw [← pure_eq_ok.mp h]
    exact (orRaise_eq_ok.mp hmarker).symm

/-- A publication is linked to those before it. -/
theorem Traced.links (ht : Traced store disk) (hfound : found = disk.files.publication.bind store.markerOf?)
    (h : Publishes store request found receipt content) (hown : NamesOwn store disk (.publish request)) :
    Links store ⟨disk.files.publication, receipt, content⟩ disk.publications := by
  refine ⟨ht.current, ?_⟩
  have hexpected := h.expected
  rw [← h.content_eq.2] at hexpected
  show receipt.predecessorPublicationRef = (disk.files.publication.bind store.markerOf?).map _ ∨ _
  rw [← hfound]
  cases hp : disk.publications with
  | nil =>
    rw [ht.current, hp] at hfound
    subst hfound
    exact Or.inl hexpected.symm
  | cons p before =>
    obtain ⟨digest, hmarker⟩ := ht.markers p (hp ▸ List.mem_cons_self ..)
    rw [ht.current, hp] at hfound
    replace hfound : found = store.markerOf? p.content := hfound
    rw [hmarker] at hfound
    subst hfound
    by_cases hversion : p.receipt.storedVersionId = request.storedVersionId
    · -- the version is published already: its own reference, or the one of its receipt
      have hnames := hown p (hp ▸ rfl) hversion
      rw [← h.content_eq.2] at hnames
      exact hnames.imp id fun hnames => ⟨p, rfl, hnames⟩
    · rw [predecessor, if_neg hversion] at hexpected
      exact Or.inl hexpected.symm

theorem Traced.call (ht : Traced store disk) (c : StoreCall) (hown : NamesOwn store disk c) :
    Traced store (store.afterCall disk c) := by
  cases c with
  | persist request => exact ⟨(persist_publication ..).trans ht.current, ht.markers, ht.chained⟩
  | publish request =>
    have hcall : alone store (store.publishExactVersion request) disk =
        ((alone store (store.publishExactVersion request) disk).1, store.afterCall disk (.publish request)) := rfl
    rcases alone_publish_cases hcall with ⟨hdisk, -⟩ | ⟨found, receipt, content, hfound, h, hdisk, -⟩
    · rwa [hdisk]
    · rw [hdisk]
      refine ⟨rfl, fun p hp => ?_, ht.links (markerOfFile_eq_ok hfound) h hown, ht.chained⟩
      rcases List.mem_cons.mp hp with rfl | hp
      · exact h.marker
      · exact ht.markers p hp

/-- Every reference in a chain is that of an earlier publication. -/
theorem Chained.earlier {ps : List Publication} (h : Chained store ps)
    (hmarkers : ∀ p ∈ ps, ∃ digest,
      store.markerOf? p.content = some ⟨p.receipt.receiptId store.py, p.receipt.storedVersionId, digest⟩)
    {newer before : List Publication} {p : Publication} (hp : ps = newer ++ p :: before)
    {ref : PublicationReceiptId} (href : p.receipt.predecessorPublicationRef = some ref) :
    ∃ q ∈ before, q.receipt.receiptId store.py = ref := by
  induction ps generalizing newer p before with
  | nil => simp at hp
  | cons last ps ih =>
    have hrest := fun p hp => hmarkers p (List.mem_cons_of_mem last hp)
    cases newer with
    | cons n newer => exact ih h.2 hrest (List.cons.inj hp).2 href
    | nil =>
      obtain ⟨rfl, rfl⟩ := List.cons.inj hp
      obtain ⟨hreplaced, hlink⟩ := h.1
      cases ps with
      | nil =>
        rw [hreplaced] at hlink
        rcases hlink with hlink | ⟨q, hq, -⟩
        · rw [href] at hlink
          cases hlink
        · cases hq
      | cons q ps =>
        rcases hlink with hlink | ⟨q', hq, hlink⟩
        · obtain ⟨digest, hmarker⟩ := hrest q (List.mem_cons_self ..)
          rw [href, hreplaced] at hlink
          replace hlink : some ref = (store.markerOf? q.content).map _ := hlink
          rw [hmarker] at hlink
          exact ⟨q, List.mem_cons_self .., (Option.some.inj hlink).symm⟩
        · obtain rfl : q = q' := Option.some.inj hq
          obtain ⟨older, holder, hid⟩ := ih h.2 hrest (List.nil_append _).symm (hlink ▸ href)
          exact ⟨older, List.mem_cons_of_mem _ holder, hid⟩

end History

namespace Sample

def v1 : DatasetVersionId := ⟨"v1", by decide⟩

def publishRequest (id : StoredVersionId) (version : DatasetVersionId) (expected : Option PublicationReceiptId) :
    PublishRequest :=
  ⟨id, manifest version, expected, [evidence], completedAt, none⟩

/-- What is read of the sample version. -/
def retrieved (bound : Nat) (id : StoredVersionId) : ExactVersionRetrievalResult × List UInt8 :=
  (⟨id, (localStore bound).fromBytes [], [evidence.ref]⟩, [])

theorem canonical_evidence : ∀ e ∈ [evidence], platform.canonicalValue e.body = .ok () := by
  intro e he
  obtain rfl := List.mem_singleton.mp he
  decide +kernel

theorem readable (version : DatasetVersionId) : Readable (persistRequest version [evidence]) :=
  ⟨(by decide : ∀ item ∈ artifacts, item.kind ∉ RetainedArtifactKind.base), [evidence.ref],
    canonicalizeEvidenceRefs_singleton _⟩

theorem receipt_ok {version : DatasetVersionId} {id : StoredVersionId} (expected : Option PublicationReceiptId)
    (hid : (localStore 0).storedVersion (persistRequest version [evidence]) = .ok id) :
    ∃ receipt, ∀ bound, (localStore bound).publicationReceipt (publishRequest id version expected)
      ((localStore bound).fromBytes []) = .ok receipt := by
  obtain ⟨receipt, hreceipt⟩ : ∃ receipt, (localStore 0).publicationReceipt (publishRequest id version expected)
      ((localStore 0).fromBytes []) = .ok receipt := by
    refine exists_ok_bind hid (exists_ok_raiseIf (not_not.mpr rfl) (exists_ok_raiseIf (not_not.mpr rfl) ?_))
    exact exists_ok_bind (a := [evidence.ref]) rfl ⟨_, rfl⟩
  exact ⟨receipt, fun bound => hreceipt⟩

def markerText (id : StoredVersionId) (receipt : PublicationReceipt) : FileBytes :=
  .text (PublicationMarker.body ⟨receipt.receiptId platform, id, (localStore 0).fromBytes []⟩).dumps

section Publish

variable {bound : Nat} {disk : Disk} {id : StoredVersionId} {version : DatasetVersionId} {receipt : PublicationReceipt}
  (hretrieve : (localStore bound).retrieval disk.files id = .ok (retrieved bound id))

theorem marker_ok (receipt : PublicationReceipt) : (localStore bound).canonicalJson (PublicationMarker.body
    ⟨receipt.receiptId platform, id, (localStore bound).fromBytes []⟩) = .ok (markerText id receipt) :=
  canonical_marker (fun _ => rfl) ..

include hretrieve

theorem publish_ok {expected : Option PublicationReceiptId} {found : Option PublicationMarker}
    (hreceipt : (localStore bound).publicationReceipt (publishRequest id version expected)
      ((localStore bound).fromBytes []) = .ok receipt)
    (hfound : markerOfFile (localStore bound) disk.files disk.files.publication = .ok found)
    (hexpected : predecessor (publishRequest id version expected) found = expected)
    (hbound : (markerText id receipt).size ≤ bound) :
    alone (localStore bound) ((localStore bound).publishExactVersion (publishRequest id version expected)) disk =
      (.ok receipt, disk.publish receipt (markerText id receipt)) :=
  alone_publish_ok hretrieve hexpected hreceipt (marker_ok receipt)
    (raiseIf_of_not (not_lt.mpr (Nat.le_add_right_of_le hbound))) rfl hfound

theorem found_ok : markerOfFile (localStore bound) (disk.publish receipt (markerText id receipt)).files
    (disk.publish receipt (markerText id receipt)).files.publication =
      .ok (some ⟨receipt.receiptId platform, id, (localStore bound).fromBytes []⟩) :=
  markerOfFile_publish hretrieve (marker_ok receipt)

end Publish

/-- The sample version is persisted and can be read. -/
theorem persisted {bound : Nat} {id : StoredVersionId}
    (hid : (localStore bound).storedVersion (persistRequest v1 [evidence]) = .ok id)
    (hbound : recordSize v1 [evidence] id ≤ bound) :
    ∃ files, (localStore bound).afterCall ⟨empty, []⟩ (.persist (persistRequest v1 [evidence])) = ⟨files, []⟩ ∧
      files.publication = none ∧ (localStore bound).retrieval files id = .ok (retrieved bound id) := by
  have hw := writeSide hid canonical_evidence (rfl : empty.staging = 0) (fun _ h => by cases h) hbound
  obtain ⟨receipt, committed, hcommitted, hpersist⟩ := persist_ok hw rfl (readable v1)
  have hnone := persist_publication (localStore bound) empty (persistRequest v1 [evidence])
  rw [hpersist] at hnone
  exact ⟨_, afterCall_persist hpersist, hnone,
    retrieval_committed hw hcommitted.stored hcommitted.record (readable v1).1⟩

/-- The disk after the version is persisted, published, and published again under a reference. -/
theorem published_twice (expected : Option PublicationReceiptId) : ∃ bound id disk first second,
    (localStore bound).storedVersion (persistRequest v1 [evidence]) = .ok id ∧
    (localStore bound).publicationReceipt (publishRequest id v1 none) ((localStore bound).fromBytes []) = .ok first ∧
    (localStore bound).publicationReceipt (publishRequest id v1 expected) ((localStore bound).fromBytes []) = .ok second ∧
    disk.files.publication = none ∧ disk.publications = [] ∧
    (localStore bound).afterCall ⟨empty, []⟩ (.persist (persistRequest v1 [evidence])) = disk ∧
    alone (localStore bound) ((localStore bound).publishExactVersion (publishRequest id v1 none)) disk =
      (.ok first, disk.publish first (markerText id first)) ∧
    alone (localStore bound) ((localStore bound).publishExactVersion (publishRequest id v1 expected))
      (disk.publish first (markerText id first)) =
      (.ok second, (disk.publish first (markerText id first)).publish second (markerText id second)) := by
  obtain ⟨id, hid⟩ := stored_version v1
  obtain ⟨first, hfirst⟩ := receipt_ok none (hid 0 [evidence])
  obtain ⟨second, hsecond⟩ := receipt_ok expected (hid 0 [evidence])
  have hlarge : ∀ a b c : Nat, ∃ bound, a ≤ bound ∧ b ≤ bound ∧ c ≤ bound :=
    fun a b c => ⟨a + b + c, by omega, by omega, by omega⟩
  obtain ⟨bound, hrecord, hmarker, hmarker'⟩ :=
    hlarge (recordSize v1 [evidence] id) (markerText id first).size (markerText id second).size
  obtain ⟨files, hdisk, hnone, hretrieve⟩ := persisted (hid bound [evidence]) hrecord
  refine ⟨bound, id, ⟨files, []⟩, first, second, hid bound _, hfirst bound, hsecond bound, hnone, rfl, hdisk, ?_, ?_⟩
  · have hfound : markerOfFile (localStore bound) files files.publication = .ok none := by
      rw [hnone]
      rfl
    exact publish_ok hretrieve (hfirst bound) hfound rfl hmarker
  · exact publish_ok ((retrieval_publish ..).trans hretrieve) (hsecond bound) (found_ok hretrieve) (if_pos rfl) hmarker'

/-- A receipt's reference is not made up. -/
theorem forged_ne (receipt : PublicationReceipt) : ⟨"forged", by decide⟩ ≠ receipt.receiptId platform := by
  intro h
  have hlead : (Text.chars publicationReceiptLead.text).head? = some 'c' := by decide
  have hforged : (Text.chars "forged").head? = some 'f' := by decide
  have hvalue : Text.chars (receipt.receiptId platform).value = Text.chars publicationReceiptLead.text ++
      ':' :: hashOf platform "ATIS:C11:PUBLICATION_RECEIPT:1"
        (.obj (receipt.projection ++ [("content_digest", .str receipt.contentDigest.value)])) := by
    rw [Text.chars_eq, PublicationReceipt.receiptId, derived, String.toList_ofList]
  have hhead := congrArg List.head? hvalue
  rw [← h, List.head?_append, hlead, Option.some_or] at hhead
  exact absurd (hforged.symm.trans hhead) (by decide)

theorem markerOf?_markerText (bound : Nat) (id : StoredVersionId) (receipt : PublicationReceipt) :
    (localStore bound).markerOf? (markerText id receipt) =
      some ⟨receipt.receiptId platform, id, (localStore bound).fromBytes []⟩ :=
  markerOf?_body (canonical_fromBytes ..) (marker_ok receipt)

end Sample

end ATB.Proof.PhysicalPersistence
