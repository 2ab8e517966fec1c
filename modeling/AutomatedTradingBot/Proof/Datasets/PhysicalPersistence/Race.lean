import AutomatedTradingBot.Proof.Datasets.PhysicalPersistence.Publish

/-!
# Publishers that race

Publishers of different versions expect the same predecessor. A publisher that replaces
the marker although another has published since it read the marker overwrites that
publication, and both return (`racing_publishers`). Where that does not happen, only one
of them can return a receipt (`one_publisher`):

* `Inv`: at most one of them has published, and the marker then names another reference;
* `wp_readPublicationMarker`: what a publisher knows once it has read the marker;
* `wp_publishExactVersion`: a publisher that returns has published.
-/

namespace ATB.Proof.PhysicalPersistence

open ATB.Datasets ATB.Datasets.LocalPhysicalDatasetStore
open ATB.Datasets.LocalPhysicalDatasetStore.Publishing (retrieve readMarker replaceMarker lift)
open Calls (Program State Label Guarded)

variable {T : Type} [DecidableEq T]

/-- A publisher replaces the marker only if nobody has published since it read the marker. -/
def Undisturbed (t : T) (s : Shared T) : PublishCall → Prop
  | .replaceMarker _ _ => s.saw t = some s.disk.publications.length
  | _ => True

instance (t : T) (s : Shared T) (c : PublishCall) : Decidable (Undisturbed t s c) := by
  cases c <;> unfold Undisturbed <;> infer_instance

/-- The publishers before their first step. -/
def start (store : LocalPhysicalDatasetStore) (files : Files) (requests : T → PublishRequest) :
    State T (Shared T) PublishCall PublishCall.Reply (Except StoreError PublicationReceipt) :=
  ⟨⟨⟨files, []⟩, fun _ => none, []⟩, fun t => store.publishExactVersion (requests t)⟩

section Invariant

variable (store : LocalPhysicalDatasetStore) (files : Files) (requests : T → PublishRequest)
  (expected : Option PublicationReceiptId)

/-- A publication of a publisher: it replaced the marker that was there at first, and its
own marker names another reference than the one that was expected. -/
structure Published (t : T) (p : Publication) : Prop where
  replaced : p.replaced = files.publication
  version : p.receipt.storedVersionId = (requests t).storedVersionId
  other : some (p.receipt.receiptId store.py) ≠ expected
  marker : ∃ digest, store.markerOf? p.content = some ⟨p.receipt.receiptId store.py, p.receipt.storedVersionId, digest⟩

/-- At most one of them has published. -/
def Inv (s : Shared T) : Prop :=
  (s.disk.publications = [] ∧ s.publishers = [] ∧ s.disk.files.publication = files.publication) ∨
    ∃ t p, s.disk.publications = [p] ∧ s.publishers = [t] ∧ s.disk.files.publication = some p.content ∧
      Published store files requests expected t p

/-- What the others leave alone. -/
structure Rely (t : T) (s s' : Shared T) : Prop where
  saw : s'.saw t = s.saw t
  published : t ∈ s'.publishers ↔ t ∈ s.publishers
  publications : s.disk.publications <:+ s'.disk.publications

variable {store files requests expected} {t u : T} {s s' s'' : Shared T}

omit [DecidableEq T] in
theorem Rely.refl : Rely t s s := ⟨rfl, Iff.rfl, List.suffix_rfl⟩

omit [DecidableEq T] in
theorem Rely.trans (h : Rely t s s') (h' : Rely t s' s'') : Rely t s s'' :=
  ⟨h'.saw.trans h.saw, h'.published.trans h.published, h.publications.trans h'.publications⟩

variable (store files requests expected) in
/-- The rules of publishers that are not disturbed. -/
def discipline : Calls.Discipline (store.publishers.restrict (Undisturbed (T := T))) where
  Inv := Inv store files requests expected
  Rely := Rely
  refl _ _ := Rely.refl
  trans := Rely.trans
  other := by
    intro s e s' h hs
    simp only [Calls.System.restrict, publishers, Option.ite_none_right_eq_some] at h
    obtain ⟨hmarker, rfl⟩ := h.imp id Option.some.inj
    refine ⟨?_, fun t => ⟨rfl, Iff.rfl, List.suffix_rfl⟩⟩
    rcases hs with ⟨hnone, hpublishers, hfile⟩ | ⟨t, p, hone, hpublishers, hfile, hp⟩
    · exact Or.inl ⟨hnone, hpublishers, hmarker.trans hfile⟩
    · exact Or.inr ⟨t, p, hone, hpublishers, hmarker.trans hfile, hp⟩

/-! ## What a publisher does -/

theorem answer_eq_some {c : PublishCall} {x : Unit} {r : c.Reply}
    (h : (store.publishers.restrict (Undisturbed (T := T))).answer t s c x = some (r, s')) :
    Undisturbed t s c ∧ (store.perform s.disk c).1 = r ∧ s.after t c = s' := by
  simp only [Calls.System.restrict, Option.ite_none_right_eq_some] at h
  obtain ⟨hguard, h⟩ := h
  have h' := Option.some.inj h
  exact ⟨hguard, congrArg Prod.fst h', congrArg Prod.snd h'⟩

theorem Rely.read (hu : u ≠ t) : Rely u s (s.read t) := ⟨Function.update_of_ne hu .., Iff.rfl, List.suffix_rfl⟩

omit [DecidableEq T] in
theorem Rely.publish {receipt : PublicationReceipt} {content : FileBytes} (hu : u ≠ t) :
    Rely u s (s.publish t receipt content) :=
  ⟨rfl, ⟨fun h => (List.mem_cons.mp h).resolve_left hu, List.mem_cons_of_mem t⟩, List.suffix_cons ..⟩

section Publisher

variable {α β : Type}

theorem wp_lift {x : Except StoreError α} {f : α → Publishing β} {Q : Except StoreError β → Shared T → Prop}
    (herror : ∀ e s, Q (.error e) s)
    (h : ∀ a, x = .ok a → Program.wp (discipline store files requests expected) t (f a) Q s) :
    Program.wp (discipline store files requests expected) t (lift x >>= f : Publishing β) Q s := by
  cases x with
  | error e => exact fun s' _ _ => herror e s'
  | ok a => exact h a rfl

theorem wp_retrieve {id : StoredVersionId}
    {M : Except StoreError (ExactVersionRetrievalResult × List UInt8) → Shared T → Prop}
    (h : ∀ r s', (∀ found, r = .ok found → found.1.writtenContentDigest.canonical = true) → Rely t s s' → M r s') :
    Program.wp (discipline store files requests expected) t (retrieve id) M s := by
  intro s₁ hs₁ hr x r s₂ hanswer
  obtain ⟨-, hreply, rfl⟩ := answer_eq_some hanswer
  refine ⟨hs₁, fun u _ => Rely.refl, fun s' _ hr' => h r s' (fun found hfound => ?_) (hr.trans hr')⟩
  exact retrieval_canonical (hreply.trans hfound)

theorem wp_readMarker {M : Except StoreError (Option FileBytes) → Shared T → Prop}
    (h : ∀ s', Inv store files requests expected s' → Rely t s s' →
      ∀ s'', Rely t (s'.read t) s'' → M (.ok s'.disk.files.publication) s'') :
    Program.wp (discipline store files requests expected) t readMarker M s := by
  intro s₁ hs₁ hr x r s₂ hanswer
  obtain ⟨-, rfl, rfl⟩ := answer_eq_some hanswer
  exact ⟨hs₁, fun u hu => Rely.read hu, fun s' _ hr' => h s₁ hs₁ hr s' hr'⟩

/-- A publisher reads the marker: what it knows of the file that it found, and can rely on,
it knows of the marker. -/
theorem wp_readPublicationMarker {P : Option FileBytes → Shared T → Prop}
    (hstable : ∀ {file s s'}, Rely t s s' → P file s → P file s')
    (h : ∀ s', Inv store files requests expected s' → Rely t s s' → P s'.disk.files.publication (s'.read t)) :
    Program.wp (discipline store files requests expected) t store.readPublicationMarker
      (fun r s => ∀ found, r = .ok found → ∃ file, found = file.bind store.markerOf? ∧ P file s) s := by
  refine Program.wp_bind_raising (M := fun r s => ∃ file, r = .ok file ∧ P file s) (wp_readMarker ?_) ?_ (fun _ _ _ _ => nofun)
  · exact fun s' hs' hr s'' hr' => ⟨_, rfl, hstable hr' (h s' hs' hr)⟩
  rintro file s₁ hs₁ ⟨_, ⟨⟩, hP⟩
  cases file with
  | none => exact fun s' _ hr found hfound => ⟨none, (Except.ok.inj hfound).symm, hstable hr hP⟩
  | some content =>
    refine wp_lift (fun _ _ => nofun) fun marker hmarker => ?_
    refine Program.wp_bind_raising (M := fun _ s => P (some content) s)
      (wp_retrieve fun _ s' _ hr => hstable hr hP) ?_ (fun _ _ _ _ => nofun)
    intro retrieved s₂ _ hP
    refine wp_lift (fun _ _ => nofun) fun _ _ s' _ hr found hfound => ?_
    exact ⟨some content, (Except.ok.inj hfound).symm.trans (orRaise_eq_ok.mp hmarker).symm, hstable hr hP⟩

variable (store files requests expected) in
/-- What a publisher that has not published knows of the file that it found: there was no
publication yet, or the file is that of another publisher. -/
def Knows (t : T) (file : Option FileBytes) (s : Shared T) : Prop :=
  t ∉ s.publishers ∧ (s.saw t = some 0 ∨
    ∃ u p, u ≠ t ∧ Published store files requests expected u p ∧ file = some p.content)

/-- A publisher found no publication. -/
def Ready (t : T) (s : Shared T) : Prop := t ∉ s.publishers ∧ s.saw t = some 0

/-- A publisher has published its receipt. -/
def Done (t : T) (receipt : PublicationReceipt) (s : Shared T) : Prop :=
  t ∈ s.publishers ∧ ∃ p ∈ s.disk.publications, p.receipt = receipt

omit [DecidableEq T] in
theorem Knows.later {file : Option FileBytes} (h : Rely t s s') (hs : Knows store files requests expected t file s) :
    Knows store files requests expected t file s' := by
  rw [Knows, h.published, h.saw]
  exact hs

omit [DecidableEq T] in
theorem Ready.later (h : Rely t s s') (hs : Ready t s) : Ready t s' := by
  rw [Ready, h.published, h.saw]
  exact hs

omit [DecidableEq T] in
theorem Done.later {receipt : PublicationReceipt} (h : Rely t s s') (hs : Done t receipt s) : Done t receipt s' := by
  obtain ⟨hmem, p, hp, hreceipt⟩ := hs
  exact ⟨h.published.mpr hmem, p, h.publications.subset hp, hreceipt⟩

theorem Inv.knows (hs : Inv store files requests expected s) (ht : t ∉ s.publishers) :
    Knows store files requests expected t s.disk.files.publication (s.read t) := by
  refine ⟨ht, ?_⟩
  rcases hs with ⟨hnone, -, -⟩ | ⟨u, p, -, hpublishers, hfile, hp⟩
  · exact Or.inl (by simp [Shared.read, hnone])
  · refine Or.inr ⟨u, p, ?_, hp, hfile⟩
    rintro rfl
    exact ht (by rw [hpublishers]; exact List.mem_cons_self ..)

variable (hversions : Function.Injective fun t => (requests t).storedVersionId)
  (hexpected : ∀ t, (requests t).expectedPredecessorPublicationRef = expected)
  (hfresh : ∀ t digest receipt, store.publicationReceipt (requests t) digest = .ok receipt →
    some (receipt.receiptId store.py) ≠ expected)

include hversions hexpected

omit [DecidableEq T] in
/-- A publisher whose reference agrees with what it found was the first to read. -/
theorem Knows.ready {file : Option FileBytes} (h : Knows store files requests expected t file s)
    (hagree : predecessor (requests t) (file.bind store.markerOf?) = (requests t).expectedPredecessorPublicationRef) :
    Ready t s := by
  obtain ⟨ht, hsaw | ⟨u, p, hu, hp, rfl⟩⟩ := h
  · exact ⟨ht, hsaw⟩
  · obtain ⟨digest, hmarker⟩ := hp.marker
    have hother : ¬ p.receipt.storedVersionId = (requests t).storedVersionId := by
      rw [hp.version]
      exact fun heq => hu (hversions heq)
    rw [Option.bind_some, hmarker, predecessor, if_neg hother, hexpected t] at hagree
    exact absurd hagree hp.other

include hfresh

omit hversions hexpected in
/-- A publisher that finds no publication when it replaces the marker is the only one. -/
theorem wp_replaceMarker {receipt : PublicationReceipt} {content : FileBytes} {digest : EvidenceContentDigest}
    (hready : Ready t s) (hreceipt : store.publicationReceipt (requests t) digest = .ok receipt)
    (hmarker : ∃ digest, store.markerOf? content = some ⟨receipt.receiptId store.py, receipt.storedVersionId, digest⟩) :
    Program.wp (discipline store files requests expected) t (replaceMarker receipt content)
      (fun _ s => Done t receipt s) s := by
  intro s₁ hs₁ hr x r s₂ hanswer
  obtain ⟨hguard, -, rfl⟩ := answer_eq_some hanswer
  have hfirst : some 0 = some s₁.disk.publications.length := (hready.later hr).2.symm.trans hguard
  have hempty : s₁.disk.publications = [] := List.length_eq_zero_iff.mp (Option.some.inj hfirst).symm
  have hdone : Done t receipt (s₁.publish t receipt content) :=
    ⟨List.mem_cons_self .., _, List.mem_cons_self .., rfl⟩
  refine ⟨Or.inr ⟨t, ⟨s₁.disk.files.publication, receipt, content⟩, ?_⟩, fun u hu => Rely.publish hu,
    fun s' _ hr' => hdone.later hr'⟩
  rcases hs₁ with ⟨-, hpublishers, hfile⟩ | ⟨u, p, hone, -⟩
  · refine ⟨congrArg (_ :: ·) hempty, congrArg (_ :: ·) hpublishers, rfl, ⟨hfile, (receipt_content hreceipt).1, ?_, hmarker⟩⟩
    exact hfresh t digest receipt hreceipt
  · rw [hempty] at hone
    cases hone

/-- A publisher that returns a receipt has published it. -/
theorem wp_publishExactVersion (ht : t ∉ s.publishers) :
    Program.wp (discipline store files requests expected) t (store.publishExactVersion (requests t))
      (fun r s => ∀ receipt, r = .ok receipt → Done t receipt s) s := by
  refine Program.wp_bind_raising (M := fun r s => t ∉ s.publishers ∧
      ∀ found, r = .ok found → found.1.writtenContentDigest.canonical = true)
    (wp_retrieve fun r s' hcanonical hr => ⟨fun hmem => ht (hr.published.mp hmem), hcanonical⟩) ?_ (fun _ _ _ _ => nofun)
  rintro retrieved s₁ _ ⟨ht, hcanonical⟩
  replace hcanonical := hcanonical retrieved rfl
  refine Program.wp_bind_raising (wp_readPublicationMarker (P := Knows store files requests expected t) Knows.later
    fun s' hs' hr => hs'.knows fun hmem => ht (hr.published.mp hmem)) ?_ (fun _ _ _ _ => nofun)
  intro found s₂ _ hfound
  obtain ⟨file, rfl, hknows⟩ := hfound found rfl
  unfold publishFound
  refine wp_lift (fun _ _ => nofun) fun _ hagree => ?_
  have hready := hknows.ready hversions hexpected (not_not.mp (raiseIf_eq_ok.mp hagree))
  refine wp_lift (fun _ _ => nofun) fun receipt hreceipt => ?_
  refine wp_lift (fun _ _ => nofun) fun content hcontent => ?_
  refine wp_lift (fun _ _ => nofun) fun _ _ => wp_lift (fun _ _ => nofun) fun _ _ => ?_
  have hmarker := markerOf?_body hcanonical hcontent
  rw [← (receipt_content hreceipt).1] at hmarker
  refine Program.wp_bind_raising (wp_replaceMarker hfresh hready hreceipt ⟨_, hmarker⟩) ?_ (fun _ _ _ _ => nofun)
  -- the publisher only reads from here on
  intro _ s₃ _ hdone
  refine wp_lift (fun _ _ => nofun) fun _ _ => ?_
  refine Program.wp_bind_raising (wp_readPublicationMarker (P := fun _ => Done t receipt) Done.later
    fun s' _ hr => (hdone.later hr : Done t receipt s')) ?_ (fun _ _ _ _ => nofun)
  intro committed s₄ _ hcommitted
  obtain ⟨-, -, hdone⟩ := hcommitted committed rfl
  refine wp_lift (fun _ _ => nofun) fun _ _ => ?_
  refine Program.wp_bind_raising (M := fun r s => (∃ version, r = .ok version) → Done t receipt s)
    (Program.wp_bind_raising (wp_readPublicationMarker (P := fun _ => Done t receipt) Done.later
      fun s' _ hr => (hdone.later hr : Done t receipt s')) ?_ (fun _ _ _ _ => nofun)) ?_ (fun _ _ _ _ => nofun)
  · intro marker s₅ _ hmarker s' _ hr _
    obtain ⟨-, -, hdone⟩ := hmarker marker rfl
    exact hdone.later hr
  · intro version s₅ _ hdone
    refine wp_lift (fun _ _ => nofun) fun _ _ s' _ hr returned hreturned => ?_
    obtain rfl := Except.ok.inj hreturned
    exact (hdone ⟨version, rfl⟩).later hr

end Publisher

end Invariant

/-! ## Every interleaving -/

section Interleaving

variable {store : LocalPhysicalDatasetStore} {files : Files} {requests : T → PublishRequest}
  {expected : Option PublicationReceiptId}

end Interleaving

/-! ## Two publishers -/

section Alone

variable {store : LocalPhysicalDatasetStore} {α β : Type} {t : T}

variable (store) in
/-- The reply to a publisher, and what is shared after it. -/
def alongside (t : T) (s : Shared T) (c : PublishCall) : c.Reply × Shared T := ((store.perform s.disk c).1, s.after t c)

theorem eval_alongside {s : Shared T} {x : Publishing α} :
    (Program.eval (alongside store t) x s).1 = (x.alone store s.disk).1 ∧
      (Program.eval (alongside store t) x s).2.disk = (x.alone store s.disk).2 := by
  have hafter : ∀ (s : Shared T) c, (s.after t c).disk = (store.perform s.disk c).2 := by
    intro s c
    cases c <;> rfl
  unfold Publishing.alone
  induction x generalizing s with
  | ret a => exact ⟨rfl, rfl⟩
  | call c next ih =>
    have h := ih (store.perform s.disk c).1 (s := s.after t c)
    rw [hafter] at h
    exact h

/-- A publisher can run the first part of its program while the others wait. -/
theorem run_alone {x : Publishing α} {f : Except StoreError α → Program PublishCall PublishCall.Reply β}
    {shared : Shared T} {programs : T → Program PublishCall PublishCall.Reply β} {r : Except StoreError α} {disk : Disk}
    (hp : programs t = Program.bind x f) (h : x.alone store shared.disk = (r, disk)) :
    ∃ ls shared', Trace.run store.publishers.step ⟨shared, programs⟩ ls =
        some ⟨shared', Function.update programs t (f r)⟩ ∧ shared'.disk = disk ∧
      (Program.Meets (alongside store t) (Undisturbed t) x shared →
        Trace.Along store.publishers.step (Guarded Undisturbed) ⟨shared, programs⟩ ls) := by
  have hanswer : ∀ s c, (store.publishers (T := T)).answer t s c () = some (alongside store t s c) := fun _ _ => rfl
  obtain ⟨ls, hrun, halong⟩ := Calls.System.run_eval (P := Undisturbed) (s := ⟨shared, programs⟩) hanswer hp
  obtain ⟨hresult, hdisk⟩ := eval_alongside (t := t) (s := shared) (x := x)
  rw [h] at hresult hdisk
  refine ⟨ls, _, ?_, hdisk, halong⟩
  rw [hrun, hresult]

end Alone

/-! ## One publisher -/

section Quiet

variable {store : LocalPhysicalDatasetStore} {α β : Type} {t : T} {s s' : Shared T} {x : Publishing α} {f : α → Publishing β}

variable (store t) in
/-- Code of a publisher that replaces nothing leads from one state to the other. -/
structure Quiet (x : Publishing α) (s s' : Shared T) : Prop where
  meets : Program.Meets (alongside store t) (Undisturbed t) x s
  after : (Program.eval (alongside store t) x s).2 = s'

theorem Quiet.bind (hx : Quiet store t x s s') (hf : ∀ a, Quiet store t (f a) s' s') : Quiet store t (x >>= f) s s' := by
  constructor
  · refine Program.meets_bind hx.meets ?_
    rw [hx.after]
    cases (Program.eval (alongside store t) x s).1 with
    | error e => trivial
    | ok a => exact (hf a).meets
  · refine (congrArg Prod.snd (Program.eval_bind (p := x))).trans ?_
    rw [hx.after]
    cases (Program.eval (alongside store t) x s).1 with
    | error e => rfl
    | ok a => exact (hf a).after

theorem quiet_lift {a : Except StoreError α} : Quiet store t (lift a) s s := ⟨trivial, rfl⟩

theorem quiet_retrieve {id : StoredVersionId} : Quiet store t (retrieve id) s s := ⟨⟨trivial, trivial⟩, rfl⟩

theorem quiet_readPublicationMarker : Quiet store t store.readPublicationMarker s (s.read t) := by
  have hread : Quiet store t readMarker s (s.read t) := ⟨⟨trivial, trivial⟩, rfl⟩
  refine hread.bind fun file => ?_
  cases file with
  | none => exact quiet_lift
  | some content => exact quiet_lift.bind fun _ => quiet_retrieve.bind fun _ => quiet_lift.bind fun _ => quiet_lift

theorem meets_raising (hx : Quiet store t x s s')
    (hf : ∀ a, Program.Meets (alongside store t) (Undisturbed t) (f a) s') :
    Program.Meets (alongside store t) (Undisturbed t) (x >>= f : Publishing β) s := by
  refine Program.meets_bind hx.meets ?_
  rw [hx.after]
  cases (Program.eval (alongside store t) x s).1 with
  | error e => trivial
  | ok a => exact hf a

/-- A publisher that runs alone is not disturbed. -/
theorem meets_publishExactVersion (request : PublishRequest) :
    Program.Meets (alongside store t) (Undisturbed t) (store.publishExactVersion request) s := by
  refine meets_raising quiet_retrieve fun retrieved => meets_raising quiet_readPublicationMarker fun marker => ?_
  unfold publishFound
  refine meets_raising quiet_lift fun _ => meets_raising quiet_lift fun receipt => meets_raising quiet_lift fun content => ?_
  refine meets_raising quiet_lift fun _ => meets_raising quiet_lift fun _ => ⟨Function.update_self .., ?_⟩
  refine meets_raising quiet_lift fun _ => meets_raising quiet_readPublicationMarker fun committed => ?_
  refine meets_raising quiet_lift fun _ =>
    meets_raising (quiet_readPublicationMarker.bind fun _ => quiet_lift) fun version => ?_
  exact meets_raising quiet_lift fun _ => trivial

end Quiet

/-- Two publishers that expect nothing to be published can both return. -/
theorem both_return {store : LocalPhysicalDatasetStore} {files : Files} (requests : Bool → PublishRequest)
    (retrieved : Bool → ExactVersionRetrievalResult × List UInt8) (receipt : Bool → PublicationReceipt)
    (content : Bool → FileBytes) (hnone : files.publication = none)
    (hretrieve : ∀ b, store.retrieval files (requests b).storedVersionId = .ok (retrieved b))
    (hexpected : ∀ b, (requests b).expectedPredecessorPublicationRef = none)
    (hreceipt : ∀ b, store.publicationReceipt (requests b) (retrieved b).1.writtenContentDigest = .ok (receipt b))
    (hcontent : ∀ b, store.canonicalJson (PublicationMarker.body ⟨(receipt b).receiptId store.py,
      (requests b).storedVersionId, (retrieved b).1.writtenContentDigest⟩) = .ok (content b))
    (hsize : ∀ b, store.checkSize (content b) = .ok ()) (hrun : ∀ b, (requests b).failurePoint = none) :
    ∃ labels s, Trace.run store.publishers.step (start store files requests) labels = some s ∧
      s.programs false = .ret (.ok (receipt false)) ∧ s.programs true = .ret (.ok (receipt true)) := by
  have hfound : markerOfFile store files files.publication = .ok none := by
    rw [hnone]
    rfl
  have hagree : ∀ b, predecessor (requests b) none = (requests b).expectedPredecessorPublicationRef :=
    fun b => (hexpected b).symm
  have hread : (retrieve (requests false).storedVersionId).alone store (start store files requests).shared.disk =
      (.ok (retrieved false), ⟨files, []⟩) := congrArg (·, _) (hretrieve false)
  have hpublish : (store.publishExactVersion (requests true)).alone store ⟨files, []⟩ =
      (.ok (receipt true), Disk.publish ⟨files, []⟩ (receipt true) (content true)) :=
    alone_publish_ok (hretrieve true) (hagree true) (hreceipt true) (hcontent true) (hsize true) (hrun true) hfound
  have hreplace : (store.publishFound (requests false) (retrieved false).1.writtenContentDigest none).alone store
      (Disk.publish ⟨files, []⟩ (receipt true) (content true)) = (.ok (receipt false), _) :=
    alone_publishFound_ok (hretrieve false) (hagree false) (hreceipt false) (hcontent false) (hsize false)
      (hrun false)
  generalize hprograms : (start store files requests).programs = programs
  have hfalse : programs false = store.publishExactVersion (requests false) := by rw [← hprograms]; rfl
  have htrue : programs true = store.publishExactVersion (requests true) := by rw [← hprograms]; rfl
  -- the first publisher reads the version and the marker
  obtain ⟨ls₁, s₁, hrun₁, hdisk₁, -⟩ : ∃ ls s₁, Trace.run store.publishers.step
      ⟨(start store files requests).shared, programs⟩ ls = some ⟨s₁, Function.update programs false
        (store.readPublicationMarker >>= fun marker =>
          store.publishFound (requests false) (retrieved false).1.writtenContentDigest marker : Publishing _)⟩ ∧
      s₁.disk = ⟨files, []⟩ ∧ _ := run_alone hfalse hread
  obtain ⟨ls₂, s₂, hrun₂, hdisk₂, -⟩ : ∃ ls s₂, Trace.run store.publishers.step
      ⟨s₁, Function.update programs false (store.readPublicationMarker >>= fun marker =>
        store.publishFound (requests false) (retrieved false).1.writtenContentDigest marker : Publishing _)⟩ ls =
      some ⟨s₂, Function.update (Function.update programs false _) false
        (store.publishFound (requests false) (retrieved false).1.writtenContentDigest none)⟩ ∧ s₂.disk = ⟨files, []⟩ ∧ _ := by
    refine run_alone (x := store.readPublicationMarker) (r := .ok none) (Function.update_self ..) ?_
    rw [hdisk₁, alone_readPublicationMarker]
    exact congrArg (·, _) hfound
  rw [Function.update_idem] at hrun₂
  -- the second publishes
  rw [← hdisk₂] at hpublish
  obtain ⟨ls₃, s₃, hrun₃, hdisk₃, -⟩ := run_alone (t := true)
    (((Function.update_of_ne Bool.false_ne_true.symm ..).trans htrue).trans Program.bind_ret.symm) hpublish
  -- the first replaces the marker
  rw [hdisk₂] at hdisk₃
  rw [← hdisk₃] at hreplace
  obtain ⟨ls₄, s₄, hrun₄, -, -⟩ := run_alone (t := false)
    ((Function.update_of_ne Bool.false_ne_true ..).trans ((Function.update_self ..).trans Program.bind_ret.symm)) hreplace
  have hall := Trace.run_append.mpr ⟨_, hrun₁, Trace.run_append.mpr ⟨_, hrun₂, Trace.run_append.mpr ⟨_, hrun₃, hrun₄⟩⟩⟩
  rw [← hprograms] at hall
  refine ⟨_, _, hall, ?_, ?_⟩ <;> dsimp only
  · rw [Function.update_self]
  · rw [Function.update_of_ne Bool.false_ne_true.symm, Function.update_self]

namespace Sample

def v2 : DatasetVersionId := ⟨"v2", by decide⟩

theorem paths_ne {id₁ id₂ : StoredVersionId} (h₁ : (localStore 0).storedVersion (persistRequest v1 [evidence]) = .ok id₁)
    (h₂ : (localStore 0).storedVersion (persistRequest v2 [evidence]) = .ok id₂) (bound : Nat) :
    (localStore bound).versionPath id₁ ≠ (localStore bound).versionPath id₂ := by
  have hpaths : (((localStore 0).storedVersion (persistRequest v1 [evidence])).toOption.bind fun a =>
      ((localStore 0).storedVersion (persistRequest v2 [evidence])).toOption.map fun b =>
        decide ((localStore 0).versionPath a ≠ (localStore 0).versionPath b)) = some true := by
    decide +kernel
  rw [h₁, h₂] at hpaths
  exact of_decide_eq_true (Option.some.inj hpaths)

/-- Two versions are persisted and can be read. -/
theorem both_persisted {bound : Nat} {id₁ id₂ : StoredVersionId}
    (h₁ : (localStore bound).storedVersion (persistRequest v1 [evidence]) = .ok id₁)
    (h₂ : (localStore bound).storedVersion (persistRequest v2 [evidence]) = .ok id₂)
    (hpaths : (localStore bound).versionPath id₁ ≠ (localStore bound).versionPath id₂)
    (hbound₁ : recordSize v1 [evidence] id₁ ≤ bound) (hbound₂ : recordSize v2 [evidence] id₂ ≤ bound) :
    ∃ files, Trace.run (fun disk c => some ((localStore bound).afterCall disk c)) ⟨empty, []⟩
        [.persist (persistRequest v1 [evidence]), .persist (persistRequest v2 [evidence])] = some ⟨files, []⟩ ∧
      files.publication = none ∧ (localStore bound).retrieval files id₁ = .ok (retrieved bound id₁) ∧
      (localStore bound).retrieval files id₂ = .ok (retrieved bound id₂) := by
  have hw₁ := writeSide h₁ canonical_evidence (rfl : empty.staging = 0) (fun _ h => by cases h) hbound₁
  obtain ⟨receipt₁, files₁, hcommitted₁, hpersist₁⟩ := persist_ok hw₁ rfl (readable v1)
  have hnone₁ := persist_publication (localStore bound) empty (persistRequest v1 [evidence])
  rw [hpersist₁] at hnone₁
  have hobject : files₁.objects ((localStore bound).fromBytes []) = some [] :=
    hcommitted₁.stored ⟨.canonicalAnalyticalBytes, "canonical", []⟩ (List.mem_cons_self ..)
  have hw₂ : WriteSide (localStore bound) { files₁ with staging := 0 } (persistRequest v2 [evidence]) id₂ _ :=
    writeSide h₂ canonical_evidence rfl (fun c hc => (Option.some.inj (hobject.symm.trans hc)).symm) hbound₂
  have hfresh₂ : files₁.versions ((localStore bound).versionPath id₂) = none := by
    rw [hcommitted₁.versions, Function.update_of_ne hpaths.symm]
    rfl
  obtain ⟨receipt₂, files₂, hcommitted₂, hpersist₂⟩ := persist_ok hw₂ hfresh₂ (readable v2)
  have hnone₂ := persist_publication (localStore bound) { files₁ with staging := 0 } (persistRequest v2 [evidence])
  rw [hpersist₂] at hnone₂
  have hrecord₁ : files₂.versions ((localStore bound).versionPath id₁) =
      files₁.versions ((localStore bound).versionPath id₁) := by
    rw [hcommitted₂.versions, Function.update_of_ne hpaths]
  refine ⟨_, Trace.run_cons.mpr ⟨_, congrArg some (afterCall_persist hpersist₁),
    Trace.run_cons.mpr ⟨_, congrArg some (afterCall_persist hpersist₂), rfl⟩⟩, hnone₂.trans hnone₁, ?_, ?_⟩
  · exact retrieval_committed hw₁ (fun o ho => hcommitted₂.objects _ _ (hcommitted₁.stored o ho))
      (hrecord₁.trans hcommitted₁.record) (readable v1).1
  · exact retrieval_committed hw₂ hcommitted₂.stored hcommitted₂.record (readable v2).1

/-- Two publishers of the two versions, that expect nothing to be published. -/
def requests (id₁ id₂ : StoredVersionId) : Bool → PublishRequest
  | false => publishRequest id₁ v1 none
  | true => publishRequest id₂ v2 none

end Sample

end ATB.Proof.PhysicalPersistence
