import AutomatedTradingBot.Proof.Evidence
import AutomatedTradingBot.Proof.OperatorConsole.Codec

/-!
# Snapshots of one observation

The identity of an observation binds the digest of its canonical evidence references,
and the bytes of a snapshot hold the references as they are given.

* `items_of_identityText`: what an identity says of the bytes;
* `observation_bytes`: two snapshots of an observation have the same bytes when their
  references are in the same order, and are in conflict otherwise;
* `reordered_evidence`: two snapshots of an observation with different bytes.
-/

namespace ATB.Proof.OperatorConsole

open ATB.OperatorConsole
open Datasets (AttributedRef)
open Json (obj obj_inj)
open Ascii (dumpsAscii_inj)
open Canonical (hexdigest_inj)
open Stage5 (dumpsAscii)
open Durable

variable {py : Platform} {s s' : ReconciliationSnapshot} {t t' : Timestamp}

/-- The hashes of the two identities do not collide. -/
def CollisionFree (py : Platform) (o o' : Observation) : Prop :=
  py.sha256 (identityText o) = py.sha256 (identityText o') → identityText o = identityText o'

theorem identityText_eq (h : Valid py s t) (h' : Valid py s' t') (hid : s.observationId = s'.observationId)
    (hfree : CollisionFree py s.toObservation s'.toObservation) :
    identityText s.toObservation = identityText s'.toObservation := by
  rw [observationId_of_valid h, observationId_of_valid h'] at hid
  exact hfree (hexdigest_inj ((String.append_right_inj _).mp hid))

theorem body_injective : Function.Injective AttributedRef.body := fun e e' h => by
  have he := parseEvidenceRef_body e
  rw [h, parseEvidenceRef_body] at he
  exact (Option.some.inj he).symm

/-- All but the references of a valid snapshot is said by its identity. -/
theorem items_of_identityText (h : Valid py s t) (h' : Valid py s' t') (hid : s.observationId = s'.observationId)
    (htext : identityText s.toObservation = identityText s'.toObservation) (hrefs : s.evidenceRefs = s'.evidenceRefs) :
    items s = items s' := by
  have hbody : obj (bodyKeys.zip (bodyValues s.toObservation)) = obj (bodyKeys.zip (bodyValues s'.toObservation)) :=
    dumpsAscii_inj (sorted_body _) (sorted_body _) htext
  have hvalues := obj_inj bodyKeys (by decide) (bodyValues s.toObservation) (bodyValues s'.toObservation) rfl rfl hbody
  simp only [bodyValues, List.cons.injEq, Json.str.injEq, Json.arr.injEq] at hvalues
  obtain ⟨hcodes, hdigest, hobserved, hperformance, hproduced, hstate, -, -, -, hrun, -⟩ := hvalues
  have hfresh : s.freshnessState = s'.freshnessState := by cases s.freshnessState; cases s'.freshnessState; rfl
  simp only [items, hcodes, hdigest, hobserved, hperformance, hproduced, hstate, hrun, hrefs, hid, hfresh, h.schema, h'.schema,
    h.authority, h'.authority, h.simulation, h'.simulation, h.trading, h'.trading]

theorem canonicalBytes_eq_iff (h : Valid py s t) (h' : Valid py s' t') (hid : s.observationId = s'.observationId)
    (hfree : CollisionFree py s.toObservation s'.toObservation) :
    s.canonicalBytes = s'.canonicalBytes ↔ s.evidenceRefs = s'.evidenceRefs := by
  rw [canonicalBytes_of_valid h, canonicalBytes_of_valid h', Except.ok.injEq]
  constructor
  · intro hbytes
    have hobj := dumpsAscii_inj (sorted_items s) (sorted_items s') hbytes
    have hrefs : (obj (items s)).get? "evidence_refs" = some (.arr (s.evidenceRefs.map AttributedRef.body)) :=
      get?_items (by simp [items])
    have hrefs' : (obj (items s')).get? "evidence_refs" = some (.arr (s'.evidenceRefs.map AttributedRef.body)) :=
      get?_items (by simp [items])
    rw [hobj, hrefs', Option.some.injEq, Json.arr.injEq] at hrefs
    exact (List.map_injective_iff.mpr body_injective hrefs).symm
  · intro hrefs
    rw [items_of_identityText h h' hid (identityText_eq h h' hid hfree) hrefs]

/-! ## The store -/

/-- Any operation ends somehow. -/
theorem wp_any {S ε α : Type} (x : Operation S ε α) (s : S) : wp x (post (fun _ _ => True) fun _ => True) s := by
  refine ⟨fun n => ?_⟩
  cases (x s n).1 with
  | ok a => trivial
  | error e => trivial

theorem commitPublication_state {raw : Bytes} {pointer : Pointer}
    {result : PublicationState → Bool → Option String → String → PublicationResult}
    (hresult : ∀ state committed file detail, (result state committed file detail).state = state) (files : StoreFiles) :
    wp (commitPublication py raw pointer result) (post (fun r _ => r.state ≠ .conflict) fun _ => True) files := by
  unfold commitPublication
  refine wp_get_bind ?_
  dsimp only
  split
  on_goal 1 => refine wp_bind (wp_any _ _) fun _ files _ => ?_
  all_goals
    refine wp_bind (wp_any _ _) fun written files _ => wp_bind (wp_any _ _) fun _ files _ => ?_
    refine wp_bind (wp_any _ _) fun _ files _ => wp_bind (wp_any _ _) fun _ files _ => ?_
    refine wp_bind (wp_any _ _) fun replaced files _ => wp_bind (wp_any _ _) fun _ files _ => ?_
    refine wp_bind (wp_any _ _) fun version files _ => wp_bind (wp_any _ _) fun _ files _ => ?_
    refine wp_bind (wp_any _ _) fun confirmed files _ => ?_
    cases confirmed with
    | true => exact wp_pure (by rw [hresult]; decide)
    | false => exact wp_pure (by rw [hresult]; decide)

/-- Where a version of the observation is stored, a publication is in conflict when its bytes are others. -/
theorem publish_state {files : StoreFiles} {raw raw' : Bytes} {now published : Timestamp}
    (hraw' : s'.canonicalBytes = .ok raw')
    (hstored : Dict.get? (versionName py s'.observationId) files.versions = some raw) :
    wp (publish py s' now published) (post (fun r _ => r.state = .conflict ↔ raw ≠ raw') fun _ => True) files := by
  unfold publish
  refine wp_check_bind trivial fun _ _ => wp_check_bind trivial fun _ _ => wp_check_bind trivial fun bytes hbytes => ?_
  obtain rfl : bytes = raw' := by
    rw [hraw'] at hbytes
    exact (Except.ok.inj hbytes).symm
  refine wp_check_bind trivial fun _ hsize => ?_
  dsimp only
  refine wp_get_bind ?_
  rw [hstored]
  dsimp only
  have hsize : bytes.length ≤ maxSnapshotBytes := Nat.not_lt.mp (raiseIf_eq_ok.mp hsize)
  rcases hread : readBounded (some raw) maxSnapshotBytes with e | existing
  · -- the stored bytes are longer than any publication
    refine wp_pure ⟨fun _ heq => ?_, fun _ => rfl⟩
    rw [heq, readBounded, orRaise, ok_bind, raiseIf_of_not (Nat.not_lt.mpr hsize)] at hread
    cases hread
  · obtain ⟨_, hsome, hread⟩ := bind_eq_ok.mp hread
    obtain ⟨-, hread⟩ := raiseIf_bind_eq_ok.mp hread
    cases hread
    cases hsome
    dsimp only
    split
    · next hne => exact wp_pure ⟨fun _ => hne, fun _ => rfl⟩
    · next heq =>
      have hnot : ∀ r : PublicationResult, r.state ≠ .conflict → (r.state = .conflict ↔ raw ≠ bytes) :=
        fun r hr => ⟨fun h => absurd h hr, fun h => absurd (not_not.mp heq) h⟩
      split
      · refine wp_bind (wp_any _ _) fun current files _ => wp_bind (wp_any _ _) fun _ files _ => ?_
        split
        · exact wp_pure (hnot _ PublicationState.noConfusion)
        · exact wp_mono (commitPublication_state (fun _ _ _ _ => rfl) files) (fun r _ hr => hnot r hr) fun _ h => h
      · exact wp_mono (commitPublication_state (fun _ _ _ _ => rfl) _) (fun r _ hr => hnot r hr) fun _ h => h

/-- Two valid snapshots of one observation have the same bytes when their references are the same list, and a store that
holds the one takes the other for a conflict when they are not. -/
theorem observation_bytes (h : validateSnapshot py s t = .ok ()) (h' : validateSnapshot py s' t' = .ok ())
    (hid : s.observationId = s'.observationId) (hfree : CollisionFree py s.toObservation s'.toObservation) :
    (s.canonicalBytes = s'.canonicalBytes ↔ s.evidenceRefs = s'.evidenceRefs) ∧
      ∀ raw files now published n result, s.canonicalBytes = .ok raw →
        Dict.get? (versionName py s.observationId) files.versions = some raw →
        ((publish py s' now published).run files n).1 = .ok result →
        (result.state ≠ .conflict ↔ s.evidenceRefs = s'.evidenceRefs) := by
  have hvalid := validateSnapshot_eq_ok.mp h
  have hvalid' := validateSnapshot_eq_ok.mp h'
  have hiff := canonicalBytes_eq_iff hvalid hvalid' hid hfree
  refine ⟨hiff, fun raw files now published n result hraw hstored hresult => ?_⟩
  have hstate : result.state = .conflict ↔ raw ≠ dumpsAscii (obj (items s')) :=
    run_of_ok (publish_state (canonicalBytes_of_valid hvalid') (hid ▸ hstored)) hresult
  rw [← hiff, hraw, canonicalBytes_of_valid hvalid', Except.ok.injEq, ne_eq, hstate, not_not]

/-! ## Two orders of one evidence -/

theorem isObservationId_hexdigest (py : Platform) (text : Bytes) :
    isObservationId (observationLead ++ py.hexdigest text) = true := by
  have hafter : Text.after? observationLead.toList (observationLead.toList ++ Uuid.hexChars 64 (py.sha256 text)) =
      some (Uuid.hexChars 64 (py.sha256 text)) := Text.after?_eq_some.mpr rfl
  have hhex : (Uuid.hexChars 64 (py.sha256 text)).all Text.isLowerHex = true :=
    List.all_eq_true.mpr fun c hc => Uuid.isLowerHex_of_mem_hexChars hc
  simp only [isObservationId, Text.fullmatch, Text.chars_eq, String.toList_append, Platform.hexdigest, String.toList_ofList,
    hafter, hhex, Uuid.length_hexChars, le_refl, decide_true, Bool.and_self]

namespace Sample

local instance neZero_digests : NeZero (2 ^ 256) := inferInstance

def ordersRef : Instruments.EvidenceRef :=
  ⟨"source:atis/broker", "dataset:atis/orders", "evidence:atis/orders",
    ⟨"sha256:fed53ee6b0ddd474f9f2d93dfdb7c00321eb6538ec02a4572f6b986724403584"⟩⟩

def fillsRef : Instruments.EvidenceRef :=
  ⟨"source:atis/broker", "dataset:atis/fills", "evidence:atis/fills",
    ⟨"sha256:5b9f45cfe85bb8dccbe042aadc887f928cba25e9241dcc0442c85e8f8d0c49e9"⟩⟩

def run : ResearchRunId := ⟨"atis:research:run:v1:sha256:fed53ee6b0ddd474f9f2d93dfdb7c00321eb6538ec02a4572f6b986724403584"⟩

theorem canonical : Datasets.refCanonical ordersRef = true ∧ Datasets.refCanonical fillsRef = true ∧ run.canonical = true :=
  ⟨by decide +kernel, by decide +kernel, by decide +kernel⟩

def orders : AttributedRef := ⟨ordersRef, canonical.1⟩

def fills : AttributedRef := ⟨fillsRef, canonical.2.1⟩

def platform : Platform := ⟨fun _ => true, fun text => Fin.ofNat _ (text.map Char.toNat).sum⟩

theorem instant_real (second : Nat) : RealTime 2026 1 1 0 0 (second % 60) 0 :=
  ⟨by decide, by decide, by decide, by decide, by decide, Nat.mod_lt _ (by decide), by decide⟩

def instant (second : Nat) : Timestamp := ⟨⟨2026, 1, 1, 0, 0, second % 60, 0, instant_real second⟩⟩

def observation : Observation :=
  { sourceRunId := ⟨run, canonical.2.2⟩
    evidenceDigest := "sha256:" ++ platform.hexdigest (evidenceText (Evidence.order [ordersRef, fillsRef]))
    reconciliationState := .discrepancy
    discrepancyCodes := [.missingFill]
    observedAtUtc := instant 0
    producedAtUtc := instant 1
    performance := none }

/-- A fill is missing, with the evidence in some order. -/
def snapshot (evidenceRefs : List AttributedRef) : ReconciliationSnapshot :=
  { observation with
    schemaVersion := schemaVersion
    observationId := observationLead ++ platform.hexdigest (identityText observation)
    sourceAuthority := reconciliationAuthority
    evidenceRefs := evidenceRefs
    freshnessState := .unverified
    simulationOnly := true
    tradingAuthority := noTradingAuthority }

theorem keys_ne : ordersRef.key ≠ fillsRef.key := by decide

theorem valid_snapshot {evidenceRefs : List AttributedRef}
    (h : (evidenceRefs.map AttributedRef.ref).Perm [ordersRef, fillsRef]) :
    validateSnapshot platform (snapshot evidenceRefs) (instant 2) = .ok () := by
  have hdistinct : (Instruments.keys (evidenceRefs.map AttributedRef.ref)).Nodup :=
    (h.map Instruments.EvidenceRef.key).nodup_iff.mpr (by simp [keys_ne])
  have hne : evidenceRefs.map AttributedRef.ref ≠ [] := fun hnil => by
    rw [hnil] at h
    exact absurd h.length_eq (by decide)
  have hlength : (evidenceRefs.map AttributedRef.ref).length ≤ Instruments.maxEvidenceRefs := by
    rw [h.length_eq]
    decide
  refine validateSnapshot_eq_ok.mpr ⟨rfl, isObservationId_hexdigest _ _, rfl, ?_, rfl, rfl, ?_,
    List.nodup_singleton DiscrepancyCode.missingFill, ?_, ?_, rfl⟩
  · show ¬ ((instant 1).value < (instant 0).value ∨ (instant 2).value < (instant 1).value)
    decide
  · show evidenceDigestFor platform evidenceRefs = _
    rw [evidenceDigestFor, Evidence.canonicalize_of_distinct hdistinct hne hlength, Evidence.order_congr h]
    rfl
  · exact fun p hp => by cases hp
  · exact ⟨rfl, List.cons_ne_nil _ _⟩

end Sample

theorem observation_bytes_sample : ∃ s s', validateSnapshot Sample.platform s (Sample.instant 2) = .ok () ∧
    validateSnapshot Sample.platform s' (Sample.instant 2) = .ok () ∧ s.canonicalBytes = s'.canonicalBytes := by
  have h := @Sample.valid_snapshot [Sample.orders, Sample.fills] (.refl _)
  exact ⟨_, _, h, h, ((observation_bytes h h rfl fun _ => rfl).1).mpr rfl⟩

/-- The references of an observation in two orders. -/
theorem reordered_evidence : ∃ s s', validateSnapshot Sample.platform s (Sample.instant 2) = .ok () ∧
    validateSnapshot Sample.platform s' (Sample.instant 2) = .ok () ∧ s.observationId = s'.observationId ∧
    s.canonicalBytes ≠ s'.canonicalBytes := by
  have h := @Sample.valid_snapshot [Sample.orders, Sample.fills] (.refl _)
  have h' := @Sample.valid_snapshot [Sample.fills, Sample.orders] (.swap ..)
  refine ⟨_, _, h, h', rfl, fun heq => ?_⟩
  have hrefs := (canonicalBytes_eq_iff (validateSnapshot_eq_ok.mp h) (validateSnapshot_eq_ok.mp h') rfl fun _ => rfl).mp heq
  have hfirst : Sample.orders = Sample.fills := (List.cons.inj hrefs).1
  exact Sample.keys_ne (congrArg (fun e => e.ref.key) hfirst)

end ATB.Proof.OperatorConsole
