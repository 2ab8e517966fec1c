import AutomatedTradingBot.Proof.Canonical
import AutomatedTradingBot.Proof.Governance.Recovery

/-!
# Texts of journal events

* `safeId_of_identity`, `digestText_digest`: texts that the checks of an event take;
* `canonical_fields`: the body of an event is taken when its texts are;
* `exists_digest`: an event whose texts are taken gets a digest, and its file can be written;
* `text_dumps`: a text that ends in the JSON of an object has no blanks at its ends.
-/

namespace ATB.Proof.Governance

open ATB.Governance Canonical

variable {py : Platform}

/-! ## Texts -/

theorem text_eq_ok {name value : String} :
    text name value = .ok () ↔ value ≠ "" ∧ Text.strip (Text.chars value) = Text.chars value := by
  rw [text, raiseIf_eq_ok, not_or, not_not]

theorem safeId_eq_ok {name value : String} : safeId name value = .ok () ↔
    (value ≠ "" ∧ Text.strip (Text.chars value) = Text.chars value) ∧ Datasets.isIdentity (Text.chars value) = true := by
  simp only [safeId, bind_eq_ok, Unique.exists_iff, PUnit.default_eq_unit, text_eq_ok, raiseIf_eq_ok, Bool.not_eq_false]

theorem ne_empty_of_identity {value : String} (h : Datasets.isIdentity (Text.chars value) = true) : value ≠ "" := by
  rintro rfl
  revert h
  decide

theorem safeId_of_identity {name value : String} (h : Datasets.isIdentity (Text.chars value) = true) :
    safeId name value = .ok () :=
  safeId_eq_ok.mpr ⟨⟨ne_empty_of_identity h, strip_of_plain (plain_of_identity h)⟩, h⟩

theorem plain_of_safeId {name value : String} (h : safeId name value = .ok ()) : value ≠ "" ∧ Plain value.toList := by
  obtain ⟨⟨hne, -⟩, hid⟩ := safeId_eq_ok.mp h
  have hplain := plain_of_identity hid
  rw [Text.chars_eq] at hplain
  exact ⟨hne, hplain⟩

theorem text_of_plain {name value : String} (hne : value ≠ "") (h : Plain value.toList) : text name value = .ok () := by
  refine text_eq_ok.mpr ⟨hne, ?_⟩
  rw [Text.chars_eq]
  exact strip_of_plain h

theorem append_ne_empty {lead value : String} (h : lead ≠ "") : lead ++ value ≠ "" := fun he => h (by
  have hnil := congrArg String.toList he
  rw [String.toList_append, String.toList_empty, List.append_eq_nil_iff] at hnil
  exact String.toList_inj.mp hnil.1)

theorem plain_concat {lead value : String} (hl : Plain lead.toList) (hv : Plain value.toList) :
    Plain (lead ++ value).toList := by
  rw [String.toList_append]
  exact plain_append.mpr ⟨hl, hv⟩

theorem uniqueText_eq_ok {name : String} {values : List String} :
    uniqueText name values = .ok () ↔ values.Nodup ∧ ∀ v ∈ values, text name v = .ok () := by
  simp only [uniqueText, raiseIf_bind_eq_ok, not_not, forM_eq_ok]

theorem isDigest_digest (t : List Char) : isDigest ("sha256:" ++ py.hexdigest t) = true := by
  have hchars : Text.chars ("sha256:" ++ py.hexdigest t) = Text.chars "sha256:" ++ Uuid.hexChars 64 (py.sha256 t) := by
    simp only [Text.chars_eq, String.toList_append, Platform.hexdigest, String.toList_ofList]
  rw [isDigest, Text.fullmatch, hchars, Text.after?_eq_some.mpr rfl]
  simp only [Uuid.length_hexChars, Bool.and_eq_true, decide_eq_true_eq, List.all_eq_true]
  exact ⟨⟨le_refl _, le_refl _⟩, fun c hc => Uuid.isLowerHex_of_mem_hexChars hc⟩

theorem digestText_digest (name : String) (t : List Char) : digestText name ("sha256:" ++ py.hexdigest t) = .ok () := by
  rw [digestText, text_of_plain (digest_ne_empty t) (plain_digest t), ok_bind]
  exact raiseIf_of_not (by rw [isDigest_digest]; decide)

/-- The text of an object ends in a bracket. -/
theorem dumps_dict_ends (fields : List (String × Json)) : ∃ s, (Json.dict fields).dumps = s ++ ['\x7d'] := by
  have hrest : ∀ fields : List (String × Json), ∃ s, Json.dumpsFields fields = s ++ ['\x7d'] := by
    intro fields
    induction fields with
    | nil => exact ⟨[], by rw [Json.dumpsFields]; rfl⟩
    | cons f fields ih =>
      obtain ⟨s, hs⟩ := ih
      exact ⟨',' :: (Json.dumpsField f ++ s), by rw [Json.dumpsFields, hs, List.cons_append, List.append_assoc]⟩
  cases fields with
  | nil => exact ⟨['\x7b'], by rw [Json.dumps]; rfl⟩
  | cons f fields =>
    obtain ⟨s, hs⟩ := hrest fields
    exact ⟨'\x7b' :: (Json.dumpsField f ++ s), by rw [Json.dumps, hs, List.cons_append, List.append_assoc]⟩

/-- A text that ends in the text of an object. -/
theorem text_dumps {name lead : String} {c : Char} {rest : List Char} {fields : List (String × Json)}
    (hlead : lead.toList = c :: rest) (hc : Text.isSpace c = false) :
    text name (lead ++ String.ofList (Json.dict fields).dumps) = .ok () := by
  obtain ⟨s, hs⟩ := dumps_dict_ends fields
  have hne : lead ≠ "" := by
    rintro rfl
    cases hlead
  refine text_eq_ok.mpr ⟨append_ne_empty hne, ?_⟩
  rw [hs, Text.chars_eq, String.toList_append, String.toList_ofList, hlead, List.cons_append, ← List.append_assoc,
    ← List.cons_append]
  exact strip_of_ends hc (by decide)

/-- The identity of the acceptance of a plan. -/
theorem isIdentity_planId (t : List Char) : Datasets.isIdentity (Text.chars ("plan:" ++ ("sha256:" ++ py.hexdigest t))) = true := by
  have hchars : Text.chars ("plan:" ++ ("sha256:" ++ py.hexdigest t)) =
      'p' :: ("lan:sha256:".toList ++ Uuid.hexChars 64 (py.sha256 t)) := by
    simp only [Text.chars_eq, String.toList_append, Platform.hexdigest, String.toList_ofList]
    rfl
  have hlead : ∀ c ∈ "lan:sha256:".toList, Datasets.isIdChar c = true := List.all_eq_true.mp (by decide)
  have hlength : "lan:sha256:".toList.length = 11 := by decide
  rw [hchars, Datasets.isIdentity]
  simp only [Bool.and_eq_true, List.all_eq_true, decide_eq_true_eq, List.length_append, hlength, Uuid.length_hexChars]
  refine ⟨⟨by decide, fun c hc => ?_⟩, by decide⟩
  rcases List.mem_append.mp hc with hc | hc
  · exact hlead c hc
  · exact Datasets.isIdChar_hexChars hc

/-! ## Bodies of events -/

theorem canonical_ofOption {o : Option String} :
    py.canonicalValue (Json.ofOption Json.str o) = .ok () ↔ ∀ s ∈ o.toList, py.canonicalValue (.str s) = .ok () := by
  cases o with
  | none => exact iff_of_true (by rw [Json.ofOption, Platform.canonicalValue]; rfl) fun _ h => absurd h List.not_mem_nil
  | some s => rw [Json.ofOption, Option.toList_some, List.forall_mem_singleton]

/-- The texts of an event's body. -/
def textsOf (e : JournalEvent) : List String :=
  [e.approvalReference, e.disposition, e.eventId, e.experimentId, e.kind.value, e.planDigest, e.policyIdentity] ++
    e.details ++ e.reasons ++ e.previousDigest.toList ++ e.runId.toList

theorem canonical_strs {l : List String} :
    py.canonicalValue (.arr (l.map .str)) = .ok () ↔ ∀ s ∈ l, py.canonicalValue (.str s) = .ok () := by
  rw [canonical_arr, List.forall_mem_map]

theorem nodup_fields {e : JournalEvent} : (e.fields.map Prod.fst).Nodup := by
  rw [show e.fields.map Prod.fst = fieldKeys from rfl]
  decide

/-- The body of an event is taken when its texts are. -/
theorem canonical_fields (hnfc : AsciiNormal py) {e : JournalEvent} :
    py.canonicalValue (.obj e.fields) = .ok () ↔ ∀ s ∈ textsOf e, py.canonicalValue (.str s) = .ok () := by
  have hfields : (∀ f ∈ e.fields, py.canonicalValue f.2 = .ok ()) ↔ ∀ s ∈ textsOf e, py.canonicalValue (.str s) = .ok () := by
    have hnat : py.canonicalValue (.int e.sequence) = .ok () := by rw [Platform.canonicalValue]; rfl
    simp only [JournalEvent.fields, textsOf, List.forall_mem_cons, List.forall_mem_append, canonical_strs,
      canonical_ofOption, hnat, List.not_mem_nil, false_imp_iff, implies_true, and_true]
    tauto
  have hkeys : ∀ f ∈ e.fields, py.text "object key" f.1 = .ok () := fun f hf => by
    have hkey : f.1 ∈ fieldKeys := List.mem_map_of_mem (f := Prod.fst) hf
    have hall : ∀ k ∈ fieldKeys, k ≠ "" ∧ Plain k.toList := by decide
    exact Canonical.text_of_plain hnfc (hall _ hkey).1 (hall _ hkey).2
  rw [← hfields]
  constructor
  · exact fun h f hf => (canonical_of_mem h nodup_fields hf).2
  · exact fun h => canonical_obj fun f hf => ⟨hkeys f hf, h f hf⟩

/-- An event whose texts are taken gets a digest, and its file can be written. -/
theorem exists_digest (hnfc : AsciiNormal py) {e : JournalEvent} (h : ∀ s ∈ textsOf e, py.canonicalValue (.str s) = .ok ()) :
    ∃ t : List Char, e.digest py = .ok ("sha256:" ++ py.hexdigest t) ∧
      py.canonicalJson { e with contentDigest := "sha256:" ++ py.hexdigest t }.sealedBody =
        .ok { e with contentDigest := "sha256:" ++ py.hexdigest t }.sealedBody.dumps := by
  have hbody := (canonical_fields hnfc).mpr h
  refine ⟨hashedText "ATIS-S4-08-JOURNAL-EVENT-V1" (.obj e.fields), ?_, ?_⟩
  · rw [JournalEvent.digest, Raised.ofOutcome, mapError_eq_ok, Platform.digest, py.canonicalJson_eq_ok.mpr ⟨hbody, rfl⟩, ok_bind]
    rfl
  · refine py.canonicalJson_eq_ok.mpr ⟨canonical_obj fun f hf => ?_, rfl⟩
    rcases List.mem_append.mp hf with hf | hf
    · exact canonical_of_mem hbody nodup_fields hf
    · have hkey : "content_digest" ≠ "" ∧ Plain "content_digest".toList := by decide
      rw [List.mem_singleton.mp hf]
      exact ⟨Canonical.text_of_plain hnfc hkey.1 hkey.2, canonical_of_plain hnfc (digest_ne_empty _) (plain_digest _)⟩

end ATB.Proof.Governance
