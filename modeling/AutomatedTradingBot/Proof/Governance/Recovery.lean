import AutomatedTradingBot.Framework.HashChain
import AutomatedTradingBot.Proof.Governance.Codec
import AutomatedTradingBot.Proof.Journal.Recovery

/-!
# Recovery of the research journal

* `decode_eq_ok`: what a record that decodes has gone through;
* `history_of_recover`: a recovered history is a hash chain of numbered, distinct events;
* `recover_linked`: recovery once the file of a sealed event is linked;
* `event_eq_of_digest`: the digest tells events apart.
-/

namespace ATB.Proof.Governance

open ATB.Governance Json StateCodec HashChain
open ATB.Journal (recordName hasJsonSuffix)
open ATB.Proof.Journal (Numbered)

variable {py : Platform} {disk : Disk} {events : List JournalEvent}

/-! ## Records -/

theorem decode_eq_ok {content : List Char} {e : JournalEvent} (h : decode py content = .ok e) :
    Checked e ∧ e.digest py = .ok e.contentDigest := by
  obtain ⟨value, -, h⟩ := bind_eq_ok.mp h
  obtain ⟨fields, -, h⟩ := bind_eq_ok.mp h
  obtain ⟨canonical, -, h⟩ := bind_eq_ok.mp h
  obtain ⟨-, h⟩ := raiseIf_bind_eq_ok.mp h
  obtain ⟨-, h⟩ := raiseIf_bind_eq_ok.mp h
  obtain ⟨kind, -, h⟩ := bind_eq_ok.mp h
  obtain ⟨reasonItems, -, h⟩ := bind_eq_ok.mp h
  obtain ⟨detailItems, -, h⟩ := bind_eq_ok.mp h
  obtain ⟨sequence, -, h⟩ := bind_eq_ok.mp h
  obtain ⟨hsequence, h⟩ := raiseIf_bind_eq_ok.mp h
  obtain ⟨eventId, -, h⟩ := bind_eq_ok.mp h
  obtain ⟨⟨⟩, heventId, h⟩ := bind_eq_ok.mp h
  obtain ⟨experimentId, -, h⟩ := bind_eq_ok.mp h
  obtain ⟨⟨⟩, hexperimentId, h⟩ := bind_eq_ok.mp h
  obtain ⟨runId, -, h⟩ := bind_eq_ok.mp h
  obtain ⟨⟨⟩, hrunId, h⟩ := bind_eq_ok.mp h
  obtain ⟨planDigest, -, h⟩ := bind_eq_ok.mp h
  obtain ⟨⟨⟩, hplanDigest, h⟩ := bind_eq_ok.mp h
  obtain ⟨policyIdentity, -, h⟩ := bind_eq_ok.mp h
  obtain ⟨⟨⟩, hpolicyIdentity, h⟩ := bind_eq_ok.mp h
  obtain ⟨approvalReference, -, h⟩ := bind_eq_ok.mp h
  obtain ⟨⟨⟩, happrovalReference, h⟩ := bind_eq_ok.mp h
  obtain ⟨disposition, -, h⟩ := bind_eq_ok.mp h
  obtain ⟨⟨⟩, hdisposition, h⟩ := bind_eq_ok.mp h
  obtain ⟨reasons, -, h⟩ := bind_eq_ok.mp h
  obtain ⟨⟨⟩, hreasons, h⟩ := bind_eq_ok.mp h
  obtain ⟨details, -, h⟩ := bind_eq_ok.mp h
  obtain ⟨⟨⟩, hdetails, h⟩ := bind_eq_ok.mp h
  obtain ⟨previousDigest, -, h⟩ := bind_eq_ok.mp h
  obtain ⟨⟨⟩, hpreviousDigest, h⟩ := bind_eq_ok.mp h
  obtain ⟨contentDigest, -, h⟩ := bind_eq_ok.mp h
  obtain ⟨expected, hexpected, h⟩ := bind_eq_ok.mp h
  obtain ⟨heq, h⟩ := raiseIf_bind_eq_ok.mp h
  obtain rfl := pure_eq_ok.mp h
  rw [not_not] at heq
  subst heq
  exact ⟨⟨hsequence, heventId, hexperimentId, hrunId, hplanDigest, hpolicyIdentity, happrovalReference, hdisposition, hreasons,
    hdetails, hpreviousDigest⟩, hexpected⟩

/-! ## Histories -/

/-- What recovery establishes of a history. -/
structure History (py : Platform) (events : List JournalEvent) : Prop where
  linked : Linked JournalEvent.contentDigest JournalEvent.previousDigest events
  checked : ∀ e ∈ events, Checked e
  digest : ∀ e ∈ events, e.digest py = .ok e.contentDigest
  numbered : ∀ i (h : i < events.length), events[i].sequence = i + 1
  distinct : (events.map JournalEvent.eventId).Nodup

theorem history_nil : History py [] where
  linked := linked_nil
  checked := fun _ h => absurd h List.not_mem_nil
  digest := fun _ h => absurd h List.not_mem_nil
  numbered := fun _ h => absurd h (Nat.not_lt_zero _)
  distinct := List.nodup_nil

/-- An event that follows a history. -/
theorem History.concat {e : JournalEvent} (h : History py events) (hchecked : Checked e)
    (hdigest : e.digest py = .ok e.contentDigest) (hsequence : e.sequence = events.length + 1)
    (hprevious : e.previousDigest = events.getLast?.map JournalEvent.contentDigest)
    (hfresh : e.eventId ∉ events.map JournalEvent.eventId) : History py (events ++ [e]) where
  linked := h.linked.concat hprevious
  checked := fun x hx => by
    rcases List.mem_append.mp hx with hx | hx
    · exact h.checked x hx
    · exact List.mem_singleton.mp hx ▸ hchecked
  digest := fun x hx => by
    rcases List.mem_append.mp hx with hx | hx
    · exact h.digest x hx
    · exact List.mem_singleton.mp hx ▸ hdigest
  numbered := fun i hi => by
    rw [List.length_append, List.length_singleton] at hi
    rcases Nat.lt_or_ge i events.length with hlt | hge
    · rw [List.getElem_append_left hlt]
      exact h.numbered i hlt
    · obtain rfl : i = events.length := by omega
      rw [List.getElem_concat_length rfl]
      exact hsequence
  distinct := by
    rw [List.map_append, List.map_singleton]
    exact List.nodup_append.mpr ⟨h.distinct, List.nodup_singleton _, fun x hx y hy e => by
      rw [List.mem_singleton.mp hy] at e
      exact hfresh (e ▸ hx)⟩

/-- What one iteration of `recover` accepts. -/
theorem recoverRecord_eq_ok {entry : Entry} {events' : List JournalEvent} :
    recoverRecord py events entry = .ok events' ↔ entry.symlink = false ∧
      entry.name = Journal.recordName (events.length + 1) ∧ ∃ e, decode py entry.content = .ok e ∧
        e.sequence = events.length + 1 ∧ e.previousDigest = events.getLast?.map JournalEvent.contentDigest ∧
        e.eventId ∉ events.map JournalEvent.eventId ∧ events' = events ++ [e] := by
  simp only [recoverRecord, bind_eq_ok, raiseIf_eq_ok, exists_const, pure_eq_ok, not_or, not_not, Bool.not_eq_true]
  constructor
  · rintro ⟨hs, hn, e, he, ⟨hseq, hprev⟩, hid, rfl⟩
    exact ⟨hs, hn, e, he, hseq, hprev, hid, rfl⟩
  · rintro ⟨hs, hn, e, he, hseq, hprev, hid, rfl⟩
    exact ⟨hs, hn, e, he, ⟨hseq, hprev⟩, hid, rfl⟩

theorem paths_eq_ok {es : List Entry} : paths disk = .ok es ↔ disk.staged = 0 ∧
    (∀ e ∈ disk.entries, hasJsonSuffix e.name = true) ∧ disk.entries.insertionSort (·.name ≤ ·.name) = es := by
  simp only [paths, bind_eq_ok, raiseIf_eq_ok, exists_const, pure_eq_ok, not_or, Nat.not_lt, Nat.le_zero,
    List.any_eq_true, not_exists, not_and, Bool.not_eq_true', Bool.not_eq_false, and_assoc]

/-- What `recover` accepts. -/
theorem recover_eq_ok : recover py disk = .ok events ↔ ∃ entries, paths disk = .ok entries ∧
    entries.foldlM (recoverRecord py) [] = .ok events ∧ ∃ r, validateSemantics py events = .ok r := by
  simp only [recover, bind_eq_ok, pure_eq_ok]
  constructor
  · rintro ⟨entries, hp, events, he, r, hr, rfl⟩
    exact ⟨entries, hp, he, r, hr⟩
  · rintro ⟨entries, hp, he, r, hr⟩
    exact ⟨entries, hp, events, he, r, hr, rfl⟩

/-- A recovered history is a chain of numbered events. -/
theorem history_of_recover (h : recover py disk = .ok events) : History py events := by
  obtain ⟨entries, -, hfold, -⟩ := recover_eq_ok.mp h
  refine foldlM_ok_induction (History py) (fun before entry after _ hstep hbefore => ?_) hfold history_nil
  obtain ⟨-, -, e, hdecode, hsequence, hprevious, hfresh, rfl⟩ := recoverRecord_eq_ok.mp hstep
  obtain ⟨hchecked, hdigest⟩ := decode_eq_ok hdecode
  exact hbefore.concat hchecked hdigest hsequence hprevious hfresh

/-! ## One more file -/

/-- The records of a recovered history are numbered from 1. -/
theorem numbered_of_foldlM {es : List Entry} (h : es.foldlM (recoverRecord py) [] = .ok events) :
    Numbered es ∧ es.length = events.length := by
  have hlen : ∀ {es : List Entry} {before events : List JournalEvent}, es.foldlM (recoverRecord py) before = .ok events →
      es.map Entry.name = (List.range' (before.length + 1) es.length).map recordName ∧
        events.length = before.length + es.length := by
    intro es
    induction es with
    | nil =>
      rintro before _ ⟨⟩
      exact ⟨rfl, rfl⟩
    | cons entry es ih =>
      intro before events h
      obtain ⟨after, hstep, hrest⟩ := bind_eq_ok.mp h
      obtain ⟨-, hname, e, -, -, -, -, rfl⟩ := recoverRecord_eq_ok.mp hstep
      obtain ⟨hnames, hlength⟩ := ih hrest
      rw [List.length_append, List.length_singleton] at hnames hlength
      rw [List.map_cons, hname, hnames, List.length_cons, List.range'_succ, List.map_cons]
      exact ⟨rfl, by omega⟩
  obtain ⟨hnames, hlength⟩ := hlen h
  rw [List.length_nil, Nat.zero_add] at hnames hlength
  exact ⟨hnames, hlength.symm⟩

theorem recover_numbered (h : recover py disk = .ok events) :
    Numbered (disk.entries.insertionSort (·.name ≤ ·.name)) ∧ disk.entries.length = events.length := by
  obtain ⟨es, hes, hfold, -⟩ := recover_eq_ok.mp h
  obtain ⟨-, -, rfl⟩ := paths_eq_ok.mp hes
  obtain ⟨hnumbered, hlength⟩ := numbered_of_foldlM hfold
  exact ⟨hnumbered, by rwa [List.length_insertionSort] at hlength⟩

/-- A journal holds fewer than `10 ^ 8` records. -/
theorem recover_room (h : recover py disk = .ok events) : events.length < 10 ^ 8 := by
  obtain ⟨hnumbered, hlength⟩ := recover_numbered h
  exact hlength ▸ Journal.length_lt_of_numbered hnumbered

/-- The directory with the file of one more event. -/
def linked (disk : Disk) (e : JournalEvent) : Disk :=
  { disk with entries := disk.entries ++ [entryOf e e.sealedBody.dumps] }

theorem paths_linked {e : JournalEvent} (h : recover py disk = .ok events) (hsequence : e.sequence = events.length + 1)
    (hroom : events.length + 1 < 10 ^ 8) {es : List Entry} (hes : paths disk = .ok es) :
    paths (linked disk e) = .ok (es ++ [entryOf e e.sealedBody.dumps]) := by
  obtain ⟨hstaged, hjson, rfl⟩ := paths_eq_ok.mp hes
  obtain ⟨hnumbered, hlength⟩ := recover_numbered h
  refine paths_eq_ok.mpr ⟨hstaged, fun f hf => ?_, ?_⟩
  · rcases List.mem_append.mp hf with hf | hf
    · exact hjson f hf
    · rw [List.mem_singleton.mp hf]
      exact Journal.hasJsonSuffix_recordName _
  · refine Journal.insertionSort_next hnumbered ?_ (by omega)
    rw [entryOf, hsequence, hlength]

/-- The file of an event that follows a history. -/
theorem recoverRecord_entry {e : JournalEvent} {content : List Char} (hdecode : decode py content = .ok e)
    (hsequence : e.sequence = events.length + 1)
    (hprevious : e.previousDigest = events.getLast?.map JournalEvent.contentDigest)
    (hfresh : e.eventId ∉ events.map JournalEvent.eventId) :
    recoverRecord py events (entryOf e content) = .ok (events ++ [e]) :=
  recoverRecord_eq_ok.mpr ⟨rfl, by rw [entryOf, hsequence], e, hdecode, hsequence, hprevious, hfresh, rfl⟩

/-- The history once the file of a sealed event is linked. -/
theorem recover_linked {e : JournalEvent} {r : Replay} (h : recover py disk = .ok events) (he : Sealed py e)
    (hsequence : e.sequence = events.length + 1)
    (hprevious : e.previousDigest = events.getLast?.map JournalEvent.contentDigest)
    (hfresh : e.eventId ∉ events.map JournalEvent.eventId) (hroom : events.length + 1 < 10 ^ 8)
    (hsemantics : validateSemantics py (events ++ [e]) = .ok r) : recover py (linked disk e) = .ok (events ++ [e]) := by
  obtain ⟨es, hes, hfold, -⟩ := recover_eq_ok.mp h
  refine recover_eq_ok.mpr ⟨_, paths_linked h hsequence hroom hes, ?_, r, hsemantics⟩
  have hstep := recoverRecord_entry (decode_sealed he) hsequence hprevious hfresh
  rw [List.foldlM_append, hfold, ok_bind, List.foldlM_cons, hstep, ok_bind, List.foldlM_nil]
  rfl

/-- What is recovered once the file of an event is linked: the events before, and one more. -/
theorem eq_concat_of_recover_linked {e : JournalEvent} {recovered : List JournalEvent} (h : recover py disk = .ok events)
    (hsequence : e.sequence = events.length + 1) (h' : recover py (linked disk e) = .ok recovered) :
    ∃ e', recovered = events ++ [e'] := by
  obtain ⟨es, hes, hfold, -⟩ := recover_eq_ok.mp h
  obtain ⟨es', hes', hfold', -⟩ := recover_eq_ok.mp h'
  have hroom := recover_room h'
  have hlength : events.length + 1 = recovered.length := by
    rw [← (recover_numbered h').2, ← (recover_numbered h).2, linked, List.length_append, List.length_singleton]
  rw [paths_linked h hsequence (by omega) hes] at hes'
  cases hes'
  rw [List.foldlM_append, hfold, ok_bind, List.foldlM_cons] at hfold'
  obtain ⟨after, hstep, hdone⟩ := bind_eq_ok.mp hfold'
  obtain ⟨-, -, e', -, -, -, -, rfl⟩ := recoverRecord_eq_ok.mp hstep
  cases hdone
  exact ⟨e', rfl⟩

/-! ## Events and their digests -/

/-- The text whose hash is an event's digest. -/
def eventText (e : JournalEvent) : List Char := hashedText "ATIS-S4-08-JOURNAL-EVENT-V1" (.obj e.fields)

/-- The keys of an event's body. -/
def fieldKeys : List String :=
  ["approval_reference", "details", "disposition", "event_id", "experiment_id", "kind", "plan_digest", "policy_identity",
    "previous_digest", "reasons", "run_id", "sequence"]

theorem sorted_fields {e : JournalEvent} : Sorted (obj e.fields) := by
  refine sorted_obj ?_
  simp only [JournalEvent.fields, List.forall_mem_cons, List.not_mem_nil, false_imp_iff, implies_true, and_true, sorted_str,
    sorted_int, sorted_texts, sorted_optionalText (fun s => s)]

theorem ofOption_str_inj {o o' : Option String} (h : Json.ofOption Json.str o = Json.ofOption .str o') : o = o' := by
  have ho := optionalText_ofOption o
  rw [h, optionalText_ofOption] at ho
  exact (Option.some.inj ho).symm

theorem arr_str_inj {l l' : List String} (h : Json.arr (l.map .str) = .arr (l'.map .str)) : l = l' := by
  have hl := texts_strings l
  rw [h, texts_strings] at hl
  exact (Option.some.inj hl).symm

/-- Events with one body and one digest are one event. -/
theorem event_ext {e e' : JournalEvent} (h : obj e.fields = obj e'.fields) (hdigest : e.contentDigest = e'.contentDigest) :
    e = e' := by
  have hvalues := obj_inj fieldKeys (by decide) (e.fields.map Prod.snd) (e'.fields.map Prod.snd) rfl rfl h
  simp only [JournalEvent.fields, List.map_cons, List.map_nil, List.cons.injEq, Json.str.injEq, Json.int.injEq,
    Nat.cast_inj, and_true] at hvalues
  obtain ⟨happroval, hdetails, hdisposition, hid, hexperiment, hkind, hplan, hpolicy, hprevious, hreasons, hrun,
    hsequence⟩ := hvalues
  have hk := eventKind_value e.kind
  rw [hkind, eventKind_value] at hk
  cases e
  cases e'
  cases happroval
  cases arr_str_inj hdetails
  cases hdisposition
  cases hid
  cases hexperiment
  cases hk
  cases hplan
  cases hpolicy
  cases ofOption_str_inj hprevious
  cases arr_str_inj hreasons
  cases ofOption_str_inj hrun
  cases hsequence
  cases hdigest
  rfl

/-- Events whose texts do not collide are told by their digests. -/
theorem event_eq_of_digest {e e' : JournalEvent} (he : e.digest py = .ok e.contentDigest)
    (he' : e'.digest py = .ok e'.contentDigest)
    (hfree : py.sha256 (eventText e) = py.sha256 (eventText e') → eventText e = eventText e')
    (h : e.contentDigest = e'.contentDigest) : e = e' := by
  rw [JournalEvent.digest, Raised.ofOutcome, mapError_eq_ok] at he he'
  exact event_ext (body_eq_of_digest sorted_fields sorted_fields hfree he (h ▸ he')) h

end ATB.Proof.Governance
