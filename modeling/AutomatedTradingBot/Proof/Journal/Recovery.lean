import AutomatedTradingBot.Proof.StateCodec
import AutomatedTradingBot.Source.Journal

/-!
# Recovery of the journal

What `recover` accepts, and what it makes of a directory to which one record was
added. A record that `prepare` wrote passes every check of `replayRecord` but one:
its command id may be among those already seen.

* `replayFrom_names`: the records of a recovered journal carry their numbers;
* `replayRecord_written`: the replay of the record of an accepted command;
* `recover_written`: recovery after an accepted command.
-/

namespace ATB.Proof.Journal

open ATB.Journal Json StateCodec

variable {py : Platform} {cfg : JournalConfig}

/-! ## Names -/

theorem toList_recordName (n : Nat) : (recordName n).toList = Text.zfill 8 n ++ ".json".toList := by
  rw [recordName, String.toList_ofList, Text.chars_eq]

theorem recordName_lt {m n : Nat} (hn : n < 10 ^ 8) (h : m < n) : recordName m < recordName n := by
  rw [String.lt_iff_toList_lt, toList_recordName, toList_recordName]
  have hz := Text.zfill_lt_zfill (w := 8) (by decide) hn h
  have hlen : (Text.zfill 8 m).length = (Text.zfill 8 n).length := by
    rw [Text.length_zfill (by decide) hn, Text.length_zfill (by decide) (h.trans hn)]
  exact Text.append_lt_append hlen hz _ _

theorem recordName_injective {m n : Nat} (h : recordName m = recordName n) : m = n := by
  have := congrArg String.toList h
  rw [toList_recordName, toList_recordName] at this
  exact Text.zfill_injective (List.append_cancel_right this)

theorem hasJsonSuffix_recordName (n : Nat) : hasJsonSuffix (recordName n) = true := by
  have hpos : 0 < (Text.zfill 8 n).length := by
    have : 0 < (Nat.toDigits 10 n).length := Nat.length_toDigits_pos
    simp only [Text.zfill, List.length_append]
    omega
  have h5 : ".json".toList.length = 5 := by decide
  simp only [hasJsonSuffix, Text.chars_eq, toList_recordName, List.length_append, h5, Bool.and_eq_true,
    decide_eq_true_eq]
  exact ⟨by omega, by rw [Nat.add_sub_cancel, List.drop_left]⟩

/-! ## Numbered files -/

theorem insertionSort_concat {α : Type} {r : α → α → Prop} [DecidableRel r] {l : List α} {x : α}
    (h : ∀ a ∈ l, r a x) : (l ++ [x]).insertionSort r = l.insertionSort r ++ [x] := by
  have hins : ∀ (s : List α) (a : α), r a x → (s ++ [x]).orderedInsert r a = s.orderedInsert r a ++ [x] := by
    intro s a ha
    induction s with
    | nil => simp [ha]
    | cons b s ih =>
      by_cases hb : r a b
      · simp [hb]
      · simp [hb, ih]
  induction l with
  | nil => rfl
  | cons a l ih =>
    rw [List.cons_append, List.insertionSort_cons, List.insertionSort_cons,
      ih fun b hb => h b (List.mem_cons_of_mem _ hb), hins _ a (h a (List.mem_cons_self ..))]

/-- The files in the order of their names are numbered from 1. -/
def Numbered (es : List Entry) : Prop := es.map Entry.name = (List.range' 1 es.length).map recordName

theorem name_of_numbered {files : List Entry} (h : Numbered (files.insertionSort (·.name ≤ ·.name))) {e : Entry}
    (he : e ∈ files) : ∃ n, 1 ≤ n ∧ n ≤ files.length ∧ e.name = recordName n := by
  have hmem : e.name ∈ (files.insertionSort (·.name ≤ ·.name)).map Entry.name :=
    List.mem_map_of_mem ((List.mem_insertionSort _).mpr he)
  rw [h, List.mem_map, List.length_insertionSort] at hmem
  obtain ⟨n, hn, hname⟩ := hmem
  rw [List.mem_range'_1] at hn
  exact ⟨n, hn.1, by omega, hname.symm⟩

/-- A file with the next number comes last. -/
theorem insertionSort_next {files : List Entry} {file : Entry}
    (h : Numbered (files.insertionSort (·.name ≤ ·.name))) (hname : file.name = recordName (files.length + 1))
    (hroom : files.length + 1 < 10 ^ 8) :
    (files ++ [file]).insertionSort (·.name ≤ ·.name) = files.insertionSort (·.name ≤ ·.name) ++ [file] := by
  refine insertionSort_concat fun e he => ?_
  obtain ⟨n, -, hn, hname'⟩ := name_of_numbered h he
  rw [hname', hname]
  exact le_of_lt (recordName_lt hroom (by omega))

/-- There are fewer than `10 ^ 8` numbered files: a name with nine digits sorts before that of
the file before it. -/
theorem length_lt_of_numbered {files : List Entry} (h : Numbered (files.insertionSort (·.name ≤ ·.name))) :
    files.length < 10 ^ 8 := by
  by_contra hfull
  have hsorted : ((files.insertionSort (·.name ≤ ·.name)).map Entry.name).Pairwise (· ≤ ·) := by
    rw [List.pairwise_map]
    exact List.pairwise_insertionSort (fun a b : Entry => a.name ≤ b.name) files
  rw [h, List.length_insertionSort, List.pairwise_map, List.pairwise_iff_getElem] at hsorted
  have hle := hsorted 99999998 99999999 (by rw [List.length_range']; omega) (by rw [List.length_range']; omega)
    (by omega)
  rw [List.getElem_range', List.getElem_range'] at hle
  exact absurd hle (by decide +kernel)

/-! ## The loop -/

/-- The command id that a file holds. -/
def commandId? (e : Entry) : Option String :=
  (loads e.content).bind fun record => (record.get? "command_id").bind fun j => j.toText.toOption

/-- `field` finds what `get?` does. -/
theorem get?_of_field {j v : Json} {k : String} (h : j.field k = .ok v) : j.get? k = some v := by
  cases j with
  | dict fields => exact orRaise_eq_ok.mp h
  | null => cases h
  | bool b => cases h
  | int n => cases h
  | str s => cases h
  | arr items => cases h

/-- What one iteration of the loop leaves. -/
theorem replayRecord_inv {n : Nat} {s s' : Replay} {e : Entry} (h : replayRecord py cfg n s e = .ok s') :
    e.name = recordName n ∧ s'.previous = some s'.terminal ∧
      ∃ id, commandId? e = some id ∧ s'.seen = s.seen ++ [id] := by
  simp only [replayRecord, bind_eq_ok, raiseIf_eq_ok, exists_const, pure_eq_ok, orRaise_eq_ok] at h
  obtain ⟨hname, record, hrecord, _, -, _, -, -, -, _, -, _, -, commandId, hid, -, _, -, -, id, htext, _, -, -,
    _, -, _, -, _, -, -, _, -, rfl⟩ := h
  refine ⟨not_not.mp (not_or.mp hname).1, rfl, id, ?_, rfl⟩
  simp only [commandId?, hrecord, Option.bind_some, get?_of_field hid, htext]
  rfl

/-- The records of a journal that replays carry their numbers. -/
theorem replayFrom_names {n : Nat} {s s' : Replay} {es : List Entry} (h : replayFrom py cfg n s es = .ok s') :
    es.map Entry.name = (List.range' n es.length).map recordName := by
  induction es generalizing n s with
  | nil => rfl
  | cons e es ih =>
    obtain ⟨s₁, h₁, h₂⟩ := bind_eq_ok.mp h
    rw [List.map_cons, (replayRecord_inv h₁).1, ih h₂, List.length_cons, List.range'_succ, List.map_cons]

theorem replayFrom_append (n : Nat) (s : Replay) (es fs : List Entry) :
    replayFrom py cfg n s (es ++ fs) =
      (replayFrom py cfg n s es >>= fun s' => replayFrom py cfg (n + es.length) s' fs) := by
  induction es generalizing n s with
  | nil => rfl
  | cons e es ih =>
    rw [List.cons_append, replayFrom, replayFrom, bind_assoc]
    congr 1
    funext s'
    rw [ih, List.length_cons, Nat.add_assoc, Nat.add_comm 1]

theorem replayFrom_concat (n : Nat) (s : Replay) (es : List Entry) (e : Entry) :
    replayFrom py cfg n s (es ++ [e]) =
      (replayFrom py cfg n s es >>= fun s' => replayRecord py cfg (n + es.length) s' e) := by
  rw [replayFrom_append]
  congr 1
  funext s'
  rw [replayFrom]
  exact bind_pure _

theorem replayFrom_seen {n : Nat} {s s' : Replay} {es : List Entry} (h : replayFrom py cfg n s es = .ok s')
    (id : String) : id ∈ s'.seen ↔ id ∈ s.seen ∨ ∃ e ∈ es, commandId? e = some id := by
  induction es generalizing n s with
  | nil => cases h; simp
  | cons e es ih =>
    obtain ⟨s₁, h₁, h₂⟩ := bind_eq_ok.mp h
    obtain ⟨-, -, id', hid', hseen⟩ := replayRecord_inv h₁
    rw [ih h₂, hseen, List.mem_append, List.mem_singleton, List.exists_mem_cons_iff, hid', Option.some.injEq,
      or_assoc, eq_comm (a := id)]

/-- The previous digest is that of the last record, when there is one. -/
theorem replayFrom_previous {n : Nat} {s s' : Replay} {es : List Entry} (h : replayFrom py cfg n s es = .ok s') :
    s'.previous = if es = [] then s.previous else some s'.terminal := by
  induction es generalizing n s with
  | nil => cases h; rfl
  | cons e es ih =>
    obtain ⟨s₁, h₁, h₂⟩ := bind_eq_ok.mp h
    rw [ih h₂, if_neg (List.cons_ne_nil e es)]
    split
    · rename_i hes
      subst hes
      cases h₂
      exact (replayRecord_inv h₁).2.1
    · rfl

/-! ## The replay of a written record -/

section Written

variable {prior : StateSnapshot} {id command digest content : String} {payload : Json} {data : List Char}

theorem nodup_recordKeys :
    ((sealRecord (recordFields cfg prior id command payload digest) content).map Prod.fst).Nodup := by
  simp [sealRecord, recordFields]

theorem sorted_recordFields (hp : Sorted payload) :
    ∀ f ∈ recordFields cfg prior id command payload digest, Sorted f.2 := by
  have hprev : Sorted (if prior.sequence = 0 then .null else .str prior.terminalDigest) := by
    split
    · exact sorted_null
    · exact sorted_str _
  simp only [recordFields, List.forall_mem_cons, List.not_mem_nil, false_imp_iff, implies_true, and_true,
    sorted_str, sorted_int, hp, hprev]

theorem sorted_sealRecord (hp : Sorted payload) :
    ∀ f ∈ sealRecord (recordFields cfg prior id command payload digest) content, Sorted f.2 := by
  intro f hf
  rcases List.mem_append.mp hf with hf | hf
  · exact sorted_recordFields hp f hf
  · rw [List.mem_singleton.mp hf]; exact sorted_str content

theorem prepare_eq_ok :
    prepare py cfg prior id command payload = .ok (digest, data) ↔
      ∃ oms ledger content, ATB.Journal.apply py prior.oms prior.ledger command payload = .ok (oms, ledger) ∧
        stateDigest py oms ledger = .ok digest ∧ Text.nonblank id = true ∧
        recordDigest py (.obj (recordFields cfg prior id command payload digest)) = .ok content ∧
        py.canonicalJson (.obj (sealRecord (recordFields cfg prior id command payload digest) content)) =
          .ok data := by
  simp only [prepare, bind_eq_ok, raiseIf_eq_ok, exists_const, pure_eq_ok, not_not, Prod.exists, Prod.mk.injEq]
  constructor
  · rintro ⟨oms, ledger, hap, d, hd, hid, content, hc, text, ht, rfl, rfl⟩
    exact ⟨oms, ledger, content, hap, hd, hid, hc, ht⟩
  · rintro ⟨oms, ledger, content, hap, hd, hid, hc, ht⟩
    exact ⟨oms, ledger, hap, digest, hd, hid, content, hc, data, ht, rfl, rfl⟩

/-- A record that was written passes every check but that of its command id. -/
theorem replayRecord_written {s : Replay} {oms : SimulatedOms Decimal} {ledger : SimulationLedger Decimal}
    (hp : Sorted payload) (hdict : payload.fields? ≠ none)
    (hap : ATB.Journal.apply py s.oms s.ledger command payload = .ok (oms, ledger))
    (hd : stateDigest py oms ledger = .ok digest)
    (hprev : s.previous = if prior.sequence = 0 then none else some prior.terminalDigest)
    (hc : recordDigest py (.obj (recordFields cfg prior id command payload digest)) = .ok content)
    (hdata : py.canonicalJson (.obj (sealRecord (recordFields cfg prior id command payload digest) content)) =
      .ok data) :
    replayRecord py cfg (prior.sequence + 1) s ⟨recordName (prior.sequence + 1), false, data⟩ =
      if id ∈ s.seen then .error (simulationStateError "journal chain or identity is invalid")
      else .ok ⟨oms, ledger, some content, content, s.seen ++ [id]⟩ := by
  have hloads := loads_canonicalJson (sorted_obj (sorted_sealRecord hp)) hdata
  have hbody : (display (sealRecord (recordFields cfg prior id command payload digest) content)).filter
      (fun f => f.1 ≠ "content_digest") = display (recordFields cfg prior id command payload digest) :=
    filter_display (by simp [recordFields]) (sorted_recordFields hp) (sorted_str content)
  have get {k : String} {j : Json}
      (h : (k, j) ∈ sealRecord (recordFields cfg prior id command payload digest) content) :
      (obj (sealRecord (recordFields cfg prior id command payload digest) content)).get? k = some j :=
    get?_obj nodup_recordKeys h
  have field {k : String} {j : Json}
      (h : (k, j) ∈ sealRecord (recordFields cfg prior id command payload digest) content) :
      (obj (sealRecord (recordFields cfg prior id command payload digest) content)).field k = .ok j :=
    field_obj nodup_recordKeys h
  have hkeys : (∀ k ∈ requiredKeys,
      ((obj (sealRecord (recordFields cfg prior id command payload digest) content)).get? k).isSome) ∧
      ∀ f ∈ display (sealRecord (recordFields cfg prior id command payload digest) content),
        f.1 ∈ requiredKeys := by
    constructor
    · intro k hk
      obtain ⟨f, hf, rfl⟩ : ∃ f ∈ sealRecord (recordFields cfg prior id command payload digest) content, f.1 = k := by
        simpa [sealRecord, recordFields, requiredKeys, eq_comm] using hk
      rw [get hf]
      rfl
    · intro f hf
      have := mem_display hf
      simp only [sealRecord, recordFields, List.cons_append, List.nil_append, List.mem_cons, List.not_mem_nil, or_false] at this
      rcases this with rfl | rfl | rfl | rfl | rfl | rfl | rfl | rfl | rfl <;> simp [requiredKeys]
  have hfields : (obj (sealRecord (recordFields cfg prior id command payload digest) content)).fields? =
      some (display (sealRecord (recordFields cfg prior id command payload digest) content)) := rfl
  have h1 := get (k := "journal_identity") (j := .str cfg.journalIdentity) (by simp [sealRecord, recordFields])
  have h2 := get (k := "epoch") (j := .str cfg.epoch) (by simp [sealRecord, recordFields])
  have h3 := get (k := "sequence") (j := .int (prior.sequence + 1 : Nat)) (by simp [sealRecord, recordFields])
  have h4 := get (k := "previous_digest") (j := if prior.sequence = 0 then .null else .str prior.terminalDigest)
    (by simp [sealRecord, recordFields])
  have h5 := get (k := "content_digest") (j := .str content) (by simp [sealRecord, recordFields])
  have h6 := get (k := "state_digest") (j := .str digest) (by simp [sealRecord, recordFields])
  have f1 := field (k := "content_digest") (j := .str content) (by simp [sealRecord, recordFields])
  have f2 := field (k := "command_id") (j := .str id) (by simp [sealRecord, recordFields])
  have f3 := field (k := "payload") (j := payload) (by simp [sealRecord, recordFields])
  have f4 := field (k := "command") (j := .str command) (by simp [sealRecord, recordFields])
  generalize obj (sealRecord (recordFields cfg prior id command payload digest) content) = record at *
  generalize display (sealRecord (recordFields cfg prior id command payload digest) content) = fields at *
  have hchain : ¬ (¬ fieldIsText record "journal_identity" cfg.journalIdentity ∨
      ¬ fieldIsText record "epoch" cfg.epoch ∨ ¬ fieldIsInt record "sequence" (prior.sequence + 1) ∨
      ¬ fieldIsOption record "previous_digest" s.previous ∨ ¬ fieldIsText record "content_digest" content) := by
    have hopt : fieldIsOption record "previous_digest" s.previous = true := by
      rw [hprev]
      split at h4
      · rename_i h0
        simp only [fieldIsOption, if_pos h0, h4]
      · rename_i h0
        simp only [fieldIsOption, if_neg h0, fieldIsText, h4, beq_self_eq_true]
    simp [fieldIsText, fieldIsInt, h1, h2, h3, h5, hopt]
  have hc' : recordDigest py (.dict (display (recordFields cfg prior id command payload digest))) = .ok content := hc
  unfold replayRecord
  simp only [raiseIf_of_not (show ¬ (recordName (prior.sequence + 1) ≠ recordName (prior.sequence + 1) ∨
    false = true) by simp), ok_bind, hloads, orRaise, hfields, hdata, raiseIf_of_not (not_not.mpr hkeys),
    raiseIf_of_not (not_not.mpr (rfl : data = data)), f1, f2, f3, hbody, hc', raiseIf_of_not hchain, commandSeen,
    decide_eq_true_eq]
  by_cases hseen : id ∈ s.seen
  · rw [raiseIf_of hseen, error_bind, if_pos hseen]
  · have hstate : fieldIsText record "state_digest" digest = true := by
      simp only [fieldIsText, h6, beq_self_eq_true]
    simp only [raiseIf_of_not hseen, ok_bind, toText, raiseIf_of_not hdict, textField, f4, hap, hd,
      raiseIf_of_not (not_not.mpr hstate), if_neg hseen]
    rfl

end Written

/-! ## Recovery -/

theorem paths_eq_ok {dir : Directory} {es : List Entry} :
    paths dir = .ok es ↔ (∀ e ∈ dir.entries, hasJsonSuffix e.name = true) ∧
      dir.entries.insertionSort (·.name ≤ ·.name) = es := by
  simp only [paths, bind_eq_ok, raiseIf_eq_ok, exists_const, pure_eq_ok, List.any_eq_true, not_exists, not_and,
    Bool.not_eq_true', Bool.not_eq_false]

/-- What a recovery that succeeds has gone through. -/
theorem recover_eq_ok {dir : Directory} {snap : StateSnapshot} :
    recover py cfg dir = .ok snap ↔ ∃ start es s, replayStart py cfg = .ok start ∧ paths dir = .ok es ∧
      replayFrom py cfg 1 start es = .ok s ∧ es.length = snap.sequence ∧ s.terminal = snap.terminalDigest ∧
      stateDigest py s.oms s.ledger = .ok snap.stateDigest ∧ s.oms = snap.oms ∧ s.ledger = snap.ledger := by
  simp only [recover, bind_eq_ok, pure_eq_ok]
  constructor
  · rintro ⟨start, hstart, es, hes, s, hs, d, hd, rfl⟩
    exact ⟨start, es, s, hstart, hes, hs, rfl, rfl, hd, rfl, rfl⟩
  · rintro ⟨start, es, s, hstart, hes, hs, hl, ht, hd, ho, hle⟩
    refine ⟨start, hstart, es, hes, s, hs, _, hd, ?_⟩
    cases snap
    simp_all

/-- The file of an accepted command, added to the directory. -/
def written (dir : Directory) (prior : StateSnapshot) (data : List Char) : Directory :=
  { dir with entries := dir.entries ++ [⟨recordName (prior.sequence + 1), false, data⟩] }

/-- The id stands in the journal already. -/
def Used (dir : Directory) (id : String) : Prop := ∃ e ∈ dir.entries, commandId? e = some id

/-- The ids that stand in the journal after a command was written. -/
theorem used_written {dir : Directory} {prior : StateSnapshot} {id command digest : String} {payload : Json}
    {data : List Char} (hp : Sorted payload)
    (hprep : prepare py cfg prior id command payload = .ok (digest, data)) (id' : String) :
    Used (written dir prior data) id' ↔ Used dir id' ∨ id' = id := by
  obtain ⟨-, -, content, -, -, -, -, hdata⟩ := prepare_eq_ok.mp hprep
  have hid : commandId? ⟨recordName (prior.sequence + 1), false, data⟩ = some id := by
    have hget : (obj (sealRecord (recordFields cfg prior id command payload digest) content)).get? "command_id" =
        some (.str id) := get?_obj nodup_recordKeys (by simp [sealRecord, recordFields])
    simp only [commandId?, loads_canonicalJson (sorted_obj (sorted_sealRecord hp)) hdata, Option.bind_some, hget]
    rfl
  simp only [Used, written, List.mem_append, List.mem_singleton, or_and_right, exists_or, exists_eq_left, hid,
    Option.some.injEq, eq_comm (a := id)]

section Recover

variable {dir : Directory} {prior : StateSnapshot} {id command digest : String} {payload : Json}
  {data : List Char}

/-- The files of a journal that recovers are its numbered records. -/
theorem recover_numbered (h : recover py cfg dir = .ok prior) :
    Numbered (dir.entries.insertionSort (·.name ≤ ·.name)) ∧ dir.entries.length = prior.sequence := by
  obtain ⟨start, es, s, -, hes, hs, hlen, -⟩ := recover_eq_ok.mp h
  obtain ⟨-, rfl⟩ := paths_eq_ok.mp hes
  exact ⟨replayFrom_names hs, by rw [← hlen, List.length_insertionSort]⟩

theorem recover_names (h : recover py cfg dir = .ok prior) :
    ∀ e ∈ dir.entries, ∃ n, 1 ≤ n ∧ n ≤ prior.sequence ∧ e.name = recordName n := fun _ he => by
  obtain ⟨hnumbered, hlength⟩ := recover_numbered h
  exact hlength ▸ name_of_numbered hnumbered he

theorem paths_written (h : recover py cfg dir = .ok prior) (hroom : prior.sequence + 1 < 10 ^ 8)
    {es : List Entry} (hes : paths dir = .ok es) :
    paths (written dir prior data) = .ok (es ++ [⟨recordName (prior.sequence + 1), false, data⟩]) := by
  obtain ⟨hjson, rfl⟩ := paths_eq_ok.mp hes
  obtain ⟨hnumbered, hlength⟩ := recover_numbered h
  refine paths_eq_ok.mpr ⟨fun e he => ?_, ?_⟩
  · rcases List.mem_append.mp he with he | he
    · exact hjson e he
    · rw [List.mem_singleton.mp he]; exact hasJsonSuffix_recordName _
  · exact insertionSort_next hnumbered (by rw [hlength]) (by omega)

/-- A journal holds fewer than `10 ^ 8` records. -/
theorem recover_room (h : recover py cfg dir = .ok prior) : prior.sequence < 10 ^ 8 := by
  obtain ⟨hnumbered, hlength⟩ := recover_numbered h
  exact hlength ▸ length_lt_of_numbered hnumbered

theorem recover_length (h : recover py cfg dir = .ok prior) : dir.entries.length = prior.sequence :=
  (recover_numbered h).2

theorem replayStart_eq_ok {start : Replay} (h : replayStart py cfg = .ok start) :
    start.previous = none ∧ start.seen = [] := by
  simp only [replayStart, bind_eq_ok, pure_eq_ok] at h
  obtain ⟨_, -, _, -, rfl⟩ := h
  exact ⟨rfl, rfl⟩

/-- Recovery after the record of an accepted command was written: it replays the record
when the command id is new and the record's number has eight digits. -/
theorem recover_written (h : recover py cfg dir = .ok prior) (hp : Sorted payload) (hdict : payload.fields? ≠ none)
    (hprep : prepare py cfg prior id command payload = .ok (digest, data)) :
    (¬ Used dir id → prior.sequence + 1 < 10 ^ 8 → ∃ oms ledger content,
      ATB.Journal.apply py prior.oms prior.ledger command payload = .ok (oms, ledger) ∧
        recordDigest py (.obj (recordFields cfg prior id command payload digest)) = .ok content ∧
        recover py cfg (written dir prior data) = .ok ⟨prior.sequence + 1, content, digest, oms, ledger⟩) ∧
    (Used dir id ∨ 10 ^ 8 ≤ prior.sequence + 1 → ∀ snap, recover py cfg (written dir prior data) ≠ .ok snap) := by
  obtain ⟨start, es, s, hstart, hes, hs, hlen, hterm, -, homs, hledger⟩ := recover_eq_ok.mp h
  obtain ⟨oms, ledger, content, hap, hd, hid, hc, hdata⟩ := prepare_eq_ok.mp hprep
  obtain ⟨hprev₀, hseen₀⟩ := replayStart_eq_ok hstart
  have hprev : s.previous = if prior.sequence = 0 then none else some prior.terminalDigest := by
    rw [replayFrom_previous hs, hprev₀, hterm]
    simp only [← hlen, List.length_eq_zero_iff]
  have hused : id ∈ s.seen ↔ Used dir id := by
    rw [replayFrom_seen hs, hseen₀, ← (paths_eq_ok.mp hes).2]
    simp only [List.not_mem_nil, false_or, Used, List.mem_insertionSort]
  have hlast := replayRecord_written (s := s) hp hdict (by rw [homs, hledger]; exact hap) hd hprev hc hdata
  have hfrom : replayFrom py cfg 1 start (es ++ [⟨recordName (prior.sequence + 1), false, data⟩]) =
      if id ∈ s.seen then .error (simulationStateError "journal chain or identity is invalid")
      else .ok ⟨oms, ledger, some content, content, s.seen ++ [id]⟩ := by
    rw [replayFrom_concat, bind_of_eq_ok hs, hlen, Nat.add_comm 1, hlast]
  constructor
  · intro hnew hroom
    rw [if_neg (fun hm => hnew (hused.mp hm))] at hfrom
    refine ⟨oms, ledger, content, hap, hc, recover_eq_ok.mpr ⟨start, _, _, hstart, paths_written h hroom hes, hfrom,
      ?_, rfl, hd, rfl, rfl⟩⟩
    rw [List.length_append, hlen]
    rfl
  · rintro hbad snap hsnap
    have hroom := recover_room hsnap
    rw [← recover_length hsnap, written, List.length_append, recover_length h] at hroom
    have hroom' : prior.sequence + 1 < 10 ^ 8 := hroom
    rcases hbad with hbad | hbad
    · obtain ⟨start', es', s', hstart', hes', hs', -⟩ := recover_eq_ok.mp hsnap
      rw [paths_written h hroom' hes] at hes'
      rw [hstart] at hstart'
      cases hes'
      cases hstart'
      rw [hfrom, if_pos (hused.mpr hbad)] at hs'
      cases hs'
    · omega

end Recover

end ATB.Proof.Journal
