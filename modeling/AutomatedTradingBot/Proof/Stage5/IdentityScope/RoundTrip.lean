import AutomatedTradingBot.Proof.Stage5.IdentityScope.Limits

/-!
# Canonical bytes read back

* `reads`: on the text of a value the bounded parser does what `check`, a walk over
  the value itself, does;
* `check_ok`: that walk and `_canonical_value` have the same limits;
* `canonical_round_trip`: what is encoded reads back with its tuples as lists, and
  what is read back is what was encoded.
-/

namespace ATB.Proof.IdentityScope

open ATB.Stage5.IdentityScope
open ATB.Json (Ends)

/-! ## Text -/

mutual

/-- The text of a value whose `dict`s are sorted. -/
def render : Value → List Char
  | .none => Json.dumps .null
  | .bool b => Json.dumps (.bool b)
  | .int n => Json.intChars n
  | .str s => Json.quote s
  | .list vs => renderList vs
  | .tuple vs => renderList vs
  | .dict fs => renderDict fs
  | .other => []

def renderList : List Value → List Char
  | [] => ['[', ']']
  | v :: vs => '[' :: (render v ++ renderItems vs)

def renderItems : List Value → List Char
  | [] => [']']
  | v :: vs => ',' :: (render v ++ renderItems vs)

def renderDict : List (Option String × Value) → List Char
  | [] => ['\x7b', '\x7d']
  | f :: fs => '\x7b' :: (renderField f ++ renderFields fs)

def renderFields : List (Option String × Value) → List Char
  | [] => ['\x7d']
  | f :: fs => ',' :: (renderField f ++ renderFields fs)

def renderField : Option String × Value → List Char
  | (some k, v) => Json.quote k ++ ':' :: render v
  | (.none, _) => []

end

/-- The text of chunks of which none raises. -/
inductive Chunks : List (Option (List Char)) → List Char → Prop where
  | nil : Chunks [] []
  | cons (c : List Char) {l : List (Option (List Char))} {s : List Char} (h : Chunks l s) :
      Chunks (some c :: l) (c ++ s)

theorem Chunks.of_append {l l' : List (Option (List Char))} {s : List Char} (h : Chunks (l ++ l') s) :
    ∃ s₁ s₂, Chunks l s₁ ∧ Chunks l' s₂ ∧ s = s₁ ++ s₂ := by
  induction l generalizing s with
  | nil => exact ⟨[], s, .nil, h, rfl⟩
  | cons c l ih =>
    cases h with
    | cons c h =>
      obtain ⟨s₁, s₂, h₁, h₂, rfl⟩ := ih h
      exact ⟨c ++ s₁, s₂, .cons c h₁, h₂, (List.append_assoc ..).symm⟩

theorem Chunks.of_singleton {c : Option (List Char)} {s : List Char} (h : Chunks [c] s) : c = some s := by
  cases h with
  | cons c h =>
    cases h
    rw [List.append_nil]

theorem join_ok {size : Nat} {chunks : List (Option (List Char))} {text : List Char} (h : join size chunks = .ok text) :
    Chunks chunks text ∧ (chunks ≠ [] → size + (String.ofList text).utf8ByteSize ≤ maxCanonicalBytes) := by
  induction chunks generalizing size text with
  | nil =>
    cases h
    exact ⟨.nil, fun h => absurd rfl h⟩
  | cons c chunks ih =>
    cases c with
    | none => cases h
    | some c =>
      simp only [join] at h
      split at h
      · cases h
      · next hs =>
        cases hj : join (size + (String.ofList c).utf8ByteSize) chunks with
        | error e =>
          rw [hj] at h
          cases h
        | ok s =>
          rw [hj] at h
          cases h
          obtain ⟨hc, hle⟩ := ih hj
          refine ⟨.cons c hc, fun _ => ?_⟩
          rw [String.ofList_append, String.utf8ByteSize_append, ← Nat.add_assoc]
          by_cases hnil : chunks = []
          · subst hnil
            cases hc
            simpa using Nat.not_lt.mp hs
          · exact hle hnil

/-- Of a type that is written. -/
def Writable : StackEntry → Prop
  | (.dict fs, _, _) => ∀ f ∈ fs, f.1.isSome
  | (.other, _, _) => False
  | _ => True

/-- Short enough to be written. -/
def Short : StackEntry → Prop
  | (.int n, _, _) => (Nat.toDigits 10 n.natAbs).length ≤ maxStrDigits
  | _ => True

theorem forall_tree {P : StackEntry → Prop} {d : Nat} {n : Bool} {v : Value} :
    (∀ e ∈ tree d n v, P e) ↔ P (v, d, n) ∧ ∀ c ∈ children d n v, ∀ e ∈ nodesOf c, P e := by
  rw [tree_eq, List.forall_mem_cons]
  simp only [List.mem_flatMap, forall_exists_index, and_imp]
  exact and_congr_right fun _ => ⟨fun h c hc e he => h e c hc he, fun h e c hc he => h c hc e he⟩

/-- What the chunks of a value say of it. -/
def Encodes (v : Value) : Prop :=
  ∀ buf s, Chunks (iterencode buf v) s → s = buf ++ render v ∧ ∀ d n, ∀ e ∈ tree d n v, Writable e ∧ Short e

theorem encodes_items {vs : List Value} (hv : ∀ v ∈ vs, Encodes v) {s : List Char} (h : Chunks (iterencodeItems vs) s) :
    s = renderItems vs ∧ ∀ d n, ∀ v ∈ vs, ∀ e ∈ tree d n v, Writable e ∧ Short e := by
  induction vs generalizing s with
  | nil => exact ⟨(Option.some.inj h.of_singleton).symm, by simp⟩
  | cons v vs ih =>
    obtain ⟨s₁, s₂, h₁, h₂, rfl⟩ := h.of_append
    obtain ⟨rfl, hw⟩ := hv v (List.mem_cons_self ..) _ _ h₁
    obtain ⟨rfl, hws⟩ := ih (fun v hv' => hv v (List.mem_cons_of_mem _ hv')) h₂
    exact ⟨rfl, fun d n => List.forall_mem_cons.mpr ⟨hw d n, hws d n⟩⟩

theorem encodes_list {vs : List Value} (hv : ∀ v ∈ vs, Encodes v) {s : List Char} (h : Chunks (iterencodeList vs) s) :
    s = renderList vs ∧ ∀ d n, ∀ v ∈ vs, ∀ e ∈ tree d n v, Writable e ∧ Short e := by
  cases vs with
  | nil => exact ⟨(Option.some.inj h.of_singleton).symm, by simp⟩
  | cons v vs =>
    obtain ⟨s₁, s₂, h₁, h₂, rfl⟩ := h.of_append
    obtain ⟨rfl, hw⟩ := hv v (List.mem_cons_self ..) _ _ h₁
    obtain ⟨rfl, hws⟩ := encodes_items (fun v hv' => hv v (List.mem_cons_of_mem _ hv')) h₂
    exact ⟨rfl, fun d n => List.forall_mem_cons.mpr ⟨hw d n, hws d n⟩⟩

theorem encodes_field {f : Option String × Value} (hv : Encodes f.2) {s : List Char} (h : Chunks (iterencodeField f) s) :
    s = renderField f ∧ f.1.isSome ∧ ∀ d n, ∀ e ∈ tree d n f.2, Writable e ∧ Short e := by
  obtain ⟨k, v⟩ := f
  cases k with
  | none => cases h
  | some k =>
    cases h with
    | cons c h =>
      cases h with
      | cons c h =>
        obtain ⟨rfl, hw⟩ := hv _ _ h
        exact ⟨rfl, rfl, hw⟩

theorem encodes_fields {fs : List (Option String × Value)} (hv : ∀ f ∈ fs, Encodes f.2) {s : List Char}
    (h : Chunks (iterencodeFields fs) s) :
    s = renderFields fs ∧ (∀ f ∈ fs, f.1.isSome) ∧ ∀ d n, ∀ f ∈ fs, ∀ e ∈ tree d n f.2, Writable e ∧ Short e := by
  induction fs generalizing s with
  | nil => exact ⟨(Option.some.inj h.of_singleton).symm, by simp, by simp⟩
  | cons f fs ih =>
    cases h with
    | cons c h =>
      obtain ⟨s₁, s₂, h₁, h₂, rfl⟩ := h.of_append
      obtain ⟨rfl, hk, hw⟩ := encodes_field (hv f (List.mem_cons_self ..)) h₁
      obtain ⟨rfl, hks, hws⟩ := ih (fun f hf => hv f (List.mem_cons_of_mem _ hf)) h₂
      exact ⟨rfl, List.forall_mem_cons.mpr ⟨hk, hks⟩, fun d n => List.forall_mem_cons.mpr ⟨hw d n, hws d n⟩⟩

theorem encodes_dict {fs : List (Option String × Value)} (hv : ∀ f ∈ fs, Encodes f.2) {s : List Char}
    (h : Chunks (iterencodeDict fs) s) :
    s = renderDict fs ∧ (∀ f ∈ fs, f.1.isSome) ∧ ∀ d n, ∀ f ∈ fs, ∀ e ∈ tree d n f.2, Writable e ∧ Short e := by
  cases fs with
  | nil => exact ⟨(Option.some.inj h.of_singleton).symm, by simp, by simp⟩
  | cons f fs =>
    cases h with
    | cons c h =>
      obtain ⟨s₁, s₂, h₁, h₂, rfl⟩ := h.of_append
      obtain ⟨rfl, hk, hw⟩ := encodes_field (hv f (List.mem_cons_self ..)) h₁
      obtain ⟨rfl, hks, hws⟩ := encodes_fields (fun f hf => hv f (List.mem_cons_of_mem _ hf)) h₂
      exact ⟨rfl, List.forall_mem_cons.mpr ⟨hk, hks⟩, fun d n => List.forall_mem_cons.mpr ⟨hw d n, hws d n⟩⟩

theorem encodes_scalar {v : Value} {buf s text : List Char} (hv : ∀ d n, children d n v = [])
    (h : Chunks [some (buf ++ text)] s) (ht : render v = text) (hw : ∀ d n, Writable (v, d, n) ∧ Short (v, d, n)) :
    s = buf ++ render v ∧ ∀ d n, ∀ e ∈ tree d n v, Writable e ∧ Short e := by
  refine ⟨?_, fun d n => forall_tree.mpr ⟨hw d n, ?_⟩⟩
  · rw [ht]
    exact (Option.some.inj h.of_singleton).symm
  · rw [hv d n]
    simp

/-- The chunks of `iterencode` make up the text, and nothing that raises is in the value. -/
theorem encodes (v : Value) : Encodes v := by
  induction v using Value.induction with
  | none => exact fun _ _ h => encodes_scalar (fun _ _ => rfl) h rfl fun _ _ => ⟨trivial, trivial⟩
  | bool b => exact fun _ _ h => encodes_scalar (fun _ _ => rfl) h rfl fun _ _ => ⟨trivial, trivial⟩
  | str s => exact fun _ _ h => encodes_scalar (fun _ _ => rfl) h rfl fun _ _ => ⟨trivial, trivial⟩
  | int n =>
    intro buf s h
    rw [iterencode, intRepr] at h
    split at h
    · next hn => exact encodes_scalar (fun _ _ => rfl) h rfl fun _ _ => ⟨trivial, hn⟩
    · cases h
  | list vs ih =>
    intro buf s h
    cases h with
    | cons c h =>
      obtain ⟨rfl, hw⟩ := encodes_list ih h
      refine ⟨rfl, fun d n => forall_tree.mpr ⟨⟨trivial, trivial⟩, fun c hc => ?_⟩⟩
      obtain ⟨v, hv, rfl⟩ := List.mem_map.mp hc
      exact hw _ _ v hv
  | tuple vs ih =>
    intro buf s h
    cases h with
    | cons c h =>
      obtain ⟨rfl, hw⟩ := encodes_list ih h
      refine ⟨rfl, fun d n => forall_tree.mpr ⟨⟨trivial, trivial⟩, fun c hc => ?_⟩⟩
      obtain ⟨v, hv, rfl⟩ := List.mem_map.mp hc
      exact hw _ _ v hv
  | dict fs ih =>
    intro buf s h
    cases h with
    | cons c h =>
      obtain ⟨rfl, hk, hw⟩ := encodes_dict ih h
      refine ⟨rfl, fun d n => forall_tree.mpr ⟨⟨hk, trivial⟩, fun c hc => ?_⟩⟩
      obtain ⟨⟨k, v⟩, hf, hc⟩ := List.mem_flatMap.mp hc
      obtain ⟨k, rfl⟩ := Option.isSome_iff_exists.mp (hk _ hf)
      simp only [fieldEntries, List.mem_cons, List.not_mem_nil, or_false] at hc
      rcases hc with rfl | rfl
      · intro e he
        obtain rfl := List.mem_singleton.mp he
        exact ⟨trivial, trivial⟩
      · exact hw _ _ _ hf
  | other =>
    intro buf s h
    cases h

theorem iterencodeItems_lists {vs : List Value} (h : ∀ v ∈ vs, ∀ buf, iterencode buf (lists v) = iterencode buf v) :
    iterencodeItems (vs.map lists) = iterencodeItems vs := by
  induction vs with
  | nil => rfl
  | cons v vs ih =>
    rw [List.map_cons, iterencodeItems, iterencodeItems, h v (List.mem_cons_self ..),
      ih fun v hv => h v (List.mem_cons_of_mem _ hv)]

theorem iterencodeList_lists {vs : List Value} (h : ∀ v ∈ vs, ∀ buf, iterencode buf (lists v) = iterencode buf v) :
    iterencodeList (vs.map lists) = iterencodeList vs := by
  cases vs with
  | nil => rfl
  | cons v vs =>
    rw [List.map_cons, iterencodeList, iterencodeList, h v (List.mem_cons_self ..),
      iterencodeItems_lists fun v hv => h v (List.mem_cons_of_mem _ hv)]

theorem iterencodeField_lists {f : Option String × Value} (h : ∀ buf, iterencode buf (lists f.2) = iterencode buf f.2) :
    iterencodeField (mapField lists f) = iterencodeField f := by
  obtain ⟨k, v⟩ := f
  cases k with
  | none => rfl
  | some k => rw [mapField, iterencodeField, iterencodeField, h]

theorem iterencodeFields_lists {fs : List (Option String × Value)}
    (h : ∀ f ∈ fs, ∀ buf, iterencode buf (lists f.2) = iterencode buf f.2) :
    iterencodeFields (fs.map (mapField lists)) = iterencodeFields fs := by
  induction fs with
  | nil => rfl
  | cons f fs ih =>
    rw [List.map_cons, iterencodeFields, iterencodeFields, iterencodeField_lists (h f (List.mem_cons_self ..)),
      ih fun f hf => h f (List.mem_cons_of_mem _ hf)]

/-- A tuple is written as a list. -/
theorem iterencode_lists (v : Value) (buf : List Char) : iterencode buf (lists v) = iterencode buf v := by
  induction v using Value.induction generalizing buf with
  | list vs ih => rw [lists_list, iterencode, iterencode, iterencodeList_lists ih]
  | tuple vs ih => rw [lists_tuple, iterencode, iterencode, iterencodeList_lists ih]
  | dict fs ih =>
    rw [lists_dict, iterencode, iterencode]
    cases fs with
    | nil => rfl
    | cons f fs =>
      rw [List.map_cons, iterencodeDict, iterencodeDict, iterencodeField_lists (ih f (List.mem_cons_self ..)),
        iterencodeFields_lists fun f hf => ih f (List.mem_cons_of_mem _ hf)]
  | _ => rfl

/-- The canonical form has the bytes of the value. -/
theorem canonicalBytes_canonical {py : Platform} {v : Value} {raw : ByteArray} (h : canonicalBytes py v = .ok raw) :
    canonicalBytes py (canonical v) = .ok raw := by
  have hnormal : normal (canonical v) = canonical v := by rw [canonical, normal_lists, normal_normal]
  obtain ⟨⟨⟩, hv, hraw⟩ := bind_eq_ok.mp h
  refine bind_eq_ok.mpr ⟨(), (canonicalValue_canonical v).mpr hv, ?_⟩
  rw [hnormal, canonical, iterencode_lists]
  exact hraw

/-! ## Reading -/

mutual

/-- The checks of the bounded parser on the text of a value, as a walk over the value: the nodes
after it. -/
def check (depth nodes : Nat) : Value → Except String Nat
  | .none => node nodes
  | .bool _ => node nodes
  | .int n => do
    let nodes ← node nodes
    if (Nat.toDigits 10 n.natAbs).length ≤ maxStrDigits then .ok nodes else .error invalidJson
  | .str s => do
    let nodes ← node nodes
    if maxStringBytes < s.utf8ByteSize then .error stringError else .ok nodes
  | .list vs => do
    let nodes ← node nodes
    if maxDepth ≤ depth then .error depthError else checkItems depth nodes 0 vs
  | .tuple vs => do
    let nodes ← node nodes
    if maxDepth ≤ depth then .error depthError else checkItems depth nodes 0 vs
  | .dict fs => do
    let nodes ← node nodes
    if maxDepth ≤ depth then .error depthError else checkFields depth nodes [] fs
  | .other => .error invalidJson

def checkItems (depth nodes count : Nat) : List Value → Except String Nat
  | [] => .ok nodes
  | v :: vs =>
    if maxCollection < count + 1 then .error collectionError
    else do
      let nodes ← check (depth + 1) nodes v
      checkItems depth nodes (count + 1) vs

def checkFields (depth nodes : Nat) (keys : List String) : List (Option String × Value) → Except String Nat
  | [] => .ok nodes
  | f :: fs =>
    if maxCollection < keys.length + 1 then .error collectionError
    else do
      let (key, nodes) ← checkField depth nodes keys f
      checkFields depth nodes (key :: keys) fs

def checkField (depth nodes : Nat) (keys : List String) : Option String × Value → Except String (String × Nat)
  | (.none, _) => .error invalidJson
  | (some key, v) => do
    let nodes ← node nodes
    if maxStringBytes < key.utf8ByteSize then .error stringError
    else if key ∈ keys then .error "duplicate JSON key"
    else do
      let nodes ← check (depth + 1) nodes v
      return (key, nodes)

end

theorem node_ok {nodes m : Nat} : node nodes = .ok m ↔ m = nodes + 1 ∧ m ≤ maxNodes := by
  unfold node
  split
  · next h =>
    simp only [reduceCtorEq, false_iff, not_and]
    rintro rfl
    exact Nat.not_le.mpr h
  · next h =>
    rw [Except.ok.injEq]
    exact ⟨fun he => ⟨he.symm, he ▸ Nat.not_lt.mp h⟩, fun he => he.1.symm⟩

/-- What the walk says of a value. -/
theorem checkItems_le {vs : List Value} (hv : ∀ v ∈ vs, ∀ depth nodes m, check depth nodes v = .ok m → nodes < m ∧ nodes < maxNodes)
    {depth nodes count m : Nat} (h : checkItems depth nodes count vs = .ok m) : nodes ≤ m := by
  induction vs generalizing nodes count with
  | nil =>
    cases h
    exact le_rfl
  | cons v vs ih =>
    rw [checkItems] at h
    split at h
    · cases h
    · obtain ⟨m', hm', h⟩ := bind_eq_ok.mp h
      exact (hv v (List.mem_cons_self ..) _ _ _ hm').1.le.trans (ih (fun v hv' => hv v (List.mem_cons_of_mem _ hv')) h)

theorem checkFields_le {fs : List (Option String × Value)}
    (hv : ∀ f ∈ fs, ∀ depth nodes m, check depth nodes f.2 = .ok m → nodes < m ∧ nodes < maxNodes)
    {depth nodes m : Nat} {keys : List String} (h : checkFields depth nodes keys fs = .ok m) : nodes ≤ m := by
  induction fs generalizing nodes keys with
  | nil =>
    cases h
    exact le_rfl
  | cons f fs ih =>
    rw [checkFields] at h
    split at h
    · cases h
    · obtain ⟨⟨key, m'⟩, hm', h⟩ := bind_eq_ok.mp h
      refine le_trans ?_ (ih (fun f hf => hv f (List.mem_cons_of_mem _ hf)) h)
      obtain ⟨k, v⟩ := f
      cases k with
      | none => cases hm'
      | some k =>
        rw [checkField] at hm'
        obtain ⟨m₁, hnode, hm'⟩ := bind_eq_ok.mp hm'
        split at hm'
        · cases hm'
        · split at hm'
          · cases hm'
          · obtain ⟨m₂, hm₂, hm'⟩ := bind_eq_ok.mp hm'
            cases hm'
            have h₁ := (node_ok.mp hnode).1
            have h₂ := hv _ (List.mem_cons_self ..) _ _ _ hm₂
            omega

/-- A value is at least one node. -/
theorem check_lt (v : Value) (depth nodes m : Nat) (h : check depth nodes v = .ok m) :
    nodes < m ∧ nodes < maxNodes := by
  induction v using Value.induction generalizing depth nodes m with
  | none => have := node_ok.mp h; omega
  | bool b => have := node_ok.mp h; omega
  | other => cases h
  | int n =>
    obtain ⟨m', hnode, h⟩ := bind_eq_ok.mp h
    split at h <;> cases h
    have := node_ok.mp hnode
    omega
  | str s =>
    obtain ⟨m', hnode, h⟩ := bind_eq_ok.mp h
    split at h <;> cases h
    have := node_ok.mp hnode
    omega
  | list vs ih =>
    obtain ⟨m', hnode, h⟩ := bind_eq_ok.mp h
    split at h
    · cases h
    · have h₁ := node_ok.mp hnode
      have h₂ := checkItems_le ih h
      omega
  | tuple vs ih =>
    obtain ⟨m', hnode, h⟩ := bind_eq_ok.mp h
    split at h
    · cases h
    · have h₁ := node_ok.mp hnode
      have h₂ := checkItems_le ih h
      omega
  | dict fs ih =>
    obtain ⟨m', hnode, h⟩ := bind_eq_ok.mp h
    split at h
    · cases h
    · have h₁ := node_ok.mp hnode
      have h₂ := checkFields_le ih h
      omega

/-- On the text of the value the bounded parser does what the walk does. -/
def Reads (v : Value) : Prop :=
  ∀ fuel depth nodes rest, 2 * (maxNodes - nodes) ≤ fuel → Ends rest →
    value fuel depth nodes (render v ++ rest) = (check depth nodes v).map fun m => (lists v, m, rest)

theorem check_of_node_error {v : Value} (hv : v ≠ .other) {depth nodes : Nat} (h : node nodes = .error nodesError) :
    check depth nodes v = .error nodesError := by
  cases v <;> first | exact absurd rfl hv | rw [check, h] <;> rfl

theorem Reads.intro {v : Value} (hv : v ≠ .other)
    (h : ∀ fuel depth nodes rest, node nodes = .ok (nodes + 1) → 2 * (maxNodes - (nodes + 1)) + 1 ≤ fuel → Ends rest →
      value (fuel + 1) depth nodes (render v ++ rest) = (check depth nodes v).map fun m => (lists v, m, rest)) :
    Reads v := by
  intro fuel depth nodes rest hf hr
  by_cases hn : nodes + 1 ≤ maxNodes
  · obtain ⟨fuel, rfl⟩ : ∃ f, fuel = f + 1 := ⟨fuel - 1, by omega⟩
    exact h fuel depth nodes rest (node_ok.mpr ⟨rfl, hn⟩) (by omega) hr
  · have hnode : node nodes = .error nodesError := if_pos (Nat.not_le.mp hn)
    rw [check_of_node_error hv hnode]
    cases fuel with
    | zero =>
      rw [value]
      rfl
    | succ fuel =>
      rw [value, hnode]
      rfl

theorem reads_none : Reads .none := .intro (by simp) fun fuel depth nodes rest hnode _ _ => by
  rw [value, check, hnode]
  rfl

theorem reads_bool (b : Bool) : Reads (.bool b) := .intro (by simp) fun fuel depth nodes rest hnode _ _ => by
  cases b <;> rw [value, check, hnode] <;> rfl

theorem reads_str (s : String) : Reads (.str s) := .intro (by simp) fun fuel depth nodes rest hnode _ _ => by
  rw [value, check, hnode, render, Json.quote_append, Json.skip_cons (by decide)]
  simp only [ok_bind, string, Json.unquote_quoteTail, String.ofList_toList]
  split <;> rfl

theorem unsigned_toDigits (negative : Bool) (n : Nat) {rest : List Char} (h : Ends rest) :
    unsigned negative (Nat.toDigits 10 n ++ rest) =
      if (Nat.toDigits 10 n).length ≤ maxStrDigits then some (.int (if negative then -n else n), rest) else .none := by
  have hfraction : fraction rest = .none := by
    cases rest with
    | nil => rfl
    | cons c rest => rcases h c rfl with rfl | rfl | rfl <;> rfl
  have hexponent : exponent rest = .none := by
    cases rest with
    | nil => rfl
    | cons c rest => rcases h c rfl with rfl | rfl | rfl <;> simp [exponent]
  simp only [unsigned, Json.digits_toDigits n h, Option.bind_eq_bind, Option.bind_some, hfraction, hexponent]
  rfl

theorem isDigit_ne {c d : Char} (h : c.isDigit = true) (hd : d.isDigit = false) : c ≠ d := by
  rintro rfl
  rw [h] at hd
  cases hd

/-- What a number or a literal is read as. -/
def scalarResult (nodes : Nat) : Option (Value × List Char) → Except String (Value × Nat × List Char)
  | .none => .error invalidJson
  | some (v, s) => .ok (v, nodes, s)

theorem value_scalar {fuel depth nodes : Nat} {c : Char} {s : List Char} (hc : startsScalar c = true) :
    value (fuel + 1) depth nodes (c :: s) = node nodes >>= fun nodes => scalarResult nodes (scalar (c :: s)) := by
  have hne : ∀ d, startsScalar d = false → c ≠ d := by
    rintro d hd rfl
    rw [hc] at hd
    cases hd
  have hblank : Json.isBlank c = false := by
    simp only [Json.isBlank, Bool.or_eq_false_iff, beq_eq_false_iff_ne]
    exact ⟨⟨⟨hne _ rfl, hne _ rfl⟩, hne _ rfl⟩, hne _ rfl⟩
  rw [value, Json.skip_cons hblank]
  congr 1
  funext nodes
  split
  · next he => cases he
  · next he => exact absurd (List.cons.inj he).1 (hne _ rfl)
  · next he => exact absurd (List.cons.inj he).1 (hne _ rfl)
  · next he => exact absurd (List.cons.inj he).1 (hne _ rfl)
  · next he =>
    obtain ⟨rfl, rfl⟩ := List.cons.inj he
    rw [if_pos hc]
    cases scalar (c :: s) <;> rfl

theorem scalar_digit {c : Char} (hc : c.isDigit = true) (s : List Char) : scalar (c :: s) = unsigned false (c :: s) := by
  rw [scalar]
  all_goals
    intros
    rename_i he
    exact absurd (List.cons.inj he).1 (isDigit_ne hc rfl)

theorem scalar_minus {c : Char} (hc : c.isDigit = true) (s : List Char) :
    scalar ('-' :: c :: s) = unsigned true (c :: s) := by
  rw [scalar]
  intro s' he
  exact absurd (List.cons.inj he).1 (isDigit_ne hc rfl)

theorem reads_int (n : Int) : Reads (.int n) := .intro (by simp) fun fuel depth nodes rest hnode _ hr => by
  have hdigits : ∀ m, ∃ c l, Nat.toDigits 10 m = c :: l ∧ c.isDigit = true := by
    intro m
    cases hl : Nat.toDigits 10 m with
    | nil => exact absurd hl Nat.toDigits_ne_nil
    | cons c l =>
      exact ⟨c, l, rfl, Nat.isDigit_of_mem_toDigits (b := 10) (n := m) (by decide) (by decide)
        (hl ▸ List.mem_cons_self ..)⟩
  cases n with
  | ofNat n =>
    obtain ⟨c, l, hl, hc⟩ := hdigits n
    have hread := unsigned_toDigits false n hr
    have hint : (Int.ofNat n).natAbs = n := rfl
    rw [render, Json.intChars, check, hint, hl, List.cons_append, value_scalar (by simp [startsScalar, hc]),
      scalar_digit hc, ← List.cons_append, ← hl, hread, hnode]
    split <;> rfl
  | negSucc n =>
    obtain ⟨c, l, hl, hc⟩ := hdigits (n + 1)
    have hread := unsigned_toDigits true (n + 1) hr
    have hint : (Int.negSucc n).natAbs = n + 1 := rfl
    rw [render, Json.intChars, check, hint, hl, List.cons_append, List.cons_append, value_scalar (by rfl),
      scalar_minus hc, ← List.cons_append, ← hl, hread, hnode]
    split <;> rfl

theorem render_head {v : Value} (hv : v ≠ .other) : ∃ c s, render v = c :: s ∧ Json.isBlank c = false ∧ c ≠ ']' := by
  cases v with
  | none => exact ⟨_, _, rfl, by decide⟩
  | bool b => cases b <;> exact ⟨_, _, rfl, by decide⟩
  | int n => exact Json.dumps_head (.int n)
  | str s => exact ⟨_, _, by rw [render, Json.quote], by decide⟩
  | list vs => cases vs <;> exact ⟨_, _, rfl, by decide⟩
  | tuple vs => cases vs <;> exact ⟨_, _, rfl, by decide⟩
  | dict fs => cases fs <;> exact ⟨_, _, rfl, by decide⟩
  | other => exact absurd rfl hv

theorem ends_renderItems (vs : List Value) (rest : List Char) : Ends (renderItems vs ++ rest) := by
  intro c hc
  cases vs with
  | nil => rw [renderItems] at hc; cases hc; simp
  | cons v vs => rw [renderItems] at hc; cases hc; simp

theorem ends_renderFields (fs : List (Option String × Value)) (rest : List Char) : Ends (renderFields fs ++ rest) := by
  intro c hc
  cases fs with
  | nil => rw [renderFields] at hc; cases hc; simp
  | cons f fs => rw [renderFields] at hc; cases hc; simp

theorem separator_items (v : Value) (vs : List Value) (rest : List Char) :
    separator ']' (Json.skip (renderItems (v :: vs) ++ rest)) = .ok (true, render v ++ (renderItems vs ++ rest)) := by
  rw [renderItems, List.cons_append, List.append_assoc, Json.skip_cons (by decide)]
  rfl

theorem separator_fields (f : Option String × Value) (fs : List (Option String × Value)) (rest : List Char) :
    separator '\x7d' (Json.skip (renderFields (f :: fs) ++ rest)) =
      .ok (true, renderField f ++ (renderFields fs ++ rest)) := by
  rw [renderFields, List.cons_append, List.append_assoc, Json.skip_cons (by decide)]
  rfl

theorem reads_items {vs : List Value} (hvs : ∀ v ∈ vs, Reads v) {v : Value} (hv : Reads v) (fuel depth nodes count : Nat)
    (hf : 2 * (maxNodes - nodes) + 1 ≤ fuel) (rest : List Char) :
    items fuel depth nodes count (render v ++ (renderItems vs ++ rest)) =
      (checkItems depth nodes count (v :: vs)).map fun m => ((v :: vs).map lists, m, rest) := by
  induction vs generalizing v fuel nodes count with
  | nil =>
    obtain ⟨fuel, rfl⟩ : ∃ f, fuel = f + 1 := ⟨fuel - 1, by omega⟩
    rw [items, checkItems, hv fuel (depth + 1) nodes _ (by omega) (ends_renderItems [] rest)]
    split
    · rfl
    · cases check (depth + 1) nodes v <;> rfl
  | cons v' vs ih =>
    obtain ⟨fuel, rfl⟩ : ∃ f, fuel = f + 1 := ⟨fuel - 1, by omega⟩
    rw [items, checkItems, hv fuel (depth + 1) nodes _ (by omega) (ends_renderItems (v' :: vs) rest)]
    split
    · rfl
    · cases hc : check (depth + 1) nodes v with
      | error e => rfl
      | ok m =>
        have hm := check_lt v _ _ _ hc
        have hnext := ih (fun x hx => hvs x (List.mem_cons_of_mem _ hx)) (hvs v' (List.mem_cons_self ..)) fuel m
          (count + 1) (by omega)
        simp only [Except.map, ok_bind, separator_items, if_true, hnext]
        cases checkItems depth m (count + 1) (v' :: vs) <;> rfl

theorem reads_list {vs : List Value} (hvs : ∀ v ∈ vs, Reads v ∧ v ≠ .other) {fuel depth nodes : Nat} {rest : List Char}
    (hf : 2 * (maxNodes - (nodes + 1)) + 1 ≤ fuel) (hnode : node nodes = .ok (nodes + 1)) :
    value (fuel + 1) depth nodes (renderList vs ++ rest) =
      (if maxDepth ≤ depth then .error depthError else checkItems depth (nodes + 1) 0 vs).map fun m =>
        (.list (vs.map lists), m, rest) := by
  rw [value, hnode]
  cases vs with
  | nil =>
    rw [renderList, List.cons_append, Json.skip_cons (by decide)]
    simp only [ok_bind]
    split <;> rfl
  | cons v vs =>
    obtain ⟨hv, hother⟩ := hvs v (List.mem_cons_self ..)
    obtain ⟨c, s, hs, hblank, hc⟩ := render_head hother
    have hitems := reads_items (fun x hx => (hvs x (List.mem_cons_of_mem _ hx)).1) hv fuel depth (nodes + 1) 0 hf rest
    rw [renderList, List.cons_append, Json.skip_cons (by decide), List.append_assoc]
    simp only [ok_bind]
    split
    · rfl
    · rw [hs, List.cons_append] at hitems ⊢
      rw [Json.skip_cons hblank]
      split
      · next he => exact absurd (List.cons.inj he).1 hc
      · rw [hitems]
        cases checkItems depth (nodes + 1) 0 (v :: vs) <;> rfl

theorem reads_fields {fs : List (Option String × Value)} (hfs : ∀ f ∈ fs, Reads f.2 ∧ f.1.isSome) {k : String} {v : Value}
    (hv : Reads v) (fuel depth nodes : Nat) (keys : List String) (hf : 2 * (maxNodes - nodes) + 1 ≤ fuel)
    (rest : List Char) :
    fields fuel depth nodes keys (renderField (some k, v) ++ (renderFields fs ++ rest)) =
      (checkFields depth nodes keys ((some k, v) :: fs)).map fun m =>
        (((some k, v) :: fs).map (mapField lists), m, rest) := by
  induction fs generalizing k v fuel nodes keys with
  | nil =>
    obtain ⟨fuel, rfl⟩ : ∃ f, fuel = f + 1 := ⟨fuel - 1, by omega⟩
    have hread : ∀ m, nodes < m → value fuel (depth + 1) m (render v ++ (renderFields [] ++ rest)) =
        (check (depth + 1) m v).map fun m' => (lists v, m', renderFields [] ++ rest) :=
      fun m hm => hv fuel (depth + 1) m _ (by omega) (ends_renderFields [] rest)
    rw [fields, checkFields, checkField, renderField, List.append_assoc, Json.quote_append, Json.skip_cons (by decide)]
    split
    · rfl
    · cases hnode : node nodes with
      | error e => rfl
      | ok m =>
        have hm := node_ok.mp hnode
        simp only [ok_bind, string, Json.unquote_quoteTail, String.ofList_toList]
        split
        · rfl
        simp only [ok_bind]
        split
        · rfl
        · simp only [List.cons_append, Json.skip_cons (show Json.isBlank ':' = false by decide), hread m (by omega)]
          cases check (depth + 1) m v <;> rfl
  | cons f fs ih =>
    obtain ⟨fuel, rfl⟩ : ∃ f, fuel = f + 1 := ⟨fuel - 1, by omega⟩
    obtain ⟨k', v'⟩ := f
    obtain ⟨hv', hk'⟩ := hfs _ (List.mem_cons_self ..)
    obtain ⟨k', rfl⟩ := Option.isSome_iff_exists.mp hk'
    have hread : ∀ m, nodes < m → value fuel (depth + 1) m (render v ++ (renderFields ((some k', v') :: fs) ++ rest)) =
        (check (depth + 1) m v).map fun m' => (lists v, m', renderFields ((some k', v') :: fs) ++ rest) :=
      fun m hm => hv fuel (depth + 1) m _ (by omega) (ends_renderFields _ rest)
    rw [fields, checkFields, checkField, renderField, List.append_assoc, Json.quote_append, Json.skip_cons (by decide)]
    split
    · rfl
    · cases hnode : node nodes with
      | error e => rfl
      | ok m =>
        have hm := node_ok.mp hnode
        simp only [ok_bind, string, Json.unquote_quoteTail, String.ofList_toList]
        split
        · rfl
        simp only [ok_bind]
        split
        · rfl
        · simp only [List.cons_append, Json.skip_cons (show Json.isBlank ':' = false by decide), hread m (by omega)]
          cases hc : check (depth + 1) m v with
          | error e => rfl
          | ok m' =>
            have hm' := check_lt v _ _ _ hc
            have hnext := ih (k := k') (fun x hx => hfs x (List.mem_cons_of_mem _ hx)) hv' fuel m' (k :: keys) (by omega)
            simp only [Except.map, ok_bind, pure_bind, separator_fields, if_true, hnext]
            cases checkFields depth m' (k :: keys) ((some k', v') :: fs) <;> rfl

theorem reads_dict {fs : List (Option String × Value)} (hfs : ∀ f ∈ fs, Reads f.2 ∧ f.1.isSome) {fuel depth nodes : Nat}
    {rest : List Char} (hf : 2 * (maxNodes - (nodes + 1)) + 1 ≤ fuel) (hnode : node nodes = .ok (nodes + 1)) :
    value (fuel + 1) depth nodes (renderDict fs ++ rest) =
      (if maxDepth ≤ depth then .error depthError else checkFields depth (nodes + 1) [] fs).map fun m =>
        (.dict (fs.map (mapField lists)), m, rest) := by
  rw [value, hnode]
  cases fs with
  | nil =>
    rw [renderDict, List.cons_append, Json.skip_cons (by decide)]
    simp only [ok_bind]
    split <;> rfl
  | cons f fs =>
    obtain ⟨k, v⟩ := f
    obtain ⟨hv, hk⟩ := hfs _ (List.mem_cons_self ..)
    obtain ⟨k, rfl⟩ := Option.isSome_iff_exists.mp hk
    have hfields := reads_fields (k := k) (fun x hx => hfs x (List.mem_cons_of_mem _ hx)) hv fuel depth (nodes + 1) [] hf rest
    rw [renderDict, List.cons_append, Json.skip_cons (by decide), List.append_assoc]
    simp only [ok_bind]
    split
    · rfl
    · rw [renderField, List.append_assoc, Json.quote_append] at hfields ⊢
      rw [Json.skip_cons (by decide)]
      split
      · next he => exact absurd (List.cons.inj he).1 (by decide)
      · rw [hfields]
        cases checkFields depth (nodes + 1) [] ((some k, v) :: fs) <;> rfl

theorem writable_ne_other {v : Value} {d : Nat} {n : Bool} (h : ∀ e ∈ tree d n v, Writable e) : v ≠ .other := by
  rintro rfl
  exact h _ (List.mem_singleton_self _)

/-- The bounded parser on the text of a value. -/
theorem reads (v : Value) (d : Nat) (n : Bool) (hw : ∀ e ∈ tree d n v, Writable e) : Reads v := by
  induction v using Value.induction generalizing d n with
  | none => exact reads_none
  | bool b => exact reads_bool b
  | int i => exact reads_int i
  | str s => exact reads_str s
  | other => exact absurd rfl (writable_ne_other hw)
  | list vs ih =>
    have hvs : ∀ v ∈ vs, Reads v ∧ v ≠ .other := fun v hv =>
      have hv' := (forall_tree.mp hw).2 _ (List.mem_map.mpr ⟨v, hv, rfl⟩)
      ⟨ih v hv _ _ hv', writable_ne_other hv'⟩
    refine .intro (by simp) fun fuel depth nodes rest hnode hf hr => ?_
    rw [render, check, hnode, reads_list hvs hf hnode, lists_list]
    rfl
  | tuple vs ih =>
    have hvs : ∀ v ∈ vs, Reads v ∧ v ≠ .other := fun v hv =>
      have hv' := (forall_tree.mp hw).2 _ (List.mem_map.mpr ⟨v, hv, rfl⟩)
      ⟨ih v hv _ _ hv', writable_ne_other hv'⟩
    refine .intro (by simp) fun fuel depth nodes rest hnode hf hr => ?_
    rw [render, check, hnode, reads_list hvs hf hnode, lists_tuple]
    rfl
  | dict fs ih =>
    have hfs : ∀ f ∈ fs, Reads f.2 ∧ f.1.isSome := by
      intro f hf
      have hk := (forall_tree.mp hw).1 f hf
      obtain ⟨k, v⟩ := f
      obtain ⟨k, rfl⟩ := Option.isSome_iff_exists.mp hk
      have hv : (v, d + 1, n || k == "immutable_business_parameters") ∈ children d n (.dict fs) :=
        List.mem_flatMap.mpr ⟨_, hf, List.mem_cons_of_mem _ (List.mem_singleton_self _)⟩
      exact ⟨ih _ hf _ _ ((forall_tree.mp hw).2 _ hv), hk⟩
    refine .intro (by simp) fun fuel depth nodes rest hnode hf hr => ?_
    rw [render, check, hnode, reads_dict hfs hf hnode, lists_dict]
    rfl

/-! ## The limits of the two directions -/

/-- The keys of a `dict` are distinct. -/
def Distinct : StackEntry → Prop
  | (.dict fs, _, _) => (fs.map Prod.fst).Nodup
  | _ => True

/-- Within the limits of the bounded parser, and a value whose text it can read. -/
def Fits (e : StackEntry) : Prop := Limit e ∧ Short e ∧ Writable e ∧ Distinct e

/-- What the walk says of a value, whether it may be negative or not. -/
def CheckOk (v : Value) : Prop :=
  ∀ d n nodes m, check d nodes v = .ok m ↔
    m = nodes + (tree d n v).length ∧ m ≤ maxNodes ∧ ∀ e ∈ tree d n v, Fits e

theorem checkItems_ok {vs : List Value} (hv : ∀ v ∈ vs, CheckOk v) {d nodes size m : Nat} (n : Bool)
    (hn : nodes ≤ maxNodes) (hs : size ≤ maxCollection) :
    checkItems d nodes size vs = .ok m ↔
      m = nodes + (treeItems (d + 1) n vs).length ∧ m ≤ maxNodes ∧ size + vs.length ≤ maxCollection ∧
        ∀ e ∈ treeItems (d + 1) n vs, Fits e := by
  induction vs generalizing nodes size with
  | nil =>
    simp only [checkItems, treeItems, Except.ok.injEq, List.length_nil, List.not_mem_nil]
    constructor
    · rintro rfl
      exact ⟨rfl, hn, hs, by simp⟩
    · exact fun h => h.1.symm
  | cons v vs ih =>
    rw [checkItems, treeItems]
    split
    · next hc =>
      simp only [reduceCtorEq, List.length_cons, false_iff]
      intro h
      omega
    · next hc =>
      have hvs := @ih fun v hv' => hv v (List.mem_cons_of_mem _ hv')
      simp only [bind_eq_ok, hv v (List.mem_cons_self ..) (d + 1) n, List.length_append, List.length_cons,
        List.forall_mem_append]
      constructor
      · rintro ⟨m', ⟨hm', hle, hf⟩, h⟩
        obtain ⟨hm, hle', hsize, hfs⟩ := (hvs hle (by omega)).mp h
        exact ⟨by omega, hle', by omega, hf, hfs⟩
      · rintro ⟨hm, hle, hsize, hf, hfs⟩
        refine ⟨_, ⟨rfl, by omega, hf⟩, (hvs (by omega) (by omega)).mpr ⟨by omega, hle, by omega, hfs⟩⟩

theorem checkField_ok {f : Option String × Value} (hv : CheckOk f.2) {d nodes m : Nat} {keys : List String} {key : String}
    (n : Bool) :
    checkField d nodes keys f = .ok (key, m) ↔
      f.1 = some key ∧ key ∉ keys ∧ m = nodes + (treeField d n f).length ∧ m ≤ maxNodes ∧
        ∀ e ∈ treeField d n f, Fits e := by
  obtain ⟨k, v⟩ := f
  cases k with
  | none => simp [checkField]
  | some k =>
    have hkey : Fits (.str k, d + 1, false) ↔ k.utf8ByteSize ≤ maxStringBytes := by simp [Fits, Limit, Short, Writable, Distinct]
    replace hv : CheckOk v := hv
    have hvn := hv (d + 1) (n || k == "immutable_business_parameters")
    simp only [checkField, treeField, bind_eq_ok, node_ok, Option.some.injEq, List.length_cons, List.forall_mem_cons, hkey]
    constructor
    · rintro ⟨m₁, ⟨rfl, hle⟩, h⟩
      split at h
      · cases h
      split at h
      · cases h
      · next hlen hmem =>
        obtain ⟨m₂, hm₂, h⟩ := bind_eq_ok.mp h
        cases h
        obtain ⟨hm, hle', hf⟩ := (hvn _ _).mp hm₂
        exact ⟨rfl, hmem, by omega, hle', Nat.not_lt.mp hlen, hf⟩
    · rintro ⟨rfl, hmem, hm, hle, hlen, hf⟩
      refine ⟨nodes + 1, ⟨rfl, by omega⟩, ?_⟩
      rw [if_neg (Nat.not_lt.mpr hlen), if_neg hmem]
      exact bind_eq_ok.mpr ⟨m, (hvn _ _).mpr ⟨by omega, hle, hf⟩, rfl⟩

theorem checkFields_ok {fs : List (Option String × Value)} (hv : ∀ f ∈ fs, CheckOk f.2) {d nodes m : Nat}
    {keys : List String} (n : Bool) (hn : nodes ≤ maxNodes) (hs : keys.length ≤ maxCollection) :
    checkFields d nodes keys fs = .ok m ↔
      m = nodes + (treeFields d n fs).length ∧ m ≤ maxNodes ∧ keys.length + fs.length ≤ maxCollection ∧
        (∀ f ∈ fs, f.1.isSome) ∧ (fs.map Prod.fst).Nodup ∧ (∀ k ∈ keys, some k ∉ fs.map Prod.fst) ∧
        ∀ e ∈ treeFields d n fs, Fits e := by
  induction fs generalizing nodes keys with
  | nil =>
    simp only [checkFields, treeFields, Except.ok.injEq, List.length_nil, List.not_mem_nil]
    constructor
    · rintro rfl
      exact ⟨rfl, hn, hs, by simp⟩
    · exact fun h => h.1.symm
  | cons f fs ih =>
    rw [checkFields, treeFields]
    split
    · next hc =>
      simp only [reduceCtorEq, List.length_cons, false_iff]
      intro h
      omega
    · next hc =>
      have hfs := @ih fun f hf => hv f (List.mem_cons_of_mem _ hf)
      simp only [bind_eq_ok, Prod.exists, checkField_ok (hv f (List.mem_cons_self ..)) n, List.length_append,
        List.length_cons, List.forall_mem_append, List.forall_mem_cons, List.map_cons, List.nodup_cons]
      simp only [List.mem_cons, not_or]
      constructor
      · rintro ⟨key, m', ⟨hkey, hmem, hm', hle, hf⟩, h⟩
        obtain ⟨hm, hle', hsize, hsome, hnodup, hkeys, hrest⟩ := (hfs hle (by rw [List.length_cons]; omega)).mp h
        rw [List.length_cons] at hsize
        rw [hkey]
        refine ⟨by omega, hle', by omega, ⟨rfl, hsome⟩, ⟨hkeys key (List.mem_cons_self ..), hnodup⟩, fun k hk => ⟨?_, ?_⟩, hf,
          hrest⟩
        · rintro ⟨rfl⟩
          exact hmem hk
        · exact hkeys k (List.mem_cons_of_mem _ hk)
      · rintro ⟨hm, hle, hsize, ⟨hk, hsome⟩, ⟨hnew, hnodup⟩, hkeys, hf, hrest⟩
        obtain ⟨key, hkey⟩ := Option.isSome_iff_exists.mp hk
        rw [hkey] at hnew hkeys
        refine ⟨key, _, ⟨hkey, fun hmem => (hkeys key hmem).1 rfl, rfl, by omega, hf⟩, ?_⟩
        refine (hfs (by omega) (by rw [List.length_cons]; omega)).mpr
          ⟨by omega, hle, by rw [List.length_cons]; omega, hsome, hnodup, ?_, hrest⟩
        intro k hk
        rcases List.mem_cons.mp hk with rfl | hk
        · exact hnew
        · exact (hkeys k hk).2

theorem checkList_ok {vs : List Value} (hv : ∀ v ∈ vs, CheckOk v) {d nodes m : Nat} (n : Bool) :
    (node nodes >>= fun nodes => if maxDepth ≤ d then .error depthError else checkItems d nodes 0 vs) = .ok m ↔
      m = nodes + ((treeItems (d + 1) n vs).length + 1) ∧ m ≤ maxNodes ∧ (d < maxDepth ∧ vs.length ≤ maxCollection) ∧
        ∀ e ∈ treeItems (d + 1) n vs, Fits e := by
  simp only [bind_eq_ok, node_ok]
  constructor
  · rintro ⟨m', ⟨rfl, hle⟩, h⟩
    split at h
    · cases h
    · next hd =>
      obtain ⟨hm, hle', hsize, hf⟩ := (checkItems_ok hv n hle (Nat.zero_le _)).mp h
      exact ⟨by omega, hle', ⟨Nat.not_le.mp hd, by omega⟩, hf⟩
  · rintro ⟨hm, hle, ⟨hd, hsize⟩, hf⟩
    refine ⟨nodes + 1, ⟨rfl, by omega⟩, ?_⟩
    rw [if_neg (Nat.not_le.mpr hd)]
    exact (checkItems_ok hv n (by omega) (Nat.zero_le _)).mpr ⟨by omega, hle, by omega, hf⟩

/-- The walk accepts a value of few enough nodes when each of them fits. -/
theorem check_ok (v : Value) : CheckOk v := by
  induction v using Value.induction with
  | none =>
    intro d n nodes m
    simp only [check, node_ok, tree, List.length_singleton, List.forall_mem_singleton, Fits, Limit, Short, Writable,
      Distinct, and_true]
  | bool b =>
    intro d n nodes m
    simp only [check, node_ok, tree, List.length_singleton, List.forall_mem_singleton, Fits, Limit, Short, Writable,
      Distinct, and_true]
  | other =>
    intro d n nodes m
    simp only [check, reduceCtorEq, tree, List.forall_mem_singleton, Fits, Writable, false_and, and_false]
  | int i =>
    intro d n nodes m
    simp only [check, bind_eq_ok, node_ok, tree, List.length_singleton, List.forall_mem_singleton, Fits, Limit, Short,
      Writable, Distinct, true_and, and_true]
    constructor
    · rintro ⟨m', ⟨rfl, hle⟩, h⟩
      split at h <;> cases h
      next hs => exact ⟨rfl, hle, hs⟩
    · rintro ⟨rfl, hle, hs⟩
      exact ⟨_, ⟨rfl, hle⟩, if_pos hs⟩
  | str s =>
    intro d n nodes m
    simp only [check, bind_eq_ok, node_ok, tree, List.length_singleton, List.forall_mem_singleton, Fits, Limit, Short,
      Writable, Distinct, and_true]
    constructor
    · rintro ⟨m', ⟨rfl, hle⟩, h⟩
      split at h <;> cases h
      next hs => exact ⟨rfl, hle, Nat.not_lt.mp hs⟩
    · rintro ⟨rfl, hle, hs⟩
      exact ⟨_, ⟨rfl, hle⟩, if_neg (Nat.not_lt.mpr hs)⟩
  | list vs ih =>
    intro d n nodes m
    rw [check, checkList_ok ih n, tree, List.length_cons, List.forall_mem_cons]
    simp only [Fits, Limit, Short, Writable, Distinct, and_true]
  | tuple vs ih =>
    intro d n nodes m
    rw [check, checkList_ok ih n, tree, List.length_cons, List.forall_mem_cons]
    simp only [Fits, Limit, Short, Writable, Distinct, and_true]
  | dict fs ih =>
    intro d n nodes m
    simp only [check, bind_eq_ok, node_ok, tree, List.length_cons, List.forall_mem_cons, Fits, Limit, Short, Writable,
      Distinct, true_and]
    constructor
    · rintro ⟨m', ⟨rfl, hle⟩, h⟩
      split at h
      · cases h
      · next hd =>
        obtain ⟨hm, hle', hsize, hsome, hnodup, -, hf⟩ := (checkFields_ok ih n hle (by simp [maxCollection])).mp h
        rw [List.length_nil, Nat.zero_add] at hsize
        exact ⟨by omega, hle', ⟨⟨Nat.not_le.mp hd, hsize⟩, hsome, hnodup⟩, hf⟩
    · rintro ⟨hm, hle, ⟨⟨hd, hsize⟩, hsome, hnodup⟩, hf⟩
      refine ⟨nodes + 1, ⟨rfl, by omega⟩, ?_⟩
      rw [if_neg (Nat.not_le.mpr hd)]
      exact (checkFields_ok ih n (by omega) (by simp [maxCollection])).mpr
        ⟨by omega, hle, by simpa using hsize, hsome, hnodup, by simp, hf⟩

/-! ## Round trip -/

/-- A value that Python can hold: the keys of every `dict` are distinct. -/
def WellFormed (v : Value) : Prop := ∀ e ∈ tree 0 false v, Distinct e

/-- Within the limits on nodes, depth, collections and texts. -/
def Within (v : Value) : Prop := count v ≤ maxNodes ∧ ∀ e ∈ tree 0 false v, Limit e

/-- Equal in Python, where the order of the items of a `dict` does not matter. -/
def Equal (v w : Value) : Prop := normal v = normal w

theorem limit_normal (e : StackEntry) : Limit (mapEntry normal e) ↔ Limit e := by
  obtain ⟨v, d, n⟩ := e
  cases v with
  | list vs => simp [mapEntry, Limit]
  | tuple vs => simp [mapEntry, Limit]
  | dict fs => simp [mapEntry, Limit, (sortFields_perm fs).length_eq]
  | _ => exact Iff.rfl

theorem map_mapField_fst (g : Value → Value) (fs : List (Option String × Value)) :
    (fs.map (mapField g)).map Prod.fst = fs.map Prod.fst := by
  rw [List.map_map]
  rfl

theorem distinct_normal (e : StackEntry) : Distinct (mapEntry normal e) ↔ Distinct e := by
  obtain ⟨v, d, n⟩ := e
  cases v with
  | list vs => simp [mapEntry, Distinct]
  | tuple vs => simp [mapEntry, Distinct]
  | dict fs =>
    rw [mapEntry, normal_dict, Distinct, Distinct, map_mapField_fst]
    exact ((sortFields_perm fs).map Prod.fst).nodup_iff
  | _ => exact Iff.rfl

/-- The limits of the bounded parser on the text of a value are those of `_canonical_value`. -/
theorem check_normal {v : Value} {text : List Char} (h : Chunks (iterencode [] (normal v)) text) :
    (∃ m, check 0 0 (normal v) = .ok m) ↔ WellFormed v ∧ Within v := by
  have hwrite := (encodes (normal v) [] text h).2 0 false
  have hp := tree_map children_normal v 0 false
  have hlength : (tree 0 false (normal v)).length = count v := by rw [hp.length_eq, List.length_map, count]
  have hfits : (∀ e ∈ tree 0 false (normal v), Fits e) ↔ WellFormed v ∧ ∀ e ∈ tree 0 false v, Limit e := by
    have hsplit : (∀ e ∈ tree 0 false (normal v), Fits e) ↔ ∀ e ∈ tree 0 false (normal v), Distinct e ∧ Limit e :=
      forall₂_congr fun e he => by simp only [Fits, hwrite e he, true_and, and_comm]
    rw [hsplit]
    simp only [hp.mem_iff, List.forall_mem_map, distinct_normal, limit_normal, WellFormed, forall_and]
  simp only [check_ok (normal v) 0 false, hlength, hfits, exists_eq_left, Nat.zero_add, Within]
  tauto

/-- The bounded parser on the text of a value. -/
theorem value_text {v : Value} {text : List Char} (h : Chunks (iterencode [] (normal v)) text) :
    value (2 * maxNodes) 0 0 text = (check 0 0 (normal v)).map fun m => (canonical v, m, []) := by
  obtain ⟨rfl, hw⟩ := encodes (normal v) [] text h
  have hread := reads (normal v) 0 false (fun e he => (hw 0 false e he).1) (2 * maxNodes) 0 0 [] le_rfl (by simp [Ends])
  rwa [List.append_nil] at hread

theorem fromUTF8_toByteArray (s : String) : String.fromUTF8? s.toByteArray = some s := by
  rw [String.fromUTF8?, dif_pos s.isValidUTF8]
  rfl

theorem canonicalBytes_ok {py : Platform} {v : Value} {raw : ByteArray} (h : canonicalBytes py v = .ok raw) :
    canonicalValue py v = .ok () ∧ ∃ text, Chunks (iterencode [] (normal v)) text ∧ raw = (String.ofList text).toByteArray ∧
      raw.size ≤ maxCanonicalBytes := by
  obtain ⟨⟨⟩, hv, h⟩ := bind_eq_ok.mp h
  obtain ⟨text, htext, h⟩ := bind_eq_ok.mp h
  cases h
  obtain ⟨hchunks, hsize⟩ := join_ok htext
  refine ⟨hv, text, hchunks, rfl, ?_⟩
  have hne : iterencode [] (normal v) ≠ [] := by cases normal v <;> simp [iterencode]
  rw [Nat.zero_add] at hsize
  exact hsize hne

theorem isDict_canonical (v : Value) : (canonical v).isDict = v.isDict := by
  cases v <;> simp [canonical, normal, lists, Value.isDict]

theorem parse_canonicalBytes {py : Platform} {v : Value} {raw : ByteArray} (hd : v.isDict = true) (hw : WellFormed v)
    (h : canonicalBytes py v = .ok raw) : parseCanonical py raw = .ok (canonical v) := by
  obtain ⟨hv, text, hchunks, rfl, hsize⟩ := canonicalBytes_ok h
  obtain ⟨hcount, hlimit⟩ := canonicalValue_ok.mp hv
  obtain ⟨m, hm⟩ := (check_normal hchunks).mpr ⟨hw, hcount, fun e he => (hlimit e he).1⟩
  have hread := value_text hchunks
  rw [hm] at hread
  rw [parseCanonical, if_neg (Nat.not_lt.mpr hsize), fromUTF8_toByteArray]
  simp only [String.toList_ofList, hread, Except.map, ok_bind, isDict_canonical, hd, canonicalBytes_canonical h]
  rfl

/-- What is parsed is the canonical form of itself, and has the bytes that were parsed. -/
theorem parseCanonical_ok {py : Platform} {v : Value} {raw : ByteArray} (h : parseCanonical py raw = .ok v) :
    v.isDict = true ∧ WellFormed v ∧ canonicalBytes py v = .ok raw := by
  rw [parseCanonical] at h
  split at h
  · cases h
  · split at h
    · cases h
    · next text htext =>
      obtain ⟨⟨v', m, rest⟩, hvalue, h⟩ := bind_eq_ok.mp h
      simp only at h
      split at h
      · cases h
      · next hdict =>
        split at h
        · cases h
        · obtain ⟨encoded, hencoded, h⟩ := bind_eq_ok.mp h
          split at h
          · next heq =>
            cases h
            subst heq
            refine ⟨by simpa using hdict, ?_, hencoded⟩
            obtain ⟨-, text', hchunks, hraw, -⟩ := canonicalBytes_ok hencoded
            rw [hraw, fromUTF8_toByteArray, Option.some.injEq] at htext
            subst htext
            rw [String.toList_ofList, value_text hchunks] at hvalue
            cases hcheck : check 0 0 (normal v) with
            | error e =>
              rw [hcheck] at hvalue
              cases hvalue
            | ok m' => exact ((check_normal hchunks).mp ⟨m', hcheck⟩).1
          · cases h

/-- A `dict` that is encoded reads back with its tuples as lists; what is read back is what was
encoded, one text for each value; and encoding and decoding have the same limits. -/
theorem canonical_round_trip (py : Platform) :
    (∀ v raw, v.isDict = true → WellFormed v → canonicalBytes py v = .ok raw →
      ∃ w, parseCanonical py raw = .ok w ∧ Equal w (lists v)) ∧
    (∀ raw v, parseCanonical py raw = .ok v → canonicalBytes py v = .ok raw) ∧
    (∀ raw, (∃ v, parseCanonical py raw = .ok v) ↔
      ∃ v, v.isDict = true ∧ WellFormed v ∧ canonicalBytes py v = .ok raw) ∧
    (∀ raw raw' v v', parseCanonical py raw = .ok v → parseCanonical py raw' = .ok v' → Equal v v' → raw = raw') ∧
    (∀ v, canonicalValue py v = .ok () ↔ Within v ∧ ∀ e ∈ tree 0 false v, Admissible py e) ∧
    (∀ v text, WellFormed v → Chunks (iterencode [] (normal v)) text →
      ((∃ r, value (2 * maxNodes) 0 0 text = .ok r) ↔ Within v)) := by
  refine ⟨fun v raw hd hw h => ?_, fun raw v h => (parseCanonical_ok h).2.2, fun raw => ⟨?_, ?_⟩, ?_, fun v => ?_,
    fun v text hw h => ?_⟩
  · refine ⟨canonical v, parse_canonicalBytes hd hw h, ?_⟩
    rw [Equal, canonical, normal_lists, normal_normal, normal_lists]
  · rintro ⟨v, h⟩
    exact ⟨v, parseCanonical_ok h⟩
  · rintro ⟨v, hd, hw, h⟩
    exact ⟨canonical v, parse_canonicalBytes hd hw h⟩
  · intro raw raw' v v' h h' heq
    have hraw := canonicalBytes_canonical (parseCanonical_ok h).2.2
    have hraw' := canonicalBytes_canonical (parseCanonical_ok h').2.2
    rw [canonical, heq] at hraw
    exact Except.ok.inj (hraw.symm.trans hraw')
  · rw [canonicalValue_ok, Within, and_assoc]
    simp only [forall_and]
  · have hcheck : (∃ m, check 0 0 (normal v) = .ok m) ↔ Within v := (check_normal h).trans (and_iff_right hw)
    rw [value_text h, ← hcheck]
    cases check 0 0 (normal v) <;> simp [Except.map]

/-- A platform on which every text is in normal form C, as every ASCII text is. -/
def asciiPlatform : Platform := ⟨fun _ => true, fun _ => ⟨0, Nat.two_pow_pos 256⟩⟩

/-- A request with one list. -/
def listRequest : Value := .dict [(some "a", .list [.int 1])]

/-- The same request with a tuple. -/
def tupleRequest : Value := .dict [(some "a", .tuple [.int 1])]

theorem wellFormed_listRequest : WellFormed listRequest := by
  simp [WellFormed, listRequest, tree, treeFields, treeField, treeItems, Distinct]

theorem wellFormed_tupleRequest : WellFormed tupleRequest := by
  simp [WellFormed, tupleRequest, tree, treeFields, treeField, treeItems, Distinct]

def requestBytes : ByteArray := (String.ofList ['\x7b', '"', 'a', '"', ':', '[', '1', ']', '\x7d']).toByteArray

theorem canonical_round_trip_listRequest :
    canonicalBytes asciiPlatform listRequest = .ok requestBytes ∧
      ∃ w, parseCanonical asciiPlatform requestBytes = .ok w ∧ Equal w (lists listRequest) :=
  have h : canonicalBytes asciiPlatform listRequest = .ok requestBytes := by rfl
  ⟨h, (canonical_round_trip asciiPlatform).1 listRequest requestBytes rfl wellFormed_listRequest h⟩

/-- A tuple does not read back as a tuple. -/
theorem tuple_reads_as_list :
    tupleRequest.isDict = true ∧ WellFormed tupleRequest ∧
      canonicalBytes asciiPlatform tupleRequest = .ok requestBytes ∧
      ¬ ∃ w, parseCanonical asciiPlatform requestBytes = .ok w ∧ Equal w tupleRequest := by
  have h : canonicalBytes asciiPlatform tupleRequest = .ok requestBytes := by rfl
  refine ⟨rfl, wellFormed_tupleRequest, h, ?_⟩
  rintro ⟨w, hw, heq⟩
  rw [parse_canonicalBytes rfl wellFormed_tupleRequest h] at hw
  cases hw
  have hne : normal (canonical tupleRequest) ≠ normal tupleRequest := by
    simp [tupleRequest, canonical, sortFields, mapField]
  exact hne heq

end ATB.Proof.IdentityScope
