import AutomatedTradingBot.Framework.Dict
import AutomatedTradingBot.Framework.Outcome

/-!
# Collections with one value for a key

A loop keeps each value of a collection under its key, and refuses a value that differs
from the one that is kept under its key. Which values it refuses depends on the members of
the collection only, and so does what it keeps, up to order.

* `collect_of_consistent`, `collect_of_conflict`: the loop keeps the members of a collection
  in which a key determines the value, and refuses every other collection;
* `collect_perm`: collections with the same members are kept alike.
-/

namespace ATB.Collect

variable {α κ ε : Type} [DecidableEq κ] {conflict : ε} {key : α → κ} {differ : α → α → Bool} {values values' : List α}

/-- One value of the collection. -/
def keep (conflict : ε) (key : α → κ) (differ : α → α → Bool) (found : List (κ × α)) (value : α) :
    Except ε (List (κ × α)) := do
  raiseIf ((Dict.get? (key value) found).any fun previous => differ previous value) conflict
  return Dict.set (key value) value found

def collect (conflict : ε) (key : α → κ) (differ : α → α → Bool) (values : List α) : Except ε (List (κ × α)) :=
  values.foldlM (keep conflict key differ) []

/-- The comparison of two values of one key says whether they are one. -/
def Tells (key : α → κ) (differ : α → α → Bool) : Prop := ∀ a b, key a = key b → (differ a b = true ↔ a ≠ b)

/-- Values with one key are one value. -/
def Consistent (key : α → κ) (values : List α) : Prop := ∀ a ∈ values, ∀ b ∈ values, key a = key b → a = b

/-- What the loop has found: each value under its key. -/
structure Found (key : α → κ) (found : List (κ × α)) : Prop where
  keyed : Dict.Keyed key found
  nodup : (Dict.keys found).Nodup

section Found

variable {found : List (κ × α)}

omit [DecidableEq κ] in
theorem Found.nil : Found key ([] : List (κ × α)) := ⟨fun _ h => (by cases h), List.nodup_nil⟩

omit [DecidableEq κ] in
theorem Found.key_nodup (h : Found key found) : ((Dict.values found).map key).Nodup := by
  rw [Dict.map_values_of_keyed h.keyed]
  exact h.nodup

theorem set_known {k : κ} {value : α} (h : Dict.get? k found = some value) : Dict.set k value found = found := by
  obtain ⟨l, r, hd, hs⟩ := Dict.exists_split_set h value
  rw [hs, ← hd]

/-- A value that was found before, or is found now, is accepted. -/
theorem keep_of_agree (conflict : ε) (htells : Tells key differ) {value : α} (hf : Found key found)
    (h : ∀ a ∈ Dict.values found, key a = key value → a = value) :
    ∃ found', keep conflict key differ found value = .ok found' ∧ Found key found' ∧
      ∀ x, x ∈ Dict.values found' ↔ x ∈ Dict.values found ∨ x = value := by
  refine ⟨Dict.set (key value) value found, ?_, ⟨Dict.keyed_set hf.keyed rfl, Dict.nodup_keys_set hf.nodup _ _⟩, ?_⟩
  · cases hg : Dict.get? (key value) found with
    | none => rw [keep, hg]; rfl
    | some a =>
      have hm := Dict.mem_of_get? hg
      obtain rfl := h a (List.mem_map.mpr ⟨_, hm, rfl⟩) (hf.keyed _ hm)
      have hsame : ¬ differ a a = true := fun hd => (htells a a rfl).mp hd rfl
      rw [keep, hg, Option.any_some, raiseIf_of_not hsame]
      rfl
  · intro x
    cases hg : Dict.get? (key value) found with
    | none => simp [Dict.set_eq_append hg, Dict.values]
    | some a =>
      have hm := Dict.mem_of_get? hg
      obtain rfl := h a (List.mem_map.mpr ⟨_, hm, rfl⟩) (hf.keyed _ hm)
      have ha : a ∈ Dict.values found := List.mem_map.mpr ⟨_, hm, rfl⟩
      rw [set_known hg]
      exact ⟨Or.inl, fun hx => hx.elim id fun e => e ▸ ha⟩

/-- A value whose key was found for another value is refused. -/
theorem keep_of_conflict (htells : Tells key differ) {value a : α} (hf : Found key found) (ha : a ∈ Dict.values found)
    (hkey : key a = key value) (hne : a ≠ value) : keep conflict key differ found value = .error conflict := by
  obtain ⟨⟨k, b⟩, hm, rfl⟩ := List.mem_map.mp ha
  have hk : key value = k := hkey.symm.trans (hf.keyed _ hm)
  rw [keep, hk, Dict.get?_of_mem hf.nodup hm, Option.any_some, raiseIf_of ((htells b value hkey).mpr hne)]
  rfl

/-- The loop finds every value of a consistent collection. -/
theorem keeps_of_consistent (conflict : ε) (htells : Tells key differ) (hf : Found key found)
    (h : Consistent key (Dict.values found ++ values)) :
    ∃ found', values.foldlM (keep conflict key differ) found = .ok found' ∧ Found key found' ∧
      ∀ x, x ∈ Dict.values found' ↔ x ∈ Dict.values found ∨ x ∈ values := by
  induction values generalizing found with
  | nil => exact ⟨found, rfl, hf, by simp⟩
  | cons v vs ih =>
    obtain ⟨found₁, hk, hf₁, hm₁⟩ := keep_of_agree conflict htells hf fun a ha he => h a (by simp [ha]) v (by simp) he
    have hsub : ∀ x ∈ Dict.values found₁ ++ vs, x ∈ Dict.values found ++ v :: vs := fun x hx => by
      simp only [List.mem_append, hm₁, List.mem_cons] at hx ⊢
      tauto
    obtain ⟨found', hr, hf', hm'⟩ := ih hf₁ fun a ha b hb => h a (hsub a ha) b (hsub b hb)
    refine ⟨found', by rw [List.foldlM_cons, hk, ok_bind, hr], hf', fun x => ?_⟩
    rw [hm', hm₁, List.mem_cons, or_assoc]

/-- The loop refuses a collection that is not consistent. -/
theorem keeps_of_conflict (htells : Tells key differ) (hf : Found key found)
    (h : ¬ Consistent key (Dict.values found ++ values)) :
    values.foldlM (keep conflict key differ) found = .error conflict := by
  induction values generalizing found with
  | nil =>
    refine absurd (fun a ha b hb he => ?_) h
    rw [List.append_nil] at ha hb
    exact List.inj_on_of_nodup_map hf.key_nodup ha hb he
  | cons v vs ih =>
    by_cases hv : ∀ a ∈ Dict.values found, key a = key v → a = v
    · obtain ⟨found₁, hk, hf₁, hm₁⟩ := keep_of_agree conflict htells hf hv
      rw [List.foldlM_cons, hk, ok_bind]
      have hsub : ∀ x ∈ Dict.values found ++ v :: vs, x ∈ Dict.values found₁ ++ vs := fun x hx => by
        simp only [List.mem_append, hm₁, List.mem_cons] at hx ⊢
        tauto
      exact ih hf₁ fun hc => h fun a ha b hb => hc a (hsub a ha) b (hsub b hb)
    · push Not at hv
      obtain ⟨a, ha, hkey, hne⟩ := hv
      rw [List.foldlM_cons, keep_of_conflict htells hf ha hkey hne, error_bind]

end Found

/-! ## A whole collection -/

omit [DecidableEq κ] in
theorem Consistent.congr (h : ∀ x, x ∈ values ↔ x ∈ values') (hc : Consistent key values) : Consistent key values' :=
  fun a ha b hb => hc a ((h a).mpr ha) b ((h b).mpr hb)

theorem collect_of_consistent (conflict : ε) (htells : Tells key differ) (h : Consistent key values) :
    ∃ found, collect conflict key differ values = .ok found ∧ Found key found ∧ ∀ x, x ∈ Dict.values found ↔ x ∈ values := by
  obtain ⟨found, hr, hf, hm⟩ := keeps_of_consistent conflict htells Found.nil (by simpa [Dict.values] using h)
  exact ⟨found, hr, hf, fun x => by simpa [Dict.values] using hm x⟩

theorem collect_of_conflict (htells : Tells key differ) (h : ¬ Consistent key values) :
    collect conflict key differ values = .error conflict :=
  keeps_of_conflict htells Found.nil (by simpa [Dict.values] using h)

/-- What is kept of a collection: its members, whose keys tell them apart. -/
theorem collect_eq_ok (htells : Tells key differ) {found : List (κ × α)}
    (h : collect conflict key differ values = .ok found) :
    Consistent key values ∧ Found key found ∧ ∀ x, x ∈ Dict.values found ↔ x ∈ values := by
  by_cases hc : Consistent key values
  · obtain ⟨found', hr, hf, hm⟩ := collect_of_consistent conflict htells hc
    rw [hr] at h
    cases h
    exact ⟨hc, hf, hm⟩
  · rw [collect_of_conflict htells hc] at h
    cases h

/-- Collections with the same members are kept alike. -/
theorem collect_perm (htells : Tells key differ) (hsame : ∀ x, x ∈ values ↔ x ∈ values') {found : List (κ × α)}
    (h : collect conflict key differ values = .ok found) :
    ∃ found', collect conflict key differ values' = .ok found' ∧ (Dict.values found).Perm (Dict.values found') := by
  obtain ⟨hc, hf, hm⟩ := collect_eq_ok htells h
  obtain ⟨found', hr, hf', hm'⟩ := collect_of_consistent conflict htells (hc.congr hsame)
  refine ⟨found', hr, (List.perm_ext_iff_of_nodup hf.key_nodup.of_map hf'.key_nodup.of_map).mpr fun x => ?_⟩
  rw [hm, hm', hsame]

end ATB.Collect
