import AutomatedTradingBot.Framework.Outcome
import Mathlib.Algebra.BigOperators.Group.List.Basic
import Mathlib.Data.List.Nodup
import Mathlib.Tactic.Abel

/-!
# Insertion-ordered dictionaries

A Python `dict` as the list of its items in insertion order. `set` replaces the
value of a present key in place and appends an absent one, as `d[k] = v` does;
`ofList` is the dictionary of a comprehension (a later pair wins), and `counter`
is `collections.Counter`.

* `get?_set`, `get?_ofList_of_nodup`: reading after writing;
* `set_eq_append`, `exists_split_set`: writing an absent or a present key, as
  lists; `sum_values_set` is what it does to a sum over the values;
* `get?_foldlM_set`: reading after a loop that keeps what a key has;
* `mem_counter`, `get?_counter`: what a counter holds.
-/

namespace ATB.Dict

variable {κ α : Type} [DecidableEq κ]

/-- `d.get(k)`. -/
def get? (k : κ) : List (κ × α) → Option α
  | [] => none
  | (k', v) :: d => if k' = k then some v else get? k d

/-- `d[k] = v`. -/
def set (k : κ) (v : α) : List (κ × α) → List (κ × α)
  | [] => [(k, v)]
  | (k', v') :: d => if k' = k then (k, v) :: d else (k', v') :: set k v d

/-- `{k: v for k, v in l}`. -/
def ofList (l : List (κ × α)) : List (κ × α) := l.foldl (fun d p => set p.1 p.2 d) []

/-- `{key(x): x for x in l}`. -/
def ofKeys (key : α → κ) (l : List α) : List (κ × α) := ofList (l.map fun x => (key x, x))

/-- `Counter(l)`. -/
def counter (l : List κ) : List (κ × Nat) :=
  l.foldl (fun d k => set k ((get? k d).getD 0 + 1) d) []

/-- The keys, in insertion order. -/
def keys (d : List (κ × α)) : List κ := d.map Prod.fst

/-- `d.values()`. -/
def values (d : List (κ × α)) : List α := d.map Prod.snd

theorem get?_set (k k' : κ) (v : α) (d : List (κ × α)) :
    get? k' (set k v d) = if k = k' then some v else get? k' d := by
  induction d with
  | nil => simp [set, get?]
  | cons p d ih =>
    obtain ⟨q, w⟩ := p
    simp only [set]
    by_cases hq : q = k
    · subst hq
      by_cases hk : q = k' <;> simp [get?, hk]
    · rw [if_neg hq]
      by_cases hk : q = k'
      · have : ¬ k = k' := fun e => hq (hk.trans e.symm)
        simp [get?, hk, this]
      · simp [get?, hk, ih]

theorem get?_set_self (k : κ) (v : α) (d : List (κ × α)) : get? k (set k v d) = some v := by
  rw [get?_set, if_pos rfl]

theorem get?_set_ne {k k' : κ} (h : k ≠ k') (v : α) (d : List (κ × α)) :
    get? k' (set k v d) = get? k' d := by
  rw [get?_set, if_neg h]

theorem get?_eq_none {k : κ} {d : List (κ × α)} : get? k d = none ↔ k ∉ keys d := by
  induction d with
  | nil => simp [get?, keys]
  | cons p d ih =>
    obtain ⟨q, w⟩ := p
    by_cases hq : q = k
    · simp [get?, keys, hq]
    · simp only [get?, if_neg hq, ih, keys, List.map_cons, List.mem_cons, not_or]
      exact ⟨fun h => ⟨fun e => hq e.symm, h⟩, And.right⟩

theorem mem_of_get? {k : κ} {v : α} {d : List (κ × α)} (h : get? k d = some v) : (k, v) ∈ d := by
  induction d with
  | nil => cases h
  | cons p d ih =>
    obtain ⟨q, w⟩ := p
    by_cases hq : q = k
    · simp only [get?, if_pos hq, Option.some.injEq] at h
      simp [hq, h]
    · simp only [get?, if_neg hq] at h
      exact List.mem_cons_of_mem _ (ih h)

theorem get?_of_mem {k : κ} {v : α} {d : List (κ × α)} (hd : (keys d).Nodup) (h : (k, v) ∈ d) :
    get? k d = some v := by
  induction d with
  | nil => cases h
  | cons p d ih =>
    obtain ⟨q, w⟩ := p
    simp only [keys, List.map_cons, List.nodup_cons] at hd
    rcases List.mem_cons.mp h with e | h
    · cases e; simp [get?]
    · have hq : q ≠ k := fun e => hd.1 (e ▸ List.mem_map_of_mem h)
      simp only [get?, if_neg hq]
      exact ih hd.2 h

theorem keys_set (k : κ) (v : α) (d : List (κ × α)) :
    keys (set k v d) = if k ∈ keys d then keys d else keys d ++ [k] := by
  induction d with
  | nil => simp [set, keys]
  | cons p d ih =>
    obtain ⟨q, w⟩ := p
    by_cases hq : q = k
    · simp [set, hq, keys]
    · simp only [set, if_neg hq]
      simp only [keys, List.map_cons] at ih ⊢
      rw [ih]
      have : ¬ k = q := fun e => hq e.symm
      by_cases hm : k ∈ d.map Prod.fst <;> simp [hm, this]

theorem nodup_keys_set {d : List (κ × α)} (hd : (keys d).Nodup) (k : κ) (v : α) :
    (keys (set k v d)).Nodup := by
  rw [keys_set]
  split
  · exact hd
  · rename_i h
    rw [List.nodup_append]
    exact ⟨hd, List.nodup_singleton k, fun a ha b hb => by
      rw [List.mem_singleton.mp hb]; exact fun e => h (e ▸ ha)⟩

/-- An absent key is appended. -/
theorem set_eq_append {k : κ} {d : List (κ × α)} (h : get? k d = none) (v : α) :
    set k v d = d ++ [(k, v)] := by
  induction d with
  | nil => rfl
  | cons p d ih =>
    obtain ⟨q, w⟩ := p
    by_cases hq : q = k
    · simp [get?, hq] at h
    · simp only [get?, if_neg hq] at h
      simp [set, hq, ih h]

/-- A present key is replaced in place. -/
theorem exists_split_set {k : κ} {w : α} {d : List (κ × α)} (h : get? k d = some w) (v : α) :
    ∃ l r, d = l ++ (k, w) :: r ∧ set k v d = l ++ (k, v) :: r := by
  induction d with
  | nil => cases h
  | cons p d ih =>
    obtain ⟨q, u⟩ := p
    by_cases hq : q = k
    · simp only [get?, if_pos hq, Option.some.injEq] at h
      exact ⟨[], d, by simp [hq, h], by simp [set, hq]⟩
    · simp only [get?, if_neg hq] at h
      obtain ⟨l, r, e₁, e₂⟩ := ih h
      exact ⟨(q, u) :: l, r, by rw [e₁]; rfl, by simp [set, hq, e₂]⟩

theorem mem_set {k : κ} {v : α} {d : List (κ × α)} {p : κ × α} (h : p ∈ set k v d) :
    p = (k, v) ∨ p ∈ d := by
  cases hg : get? k d with
  | none => simpa [set_eq_append hg, or_comm] using h
  | some w =>
    obtain ⟨l, r, e₁, e₂⟩ := exists_split_set hg v
    rw [e₂] at h
    rw [e₁]
    simp only [List.mem_append, List.mem_cons] at h ⊢
    rcases h with h | h | h <;> simp [h]

theorem mem_values_set {k : κ} {v x : α} {d : List (κ × α)} (h : x ∈ values (set k v d)) :
    x = v ∨ x ∈ values d := by
  obtain ⟨p, hp, rfl⟩ := List.mem_map.mp h
  rcases mem_set hp with rfl | hp
  · exact .inl rfl
  · exact .inr (List.mem_map_of_mem hp)

/-- Every value is stored under its own key. -/
def Keyed (key : α → κ) (d : List (κ × α)) : Prop := ∀ p ∈ d, key p.2 = p.1

theorem keyed_set {key : α → κ} {d : List (κ × α)} (hd : Keyed key d) {k : κ} {v : α} (hv : key v = k) :
    Keyed key (set k v d) := fun p hp => by
  rcases mem_set hp with rfl | hp
  · exact hv
  · exact hd p hp

omit [DecidableEq κ] in
theorem map_values_of_keyed {key : α → κ} {d : List (κ × α)} (hd : Keyed key d) :
    (values d).map key = keys d := by
  rw [values, List.map_map, keys]
  exact List.map_congr_left fun p hp => hd p hp

/-- A sum over the values, after writing one: the old value of the key leaves it
(nothing, when the key is absent) and the new one enters. -/
theorem sum_values_set {M : Type} [AddCommGroup M] (f : α → M) (k : κ) (v : α) (d : List (κ × α)) :
    ((values (set k v d)).map f).sum =
      ((values d).map f).sum - ((get? k d).map f).getD 0 + f v := by
  cases hg : get? k d with
  | none => simp [set_eq_append hg, values]
  | some w =>
    obtain ⟨l, r, e₁, e₂⟩ := exists_split_set hg v
    rw [e₂, e₁]
    simp only [values, List.map_append, List.map_cons, List.sum_append, List.sum_cons,
      Option.map_some, Option.getD_some]
    abel

/-! ## Comprehensions -/

theorem foldl_set_append {l d : List (κ × α)} (hn : (keys (d ++ l)).Nodup) :
    l.foldl (fun d p => set p.1 p.2 d) d = d ++ l := by
  induction l generalizing d with
  | nil => simp
  | cons p l ih =>
    have hp : get? p.1 d = none := get?_eq_none.mpr fun hm => by
      simp only [keys, List.map_append, List.map_cons, List.nodup_append] at hn
      exact hn.2.2 _ hm _ (List.mem_cons_self ..) rfl
    rw [List.foldl_cons, set_eq_append hp, ih (by simpa using hn)]
    simp

/-- What a key has after a loop that sets keys and does not change what a key has. -/
theorem get?_foldlM_set {ε β : Type} {step : List (κ × α) → β → Except ε (List (κ × α))} (key : β → κ) (value : β → α)
    (Inv : List (κ × α) → Prop) {l : List β}
    (hstep : ∀ d b d', step d b = .ok d' → Inv d →
      (get? (key b) d = none ∨ get? (key b) d = some (value b)) ∧ d' = set (key b) (value b) d ∧ Inv d')
    {d d' : List (κ × α)} (h : l.foldlM step d = .ok d') (hd : Inv d) {k : κ} {v : α} :
    get? k d' = some v ↔ get? k d = some v ∨ ∃ b ∈ l, key b = k ∧ value b = v := by
  induction l generalizing d with
  | nil =>
    cases h
    simp
  | cons b l ih =>
    obtain ⟨d₁, h₁, h₂⟩ := bind_eq_ok.mp h
    obtain ⟨hb, rfl, hd₁⟩ := hstep d b d₁ h₁ hd
    rw [ih h₂ hd₁, get?_set, List.exists_mem_cons_iff]
    by_cases hk : key b = k
    · subst hk
      rcases hb with hb | hb <;> simp [hb]
    · simp [hk]

/-- A comprehension over distinct keys is the list itself. -/
theorem ofList_of_nodup {l : List (κ × α)} (h : (keys l).Nodup) : ofList l = l := by
  simpa [ofList] using foldl_set_append (d := []) (l := l) (by simpa using h)

theorem ofKeys_of_nodup {key : α → κ} {l : List α} (h : (l.map key).Nodup) :
    ofKeys key l = l.map fun x => (key x, x) := by
  refine ofList_of_nodup ?_
  simpa [keys, Function.comp_def] using h

theorem keyed_ofKeys (key : α → κ) (l : List α) : Keyed key (ofKeys key l) := by
  suffices ∀ d : List (κ × α), Keyed key d →
      Keyed key ((l.map fun x => (key x, x)).foldl (fun d p => set p.1 p.2 d) d) from
    this [] fun p hp => absurd hp List.not_mem_nil
  induction l with
  | nil => exact fun d hd => hd
  | cons x l ih => exact fun d hd => ih _ (keyed_set hd rfl)

theorem mem_of_mem_ofKeys {key : α → κ} {l : List α} {p : κ × α} (h : p ∈ ofKeys key l) : p.2 ∈ l := by
  suffices ∀ d : List (κ × α), p ∈ (l.map fun x => (key x, x)).foldl (fun d p => set p.1 p.2 d) d →
      p ∈ d ∨ p.2 ∈ l from (this [] h).resolve_left List.not_mem_nil
  clear h
  induction l with
  | nil => exact fun d hd => .inl hd
  | cons x l ih =>
    intro d hd
    rcases ih _ hd with h | h
    · rcases mem_set h with rfl | h
      · exact .inr (List.mem_cons_self ..)
      · exact .inl h
    · exact .inr (List.mem_cons_of_mem _ h)

theorem nodup_keys_ofKeys (key : α → κ) (l : List α) : (keys (ofKeys key l)).Nodup := by
  suffices ∀ d : List (κ × α), (keys d).Nodup →
      (keys ((l.map fun x => (key x, x)).foldl (fun d p => set p.1 p.2 d) d)).Nodup from
    this [] List.nodup_nil
  induction l with
  | nil => exact fun d hd => hd
  | cons x l ih => exact fun d hd => ih _ (nodup_keys_set hd _ _)

theorem values_ofKeys_of_nodup {key : α → κ} {l : List α} (h : (l.map key).Nodup) :
    values (ofKeys key l) = l := by
  rw [ofKeys_of_nodup h]
  simp [values, Function.comp_def]

/-- Reading a comprehension over distinct keys. -/
theorem get?_ofKeys {key : α → κ} {l : List α} (h : (l.map key).Nodup) {k : κ} {x : α} :
    get? k (ofKeys key l) = some x ↔ x ∈ l ∧ key x = k := by
  rw [ofKeys_of_nodup h]
  constructor
  · intro hg
    obtain ⟨y, hy, e⟩ := List.mem_map.mp (mem_of_get? hg)
    cases e
    exact ⟨hy, rfl⟩
  · rintro ⟨hx, rfl⟩
    refine get?_of_mem ?_ (List.mem_map_of_mem (f := fun x => (key x, x)) hx)
    simpa [keys, Function.comp_def] using h

theorem mem_ofKeys {key : α → κ} {l : List α} (h : (l.map key).Nodup) {k : κ} {x : α} :
    (k, x) ∈ ofKeys key l ↔ x ∈ l ∧ key x = k := by
  rw [ofKeys_of_nodup h]
  simp only [List.mem_map, Prod.mk.injEq]
  constructor
  · rintro ⟨y, hy, hk, rfl⟩
    exact ⟨hy, hk⟩
  · rintro ⟨hx, hk⟩
    exact ⟨x, hx, hk, rfl⟩

/-- Looking up the keys of a list gives the list back. -/
theorem filterMap_get?_ofKeys {key : α → κ} {l : List α} (h : (l.map key).Nodup) :
    (l.map key).filterMap (fun k => get? k (ofKeys key l)) = l := by
  rw [List.filterMap_map]
  refine (List.filterMap_congr fun x hx => ?_).trans List.filterMap_some
  exact (get?_ofKeys h).mpr ⟨hx, rfl⟩

theorem get?_ofKeys_eq_none {key : α → κ} {l : List α} (h : (l.map key).Nodup) {k : κ} :
    get? k (ofKeys key l) = none ↔ ∀ x ∈ l, key x ≠ k := by
  rw [ofKeys_of_nodup h, get?_eq_none]
  simp [keys]

/-! ## Counters -/

theorem get?_foldl_counter (l : List κ) (d : List (κ × Nat)) (k : κ) :
    (get? k (l.foldl (fun d k => set k ((get? k d).getD 0 + 1) d) d)).getD 0 =
      (get? k d).getD 0 + l.count k := by
  induction l generalizing d with
  | nil => simp
  | cons x l ih =>
    rw [List.foldl_cons, ih, get?_set, List.count_cons]
    by_cases hx : x = k
    · subst hx; simp; omega
    · simp [hx]

theorem get?_counter (l : List κ) (k : κ) : (get? k (counter l)).getD 0 = l.count k := by
  simpa [counter, get?] using get?_foldl_counter l [] k

theorem keys_foldl_counter (l : List κ) (d : List (κ × Nat)) (k : κ) :
    k ∈ keys (l.foldl (fun d k => set k ((get? k d).getD 0 + 1) d) d) ↔ k ∈ keys d ∨ k ∈ l := by
  induction l generalizing d with
  | nil => simp
  | cons x l ih =>
    rw [List.foldl_cons, ih, keys_set]
    by_cases hx : x ∈ keys d
    · simp only [hx, if_true, List.mem_cons]
      constructor
      · rintro (h | h) <;> simp [h]
      · rintro (h | rfl | h) <;> simp_all
    · simp [hx, or_assoc]

theorem mem_keys_counter {l : List κ} {k : κ} : k ∈ keys (counter l) ↔ k ∈ l := by
  simpa [counter, keys] using keys_foldl_counter l [] k

theorem nodup_keys_counter (l : List κ) : (keys (counter l)).Nodup := by
  suffices ∀ d : List (κ × Nat), (keys d).Nodup →
      (keys (l.foldl (fun d k => set k ((get? k d).getD 0 + 1) d) d)).Nodup from
    this [] List.nodup_nil
  induction l with
  | nil => exact fun d hd => hd
  | cons x l ih => exact fun d hd => ih _ (nodup_keys_set hd _ _)

/-- The items of a counter: every value of the list with its number of occurrences. -/
theorem mem_counter {l : List κ} {k : κ} {n : Nat} : (k, n) ∈ counter l ↔ k ∈ l ∧ n = l.count k := by
  constructor
  · intro h
    have hk : k ∈ keys (counter l) := List.mem_map_of_mem h
    refine ⟨mem_keys_counter.mp hk, ?_⟩
    rw [← get?_counter, get?_of_mem (nodup_keys_counter l) h, Option.getD_some]
  · rintro ⟨hk, rfl⟩
    obtain ⟨⟨q, m⟩, hm, rfl⟩ := List.mem_map.mp (mem_keys_counter.mpr hk)
    have := get?_counter l q
    rw [get?_of_mem (nodup_keys_counter l) hm, Option.getD_some] at this
    rwa [← this]

/-- Every count is one exactly when the list has no duplicate. -/
theorem counter_all_one {l : List κ} : (∀ p ∈ counter l, p.2 = 1) ↔ l.Nodup := by
  rw [List.nodup_iff_count_eq_one]
  constructor
  · intro h k hk
    exact (h (k, l.count k) (mem_counter.mpr ⟨hk, rfl⟩))
  · rintro h ⟨k, n⟩ hp
    obtain ⟨hk, rfl⟩ := mem_counter.mp hp
    exact h k hk

end ATB.Dict
