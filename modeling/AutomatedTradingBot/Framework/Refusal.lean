import AutomatedTradingBot.Framework.Outcome
import Mathlib.Data.List.Perm.Basic

/-!
# Loops that stop at the first refusal

A loop whose iteration either refuses an element for a reason of its own, or takes it.
Which reason is returned depends on the order of the list, and only when two elements
are refused for different reasons.

* `foldlM_refusal`: the loop is a search for a refusal, and a loop that cannot stop;
* `foldlM_taken`: a loop that ends has taken every element;
* `mapM_eq_ok`, `mapM_eq_error`: what a comprehension gives, or whose exception it raises;
* `findSome?_perm`: the reason is the same in any order, when the reasons agree.
-/

namespace ATB

/-- A loop that refuses by `refuse` and goes on by `take`. -/
theorem foldlM_refusal {ε α β : Type} {step : β → α → Except ε β} {refuse : α → Option ε} {take : β → α → β}
    (h : ∀ b a, step b a = (refuse a).elim (.ok (take b a)) .error) (l : List α) (b : β) :
    l.foldlM step b = (l.findSome? refuse).elim (.ok (l.foldl take b)) .error := by
  induction l generalizing b with
  | nil => rfl
  | cons a l ih =>
    rw [List.foldlM_cons, h, List.findSome?_cons, List.foldl_cons]
    cases refuse a with
    | some e => rfl
    | none => exact ih (take b a)

/-- A loop that ends has taken every element, in some state. -/
theorem foldlM_taken {ε α β : Type} {step : β → α → Except ε β} {l : List α} {b b' : β}
    (h : l.foldlM step b = .ok b') {a : α} (ha : a ∈ l) : ∃ c c', step c a = .ok c' := by
  induction l generalizing b with
  | nil => cases ha
  | cons x l ih =>
    obtain ⟨c, hc, hrest⟩ := bind_eq_ok.mp h
    rcases List.mem_cons.mp ha with rfl | ha
    · exact ⟨b, c, hc⟩
    · exact ih hrest ha

/-! ## Comprehensions -/

section Comprehension

variable {ε α β : Type} {f : α → Except ε β} {l : List α}

theorem mapM_eq_ok {r : List β} : l.mapM f = .ok r ↔ l.map f = r.map .ok := by
  induction l generalizing r with
  | nil =>
    rw [List.mapM_nil, pure_eq_ok]
    cases r <;> simp
  | cons a l ih =>
    simp only [List.mapM_cons, bind_eq_ok, pure_eq_ok, ih]
    cases r <;> simp

theorem mem_of_mapM {r : List β} (h : l.mapM f = .ok r) :
    (∀ b ∈ r, ∃ a ∈ l, f a = .ok b) ∧ ∀ a ∈ l, ∃ b ∈ r, f a = .ok b := by
  rw [mapM_eq_ok] at h
  refine ⟨fun b hb => ?_, fun a ha => ?_⟩
  · exact List.mem_map.mp (h ▸ List.mem_map_of_mem hb)
  · obtain ⟨b, hb, he⟩ := List.mem_map.mp (h ▸ List.mem_map_of_mem ha)
    exact ⟨b, hb, he.symm⟩

theorem map_of_mapM_eq_ok {γ : Type} {g : β → γ} {k : α → γ} {r : List β} (hg : ∀ a b, f a = .ok b → g b = k a)
    (h : l.mapM f = .ok r) : r.map g = l.map k := by
  induction l generalizing r with
  | nil =>
    cases h
    rfl
  | cons a l ih =>
    simp only [List.mapM_cons, bind_eq_ok, pure_eq_ok] at h
    obtain ⟨b, hb, r, hr, rfl⟩ := h
    rw [List.map_cons, List.map_cons, hg a b hb, ih hr]

theorem mapM_ok {g : β → α} {r : List β} (h : ∀ b ∈ r, f (g b) = .ok b) : (r.map g).mapM f = .ok r := by
  rw [mapM_eq_ok, List.map_map]
  exact List.map_congr_left h

theorem mapM_eq_error {e : ε} (h : l.mapM f = .error e) : ∃ a ∈ l, f a = .error e := by
  induction l with
  | nil => cases h
  | cons a l ih =>
    rw [List.mapM_cons] at h
    rcases ha : f a with e' | b
    · rw [ha, error_bind] at h
      cases h
      exact ⟨a, List.mem_cons_self .., ha⟩
    · rw [ha, ok_bind] at h
      rcases hl : l.mapM f with e' | bs
      · rw [hl, error_bind] at h
        cases h
        obtain ⟨a', ha', he⟩ := ih hl
        exact ⟨a', List.mem_cons_of_mem _ ha', he⟩
      · rw [hl, ok_bind] at h
        cases h

end Comprehension

/-! ## Permutations -/

section Perm

variable {α ε : Type} {refuse : α → Option ε}

theorem findSome?_isSome_perm {l l' : List α} (h : l.Perm l') :
    (l.findSome? refuse).isSome = (l'.findSome? refuse).isSome := by
  rw [Bool.eq_iff_iff, List.findSome?_isSome_iff, List.findSome?_isSome_iff]
  simp only [h.mem_iff]

/-- The first refusal is the same in any order when any two refusals are. -/
theorem findSome?_perm {l l' : List α} (h : l.Perm l')
    (hsame : ∀ a ∈ l, ∀ b ∈ l, ∀ e e', refuse a = some e → refuse b = some e' → e = e') :
    l.findSome? refuse = l'.findSome? refuse := by
  have hsome : (l.findSome? refuse).isSome = (l'.findSome? refuse).isSome := findSome?_isSome_perm h
  cases he : l.findSome? refuse with
  | none =>
    rw [he, Option.isSome_none, eq_comm, Option.isSome_eq_false_iff, Option.isNone_iff_eq_none] at hsome
    exact hsome.symm
  | some e =>
    rw [he, Option.isSome_some, eq_comm, Option.isSome_iff_exists] at hsome
    obtain ⟨e', he'⟩ := hsome
    obtain ⟨a, ha, hae⟩ := List.exists_of_findSome?_eq_some he
    obtain ⟨b, hb, hbe⟩ := List.exists_of_findSome?_eq_some he'
    rw [he', hsame a ha b (h.mem_iff.mpr hb) e e' hae hbe]

theorem findSome?_eq_none_perm {l l' : List α} (h : l.Perm l') :
    l.findSome? refuse = none ↔ l'.findSome? refuse = none := by
  simp only [List.findSome?_eq_none_iff, h.mem_iff]

end Perm

end ATB
