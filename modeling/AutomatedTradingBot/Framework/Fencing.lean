import Mathlib.Data.List.Nodup

/-!
# Tokens bound to a head

A resource has a head, which is renewed from time to time and is then the digest of
some body. A token names the head of the moment at which it was issued, and is accepted
only while it names the head. A log says, newest first, what was issued, accepted and
renewed.

* `not_accepted_of_renewed`: when no head returns, no token is accepted after a renewal
  that came after its issue;
* `head_ne_of_renewed`: nor does the head of before it come back;
* `standing_iff`: what holds of every token issued since the last renewal.
-/

namespace ATB.Fencing

variable {T B H : Type}

inductive Event (T B : Type) where
  | issued (t : T)
  | accepted (t : T)
  /-- The head is now the digest of the body. -/
  | renewed (b : B)

def renewals : List (Event T B) → List B
  | [] => []
  | .renewed b :: log => b :: renewals log
  | .issued _ :: log => renewals log
  | .accepted _ :: log => renewals log

variable (digest : B → H) (first : H) (name : T → H)

/-- The heads so far, newest first. -/
def heads (log : List (Event T B)) : List H := (renewals log).map digest ++ [first]

/-- The head now. -/
def head (log : List (Event T B)) : H :=
  match renewals log with
  | [] => first
  | b :: _ => digest b

/-- Each token names the head of when it was issued, and of when it was accepted. -/
def Sound : List (Event T B) → Prop
  | [] => True
  | .issued t :: log => name t = head digest first log ∧ Sound log
  | .accepted t :: log => name t = head digest first log ∧ Sound log
  | .renewed _ :: log => Sound log

variable {digest first name} {log : List (Event T B)} {t : T} {b : B}

theorem renewals_append (l l' : List (Event T B)) : renewals (l ++ l') = renewals l ++ renewals l' := by
  induction l with
  | nil => rfl
  | cons e l ih => cases e <;> simp [renewals, ih]

theorem heads_eq_cons : heads digest first log = head digest first log :: (heads digest first log).tail := by
  unfold heads head
  cases renewals log <;> rfl

theorem head_mem_heads : head digest first log ∈ heads digest first log := by
  rw [heads_eq_cons]
  exact List.mem_cons_self ..

/-- The heads before an event are heads still. -/
theorem heads_suffix (e : Event T B) : heads digest first log <:+ heads digest first (e :: log) := by
  cases e with
  | issued _ => exact List.suffix_rfl
  | accepted _ => exact List.suffix_rfl
  | renewed b => exact List.suffix_cons _ _

theorem tail_subset_tail (e : Event T B) : (heads digest first log).tail ⊆ (heads digest first (e :: log)).tail := by
  cases e with
  | issued _ => exact List.Subset.refl _
  | accepted _ => exact List.Subset.refl _
  | renewed b => exact fun _ => List.mem_of_mem_tail

theorem tail_subset_of_suffix {l l' : List (Event T B)} (h : l <:+ l') :
    (heads digest first l).tail ⊆ (heads digest first l').tail := by
  obtain ⟨t, rfl⟩ := h
  induction t with
  | nil => exact List.Subset.refl _
  | cons e t ih => exact fun x hx => tail_subset_tail e (ih hx)

theorem heads_suffix_of_suffix {l l' : List (Event T B)} (h : l <:+ l') : heads digest first l <:+ heads digest first l' := by
  obtain ⟨t, rfl⟩ := h
  induction t with
  | nil => exact List.suffix_rfl
  | cons e t ih => exact ih.trans (heads_suffix e)

/-- When no head returns, the head before a renewal is not the head at any time after it. -/
theorem head_ne_of_renewed {l l' : List (Event T B)} (hn : (heads digest first log).Nodup) (h : (.renewed b :: l) <:+ l')
    (h' : l' <:+ log) : head digest first l' ≠ head digest first l := by
  have hold : head digest first l ∈ (heads digest first l').tail := tail_subset_of_suffix h head_mem_heads
  have hn' := hn.sublist (heads_suffix_of_suffix h').sublist
  rw [heads_eq_cons] at hn'
  intro e
  rw [← e] at hold
  exact (List.nodup_cons.mp hn').1 hold

theorem Sound.tail {e : Event T B} (hs : Sound digest first name (e :: log)) : Sound digest first name log := by
  cases e with
  | issued _ => exact hs.2
  | accepted _ => exact hs.2
  | renewed _ => exact hs

theorem name_mem_heads (hs : Sound digest first name log) (h : .issued t ∈ log) : name t ∈ heads digest first log := by
  induction log with
  | nil => cases h
  | cons e log ih =>
    rcases List.mem_cons.mp h with rfl | h
    · exact hs.1 ▸ head_mem_heads
    · exact (heads_suffix e).subset (ih hs.tail h)

/-- A token that was issued before the last renewal names an older head. -/
theorem name_mem_tail (hs : Sound digest first name log) (h : [.renewed b, .issued t].Sublist log) :
    name t ∈ (heads digest first log).tail := by
  induction log with
  | nil => cases h
  | cons e log ih =>
    cases h with
    | cons _ h => exact tail_subset_tail e (ih hs.tail h)
    | cons_cons _ h => exact name_mem_heads hs.tail (List.singleton_sublist.mp h)

/-- When no head returns, a token is accepted only if the head was not renewed since its issue. -/
theorem not_accepted_of_renewed (hs : Sound digest first name log) (hn : (heads digest first log).Nodup) :
    ¬ [.accepted t, .renewed b, .issued t].Sublist log := by
  intro h
  induction log with
  | nil => cases h
  | cons e log ih =>
    have hlog := hn.sublist (heads_suffix e).sublist
    cases h with
    | cons _ h => exact ih hs.tail hlog h
    | cons_cons _ h =>
      have hold := name_mem_tail hs.2 h
      rw [hs.1] at hold
      rw [heads_eq_cons] at hlog
      exact (List.nodup_cons.mp hlog).1 hold

/-! ## Tokens of the current head -/

/-- What holds of every token that was issued since the last renewal. -/
def Standing (P : T → Prop) : List (Event T B) → Prop
  | [] => True
  | .issued t :: log => P t ∧ Standing P log
  | .accepted _ :: log => Standing P log
  | .renewed _ :: _ => True

theorem Standing.mono {P Q : T → Prop} (hPQ : ∀ t, P t → Q t) (h : Standing P log) : Standing Q log := by
  induction log with
  | nil => trivial
  | cons e log ih =>
    cases e with
    | issued t => exact ⟨hPQ t h.1, ih h.2⟩
    | accepted t => exact ih h
    | renewed b => trivial

theorem standing_iff {P : T → Prop} :
    Standing P log ↔ ∀ t l l', log = l ++ .issued t :: l' → renewals l = [] → P t := by
  induction log with
  | nil => simp [Standing]
  | cons e log ih =>
    -- The event is the token's own, or comes after its issue.
    simp only [List.cons_eq_append_iff]
    cases e with
    | issued u =>
      rw [Standing, ih]
      constructor
      · rintro ⟨hu, h⟩ t l l' (⟨rfl, he⟩ | ⟨l, rfl, rfl⟩) hl
        · cases he
          exact hu
        · exact h t l l' rfl hl
      · intro h
        exact ⟨h u [] log (.inl ⟨rfl, rfl⟩) rfl, fun t l l' he hl => h t _ l' (.inr ⟨l, rfl, he⟩) hl⟩
    | accepted u =>
      rw [Standing, ih]
      constructor
      · rintro h t l l' (⟨rfl, he⟩ | ⟨l, rfl, rfl⟩) hl
        · cases he
        · exact h t l l' rfl hl
      · intro h t l l' he hl
        exact h t _ l' (.inr ⟨l, rfl, he⟩) hl
    | renewed b =>
      simp only [Standing, true_iff]
      rintro t l l' (⟨rfl, he⟩ | ⟨l, rfl, rfl⟩) hl
      · cases he
      · cases hl

end ATB.Fencing
