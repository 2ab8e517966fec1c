import Mathlib.Order.Basic

/-!
# Computations that may raise

Code that raises is a value of `Except`. `raiseIf c e` is `if c: raise e`, and a
sequence of checks is taken apart from the front: `bind_eq_ok` and
`raiseIf_bind_eq_ok` say when the rest is reached. `foldlM_ok_induction` is the
rule for a loop that stops at the first exception: what one accepted iteration
preserves holds after the loop. `eachPrefix` is a loop whose iteration reads what
came before it, and `eachPrefix_eq_ok` says that it accepts when every iteration does.
-/

namespace ATB

/-- `if c: raise e`. -/
def raiseIf {ε : Type} (c : Prop) [Decidable c] (e : ε) : Except ε Unit :=
  if c then .error e else .ok ()

/-- An optional value that must be present. -/
def orRaise {ε α : Type} (e : ε) : Option α → Except ε α
  | some a => .ok a
  | none => .error e

/-- A loop over a list whose iteration reads the elements before its own. -/
def eachPrefix {ε α : Type} (check : List α → α → Except ε Unit) (l : List α) : Except ε Unit :=
  go [] l
where
  go (seen : List α) : List α → Except ε Unit
    | [] => .ok ()
    | x :: rest => do
      check seen x
      go (seen ++ [x]) rest

theorem bind_of_eq_some {α β : Type} {x : Option α} {a : α} (h : x = some a) (f : α → Option β) :
    (x >>= f) = f a := by rw [h]; rfl

section Except

variable {ε α β : Type} {x : Except ε α} {f : α → Except ε β} {b : β}

theorem bind_of_eq_ok {a : α} (h : x = .ok a) (f : α → Except ε β) : (x >>= f) = f a := by
  rw [h]; rfl

@[simp] theorem ok_bind (a : α) (f : α → Except ε β) : ((.ok a : Except ε α) >>= f) = f a := rfl

@[simp] theorem bind_eq_ok : (x >>= f) = .ok b ↔ ∃ a, x = .ok a ∧ f a = .ok b := by
  cases x with
  | ok a => exact ⟨fun h => ⟨a, rfl, h⟩, fun ⟨_, e, h⟩ => (by cases e; exact h)⟩
  | error e => exact ⟨fun h => (by cases h), fun ⟨_, e, _⟩ => (by cases e)⟩

@[simp] theorem map_eq_ok {g : α → β} : (g <$> x) = .ok b ↔ ∃ a, x = .ok a ∧ g a = b := by
  cases x with
  | ok a => exact ⟨fun h => ⟨a, rfl, Except.ok.inj h⟩, fun ⟨_, e, h⟩ => (by cases e; rw [← h]; rfl)⟩
  | error e => exact ⟨fun h => (by cases h), fun ⟨_, e, _⟩ => (by cases e)⟩

@[simp] theorem pure_eq_ok {a b : α} : (pure a : Except ε α) = .ok b ↔ a = b :=
  ⟨fun h => (by cases h; rfl), fun h => (by rw [h]; rfl)⟩

@[simp] theorem throw_ne_ok {e : ε} {b : α} : (throw e : Except ε α) ≠ .ok b := fun h => by cases h

@[simp] theorem raiseIf_eq_ok {c : Prop} [Decidable c] {e : ε} {u : Unit} :
    raiseIf c e = .ok u ↔ ¬ c := by
  by_cases h : c <;> simp [raiseIf, h]

theorem raiseIf_of_not {c : Prop} [Decidable c] {e : ε} (h : ¬ c) : raiseIf c e = .ok () := if_neg h

theorem raiseIf_of {c : Prop} [Decidable c] {e : ε} (h : c) : raiseIf c e = .error e := if_pos h

@[simp] theorem error_bind (e : ε) (f : α → Except ε β) : ((.error e : Except ε α) >>= f) = .error e := rfl

theorem raiseIf_bind_eq_ok {c : Prop} [Decidable c] {e : ε} {f : Unit → Except ε β} :
    (raiseIf c e >>= f) = .ok b ↔ ¬ c ∧ f () = .ok b := by
  rw [bind_eq_ok]
  exact ⟨fun ⟨_, h, h'⟩ => ⟨raiseIf_eq_ok.mp h, h'⟩, fun ⟨h, h'⟩ => ⟨(), raiseIf_eq_ok.mpr h, h'⟩⟩

theorem exists_ok_bind {a : α} (h : x = .ok a) (hf : ∃ b, f a = .ok b) : ∃ b, (x >>= f) = .ok b := by
  obtain ⟨b, hb⟩ := hf
  exact ⟨b, bind_eq_ok.mpr ⟨a, h, hb⟩⟩

theorem exists_ok_raiseIf {c : Prop} [Decidable c] {e : ε} {f : Unit → Except ε β} (h : ¬ c)
    (hf : ∃ b, f () = .ok b) : ∃ b, (raiseIf c e >>= f) = .ok b :=
  exists_ok_bind (raiseIf_of_not h) hf

@[simp] theorem orRaise_eq_ok {e : ε} {o : Option α} {a : α} : orRaise e o = .ok a ↔ o = some a := by
  cases o <;> simp [orRaise]

theorem ok_of_toOption {a : α} (h : x.toOption = some a) : x = .ok a := by
  cases x with
  | ok b => cases h; rfl
  | error e => cases h

end Except

theorem raiseIf_congr {ε : Type} {c d : Prop} [Decidable c] [Decidable d] {e : ε} (h : c ↔ d) : raiseIf c e = raiseIf d e := by
  by_cases hd : d
  · rw [raiseIf_of (h.mpr hd), raiseIf_of hd]
  · rw [raiseIf_of_not fun hc => hd (h.mp hc), raiseIf_of_not hd]

theorem filter_filter_of_imp {α : Type} {p q : α → Bool} (h : ∀ a, q a = true → p a = true) (o : Option α) :
    (o.filter p).filter q = o.filter q := by
  cases o with
  | none => rfl
  | some a =>
    cases hq : q a with
    | true => rw [Option.filter_some_pos (h a hq)]
    | false =>
      rw [Option.filter_some_neg hq]
      cases hp : p a with
      | true => rw [Option.filter_some_pos hp, Option.filter_some_neg hq]
      | false => rw [Option.filter_some_neg hp, Option.filter_none]

theorem mapError_bind {ε δ α β : Type} {g : ε → δ} {x y : Except ε α} {f f' : α → Except ε β}
    (hx : x.mapError g = y.mapError g) (hf : ∀ a, (f a).mapError g = (f' a).mapError g) :
    (x >>= f).mapError g = (y >>= f').mapError g := by
  cases x with
  | error e =>
    cases y with
    | error e' => exact congrArg Except.error (Except.error.inj hx)
    | ok b => cases hx
  | ok a =>
    cases y with
    | error e' => cases hx
    | ok b =>
      cases hx
      exact hf a

theorem mapError_eq_ok {ε δ α : Type} {g : ε → δ} {x : Except ε α} {a : α} : x.mapError g = .ok a ↔ x = .ok a := by
  cases x <;> simp [Except.mapError]

/-- A loop that stops at the first exception: what holds before it and is kept by
every accepted iteration holds after it. -/
theorem foldlM_ok_induction {ε α β : Type} {step : β → α → Except ε β} (P : β → Prop) {l : List α}
    (hstep : ∀ b a b', a ∈ l → step b a = .ok b' → P b → P b') {b b' : β}
    (h : l.foldlM step b = .ok b') (hb : P b) : P b' := by
  induction l generalizing b with
  | nil => cases h; exact hb
  | cons a l ih =>
    obtain ⟨b₁, h₁, h₂⟩ := bind_eq_ok.mp h
    exact ih (fun c d e hd => hstep c d e (List.mem_cons_of_mem _ hd)) h₂
      (hstep b a b₁ (List.mem_cons_self ..) h₁ hb)

theorem forM_eq_ok {ε α : Type} {f : α → Except ε Unit} {l : List α} {u : Unit} :
    l.forM f = .ok u ↔ ∀ x ∈ l, f x = .ok () := by
  induction l with
  | nil => simp
  | cons x l ih =>
    rw [show (x :: l).forM f = (f x >>= fun _ => l.forM f) from rfl, bind_eq_ok]
    simp only [ih, List.forall_mem_cons]
    exact ⟨fun ⟨_, hx, hl⟩ => ⟨hx, hl⟩, fun ⟨hx, hl⟩ => ⟨(), hx, hl⟩⟩

theorem eachPrefix_go_eq_ok {ε α : Type} {check : List α → α → Except ε Unit} {seen l : List α} {u : Unit} :
    eachPrefix.go check seen l = .ok u ↔ ∀ a x b, l = a ++ x :: b → check (seen ++ a) x = .ok () := by
  induction l generalizing seen with
  | nil => simp [eachPrefix.go]
  | cons y l ih =>
    simp only [eachPrefix.go, bind_eq_ok, ih]
    constructor
    · rintro ⟨_, hy, hl⟩ a x b e
      cases a with
      | nil => cases e; simpa using hy
      | cons z a => cases e; simpa using hl a x b rfl
    · intro h
      refine ⟨(), by simpa using h [] y l rfl, fun a x b e => ?_⟩
      simpa using h (y :: a) x b (by rw [e]; rfl)

/-- The loop accepts when every iteration does, at its place in the list. -/
theorem eachPrefix_eq_ok {ε α : Type} {check : List α → α → Except ε Unit} {l : List α} {u : Unit} :
    eachPrefix check l = .ok u ↔ ∀ a x b, l = a ++ x :: b → check a x = .ok () := by
  rw [eachPrefix, eachPrefix_go_eq_ok]
  simp only [List.nil_append]

/-! ## What a failure says -/

section Fails

variable {ε α β : Type} {P : ε → Prop}

/-- Every exception of the computation is of a kind. -/
def Fails (P : ε → Prop) (x : Except ε α) : Prop := ∀ e, x = .error e → P e

theorem Fails.ok (a : α) : Fails P (.ok a : Except ε α) := fun _ h => by cases h

theorem Fails.raiseIf {c : Prop} [Decidable c] {e : ε} (h : P e) : Fails P (ATB.raiseIf c e) := by
  intro e' he
  by_cases hc : c
  · rw [raiseIf_of hc] at he
    cases he
    exact h
  · rw [raiseIf_of_not hc] at he
    cases he

theorem Fails.orRaise {e : ε} (h : P e) {o : Option α} : Fails P (ATB.orRaise e o) := by
  intro e' he
  cases o <;> cases he
  exact h

theorem Fails.error {e : ε} (h : P e) : Fails P (.error e : Except ε α) := by
  intro e' he
  cases he
  exact h

theorem Fails.bind {x : Except ε α} {f : α → Except ε β} (hx : Fails P x) (hf : ∀ a, Fails P (f a)) :
    Fails P (x >>= f) := by
  intro e he
  cases x with
  | ok a => exact hf a e he
  | error e' =>
    cases he
    exact hx e rfl

theorem Fails.foldlM {step : β → α → Except ε β} (h : ∀ b a, Fails P (step b a)) (l : List α) (b : β) :
    Fails P (l.foldlM step b) := by
  induction l generalizing b with
  | nil => exact Fails.ok b
  | cons a l ih => exact (h b a).bind ih

end Fails

end ATB
