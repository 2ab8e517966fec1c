import AutomatedTradingBot.Framework.Outcome

/-!
# Operations on durable state

An operation reads and writes state that outlives it. It may raise, which keeps what
it wrote, and it may be cut off by a crash before any of its writes: an operation is
run with the number of writes it gets to make, or without a bound.

`wp x (post G I) s` says that `G` holds of what is returned and the state then, and `I`
of the state wherever the operation raises or is cut off. A proof goes through the
operation once and shows `I` before each check and each write.

* `wp_bind`: a sequence;
* `wp_write_bind`, `wp_check_bind`, `wp_get_bind`: a first write, check or read;
* `run_of_ok`, `run_of_error`: what is proved holds of every run;
* `Ends`: how an operation ends that is not cut off, with rules of the same shape.
-/

namespace ATB.Durable

/-- How an operation ends before it returns. -/
inductive Stop (ε : Type) where
  | raised (e : ε)
  | crashed
deriving DecidableEq

/-- An operation on the state `S`, with the writes that are left before a crash. -/
def Operation (S ε α : Type) : Type := S → Option Nat → Except (Stop ε) α × S × Option Nat

variable {S ε α β : Type}

instance : Monad (Operation S ε) where
  pure a := fun s n => (.ok a, s, n)
  bind x f := fun s n =>
    match x s n with
    | (.ok a, s, n) => f a s n
    | (.error e, s, n) => (.error e, s, n)

/-- The state now. -/
def get : Operation S ε S := fun s n => (.ok s, s, n)

/-- One durable write. -/
def write (f : S → S) : Operation S ε Unit := fun s n =>
  match n with
  | none => (.ok (), f s, none)
  | some 0 => (.error .crashed, s, some 0)
  | some (n + 1) => (.ok (), f s, some n)

/-- A computation on values alone. -/
def check (x : Except ε α) : Operation S ε α := fun s n =>
  match x with
  | .ok a => (.ok a, s, n)
  | .error e => (.error (.raised e), s, n)

/-- The result and the state that is left. -/
def Operation.run (x : Operation S ε α) (s : S) (n : Option Nat) : Except (Stop ε) α × S :=
  ((x s n).1, (x s n).2.1)

/-- What holds of the result and the state, however many writes are made. -/
structure wp (x : Operation S ε α) (R : Except (Stop ε) α → S → Prop) (s : S) : Prop where
  of_writes : ∀ n, R (x s n).1 (x s n).2.1

/-- `G` of what is returned, and `I` wherever the operation stops early. -/
def post (G : α → S → Prop) (I : S → Prop) : Except (Stop ε) α → S → Prop
  | .ok a, s => G a s
  | .error _, s => I s

variable {x : Operation S ε α} {f : α → Operation S ε β} {s : S}
  {P : α → S → Prop} {Q : Unit → S → Prop} {G : β → S → Prop} {I : S → Prop}

theorem run_of_ok (h : wp x (post P I) s) {n : Option Nat} {a : α} (hr : (x.run s n).1 = .ok a) : P a (x.run s n).2 := by
  have hx : post P I (x.run s n).1 (x.run s n).2 := h.of_writes n
  rw [hr] at hx
  exact hx

theorem run_of_error (h : wp x (post P I) s) {n : Option Nat} {e : Stop ε} (hr : (x.run s n).1 = .error e) :
    I (x.run s n).2 := by
  have hx : post P I (x.run s n).1 (x.run s n).2 := h.of_writes n
  rw [hr] at hx
  exact hx

/-- What holds wherever the operation ends holds of what it leaves. -/
theorem run_of_wp (h : wp x (post P I) s) (hP : ∀ a t, P a t → I t) (n : Option Nat) : I (x.run s n).2 := by
  cases hr : (x.run s n).1 with
  | ok a => exact hP a _ (run_of_ok h hr)
  | error e => exact run_of_error h hr

theorem wp_pure {a : α} (h : P a s) : wp (pure a : Operation S ε α) (post P I) s := ⟨fun _ => h⟩

theorem bind_apply (n : Option Nat) : (x >>= f) s n =
    match x s n with
    | (.ok a, s, n) => f a s n
    | (.error e, s, n) => (.error e, s, n) := rfl

theorem wp_bind (h : wp x (post P I) s) (hf : ∀ a s, P a s → wp (f a) (post G I) s) : wp (x >>= f) (post G I) s := by
  refine ⟨fun n => ?_⟩
  have hx := h.of_writes n
  rw [bind_apply]
  rcases hr : x s n with ⟨r, s', n'⟩
  rw [hr] at hx
  cases r with
  | ok a => exact (hf a s' hx).of_writes n'
  | error e => exact hx

theorem wp_mono {Q : α → S → Prop} {J : S → Prop} (h : wp x (post P I) s) (hP : ∀ a t, P a t → Q a t) (hI : ∀ t, I t → J t) :
    wp x (post Q J) s := by
  refine ⟨fun n => ?_⟩
  have hx := h.of_writes n
  cases hr : (x s n).1 with
  | ok a =>
    rw [hr] at hx
    exact hP a _ hx
  | error e =>
    rw [hr] at hx
    exact hI _ hx

theorem wp_get_bind {f : S → Operation S ε β} (h : wp (f s) (post G I) s) : wp (get >>= f) (post G I) s :=
  ⟨h.of_writes⟩

theorem wp_write (hI : I s) {g : S → S} (h : Q () (g s)) : wp (write g : Operation S ε Unit) (post Q I) s := by
  refine ⟨fun n => ?_⟩
  match n with
  | none => exact h
  | some 0 => exact hI
  | some (n + 1) => exact h

theorem wp_check (hI : I s) {y : Except ε α} (h : ∀ a, y = .ok a → P a s) : wp (check y) (post P I) s := by
  refine ⟨fun n => ?_⟩
  cases y with
  | ok a => exact h a rfl
  | error e => exact hI

theorem wp_write_bind (hI : I s) {g : S → S} {f : Unit → Operation S ε β} (h : wp (f ()) (post G I) (g s)) :
    wp (write g >>= f) (post G I) s :=
  wp_bind (P := fun _ s' => s' = g s) (wp_write hI rfl) fun _ _ e => e ▸ h

theorem wp_check_bind (hI : I s) {y : Except ε α} (h : ∀ a, y = .ok a → wp (f a) (post G I) s) :
    wp (check y >>= f) (post G I) s :=
  wp_bind (P := fun a s' => y = .ok a ∧ s' = s) (wp_check hI fun _ hy => ⟨hy, rfl⟩) fun a _ ⟨hy, e⟩ => e ▸ h a hy

/-- A check that is known to pass. -/
theorem wp_ok_bind {y : Except ε α} {a : α} (hy : y = .ok a) (h : wp (f a) (post G I) s) :
    wp (check y >>= f) (post G I) s := by
  subst hy
  exact ⟨h.of_writes⟩

/-! ## Runs that are not cut off -/

/-- The result of an operation that makes all its writes, and the state then. -/
structure Ends (x : Operation S ε α) (s : S) (r : Except (Stop ε) α) (t : S) : Prop where
  apply : x s none = (r, t, none)

variable {t u : S}

theorem Ends.run {r : Except (Stop ε) α} (h : Ends x s r t) : x.run s none = (r, t) := by
  rw [Operation.run, h.apply]

theorem Ends.pure (a : α) (s : S) : Ends (Pure.pure a : Operation S ε α) s (.ok a) s := ⟨rfl⟩

theorem Ends.write (g : S → S) (s : S) : Ends (Durable.write g : Operation S ε Unit) s (.ok ()) (g s) := ⟨rfl⟩

theorem Ends.check {y : Except ε α} {a : α} (h : y = .ok a) : Ends (Durable.check y) s (.ok a) s := by
  subst h
  exact ⟨rfl⟩

theorem Ends.raised {y : Except ε α} {e : ε} (h : y = .error e) : Ends (Durable.check y) s (.error (.raised e)) s := by
  subst h
  exact ⟨rfl⟩

theorem Ends.bind {a : α} {r : Except (Stop ε) β} (h : Ends x s (.ok a) t) (hf : Ends (f a) t r u) :
    Ends (x >>= f) s r u := by
  refine ⟨?_⟩
  rw [bind_apply, h.apply]
  exact hf.apply

theorem Ends.stop {e : Stop ε} (h : Ends x s (.error e) t) : Ends (x >>= f) s (.error e) t := by
  refine ⟨?_⟩
  rw [bind_apply, h.apply]

theorem Ends.get {f : S → Operation S ε β} {r : Except (Stop ε) β} (h : Ends (f s) s r u) :
    Ends (Durable.get >>= f) s r u := ⟨h.apply⟩

end ATB.Durable
