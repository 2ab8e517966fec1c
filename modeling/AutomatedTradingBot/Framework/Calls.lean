import AutomatedTradingBot.Framework.Trace
import Mathlib.Logic.Function.Basic

/-!
# Programs that call out

Code that makes calls is a `Program`: it is done, or makes a call and goes on with the
reply. `Code` adds local variables that outlive an exception, and exceptions. A
`System` says which reply the shared state gives to a call, for each choice of what is
not determined, and any number of threads run their programs over it in any order.

* `Program.wp`: what holds of the shared state when the program is done, whatever the
  others do in the meantime: between two calls they may move as `Rely` says;
* `Code.wp_bind`, `Code.wp_tryCatch`, `Code.wp_raising`: the rules for code;
* `System.run_wp`: what is proved of each program alone holds in every interleaving;
* `System.run_restrict`: the runs whose calls meet a condition are those of a system that
  takes no other calls;
* `System.run_eval`: a thread can run while the others wait.
-/

namespace ATB.Calls

/-- A program that makes calls `c : C` with replies in `R c`. -/
inductive Program (C : Type) (R : C → Type) (α : Type) where
  | ret (a : α)
  | call (c : C) (next : R c → Program C R α)

namespace Program

variable {C : Type} {R : C → Type} {α β : Type}

def bind (p : Program C R α) (f : α → Program C R β) : Program C R β :=
  match p with
  | .ret a => f a
  | .call c next => .call c fun r => (next r).bind f

instance : Monad (Program C R) where
  pure := .ret
  bind := bind

/-- The program alone, over what answers its calls. -/
def eval {S : Type} (answer : S → (c : C) → R c × S) : Program C R α → S → α × S
  | .ret a, s => (a, s)
  | .call c next, s => (next (answer s c).1).eval answer (answer s c).2

theorem eval_bind {S : Type} {answer : S → (c : C) → R c × S} {p : Program C R α} {f : α → Program C R β} {s : S} :
    (p >>= f).eval answer s = (f (p.eval answer s).1).eval answer (p.eval answer s).2 := by
  induction p generalizing s with
  | ret a => rfl
  | call c next ih => exact ih (answer s c).1

/-- The calls of the program alone meet the condition. -/
def Meets {S : Type} (answer : S → (c : C) → R c × S) (P : S → C → Prop) : Program C R α → S → Prop
  | .ret _, _ => True
  | .call c next, s => P s c ∧ (next (answer s c).1).Meets answer P (answer s c).2

theorem meets_bind {S : Type} {answer : S → (c : C) → R c × S} {P : S → C → Prop} {p : Program C R α}
    {f : α → Program C R β} {s : S} (h : p.Meets answer P s)
    (hf : (f (p.eval answer s).1).Meets answer P (p.eval answer s).2) : (p >>= f).Meets answer P s := by
  induction p generalizing s with
  | ret a => exact hf
  | call c next ih => exact ⟨h.1, ih (answer s c).1 h.2 hf⟩

theorem bind_ret {p : Program C R α} : p.bind .ret = p := by
  induction p with
  | ret a => rfl
  | call c next ih => exact congrArg _ (funext ih)

end Program

/-- What programs run over: the replies of the shared state `S` to the calls of a thread, by a
choice in `K`, and the steps that no thread takes. -/
structure System (T S K E C : Type) (R : C → Type) where
  answer : T → S → (c : C) → K → Option (R c × S)
  other : S → E → Option S

inductive Label (T K E : Type) where
  /-- The thread makes its next call. -/
  | call (t : T) (x : K)
  | other (e : E)

structure State (T S C : Type) (R : C → Type) (α : Type) where
  shared : S
  programs : T → Program C R α

section System

variable {T S K E C : Type} {R : C → Type} {α β : Type}

def System.step [DecidableEq T] (sys : System T S K E C R) (s : State T S C R α) : Label T K E → Option (State T S C R α)
  | .call t x =>
    match s.programs t with
    | .ret _ => none
    | .call c next =>
      (sys.answer t s.shared c x).map fun r => ⟨r.2, Function.update s.programs t (next r.1)⟩
  | .other e => (sys.other s.shared e).map fun shared => { s with shared := shared }

/-- What holds of the shared state at any time, and what a thread may rely on between two of its
steps. -/
structure Discipline (sys : System T S K E C R) where
  Inv : S → Prop
  Rely : T → S → S → Prop
  refl : ∀ t s, Rely t s s
  trans : ∀ {t s₁ s₂ s₃}, Rely t s₁ s₂ → Rely t s₂ s₃ → Rely t s₁ s₃
  other : ∀ {s e s'}, sys.other s e = some s' → Inv s → Inv s' ∧ ∀ t, Rely t s s'

variable {sys : System T S K E C R} (d : Discipline sys) (t : T)

/-- From now on. -/
def Discipline.Later (P : S → Prop) (s : S) : Prop := ∀ s', d.Inv s' → d.Rely t s s' → P s'

variable {d t}

theorem Discipline.Later.now {P : S → Prop} {s : S} (h : d.Later t P s) (hs : d.Inv s) : P s := h s hs (d.refl t s)

theorem Discipline.Later.later {P : S → Prop} {s s' : S} (h : d.Later t P s) (hr : d.Rely t s s') : d.Later t P s' :=
  fun s'' hs'' hr' => h s'' hs'' (d.trans hr hr')

/-- The calls keep the invariant and what the others rely on, and `Q` holds once the program is
done. -/
def Program.wp (d : Discipline sys) (t : T) : Program C R α → (α → S → Prop) → S → Prop
  | .ret a, Q, s => d.Later t (Q a) s
  | .call c next, Q, s =>
    d.Later t
      (fun s₁ => ∀ x r s₂, sys.answer t s₁ c x = some (r, s₂) →
        d.Inv s₂ ∧ (∀ u, u ≠ t → d.Rely u s₁ s₂) ∧ (next r).wp d t Q s₂)
      s

namespace Program

variable {p : Program C R α} {f : α → Program C R β} {Q Q' : α → S → Prop} {s s' : S}

theorem wp_later (h : p.wp d t Q s) (hr : d.Rely t s s') : p.wp d t Q s' := by
  cases p with
  | ret a => exact Discipline.Later.later h hr
  | call c next => exact Discipline.Later.later h hr

theorem wp_of_later (h : d.Later t (p.wp d t Q) s) : p.wp d t Q s := by
  cases p with
  | ret a => exact fun s' hs' hr => Discipline.Later.now (h s' hs' hr) hs'
  | call c next => exact fun s' hs' hr => Discipline.Later.now (h s' hs' hr) hs'

theorem wp_mono (h : p.wp d t Q s) (hQ : ∀ a s', d.Inv s' → d.Later t (Q a) s' → Q' a s') : p.wp d t Q' s := by
  induction p generalizing s with
  | ret a => exact fun s' hs' hr => hQ a s' hs' (Discipline.Later.later h hr)
  | call c next ih =>
    intro s₁ hs₁ hr x r s₂ hx
    obtain ⟨hinv, hothers, hnext⟩ := h s₁ hs₁ hr x r s₂ hx
    exact ⟨hinv, hothers, ih r hnext⟩

theorem wp_bind {Q : β → S → Prop} (h : p.wp d t (fun a => (f a).wp d t Q) s) : (p >>= f).wp d t Q s := by
  induction p generalizing s with
  | ret a => exact wp_of_later h
  | call c next ih =>
    intro s₁ hs₁ hr x r s₂ hx
    obtain ⟨hinv, hothers, hnext⟩ := h s₁ hs₁ hr x r s₂ hx
    exact ⟨hinv, hothers, ih r hnext⟩

end Program

/-- Code that calls out and may raise. -/
theorem Program.wp_bind_raising {ε : Type} {x : ExceptT ε (Program C R) α} {f : α → ExceptT ε (Program C R) β}
    {M : Except ε α → S → Prop} {Q : Except ε β → S → Prop} {s : S} (h : Program.wp d t x M s)
    (hok : ∀ a s, d.Inv s → M (.ok a) s → Program.wp d t (f a) Q s)
    (herror : ∀ e s, d.Inv s → M (.error e) s → Q (.error e) s) :
    Program.wp d t (x >>= f : ExceptT ε (Program C R) β) Q s := by
  refine Program.wp_bind (Program.wp_mono h ?_)
  rintro (e | a) s' hs' hr
  · exact fun s'' hs'' hr' => herror e s'' hs'' (hr s'' hs'' hr')
  · exact hok a s' hs' (hr.now hs')

/-- What is proved of each program alone holds in every interleaving of them. -/
theorem System.run_wp [DecidableEq T] {Q : T → α → S → Prop} {s s' : State T S C R α} {ls : List (Label T K E)}
    (h : Trace.run sys.step s ls = some s') (hinv : d.Inv s.shared)
    (hs : ∀ t, (s.programs t).wp d t (Q t) s.shared) :
    d.Inv s'.shared ∧ ∀ t, (s'.programs t).wp d t (Q t) s'.shared := by
  refine Trace.run_invariant (fun s => d.Inv s.shared ∧ ∀ t, (s.programs t).wp d t (Q t) s.shared) ?_ h ⟨hinv, hs⟩
  rintro s l s' h ⟨hinv, hs⟩
  cases l with
  | call t x =>
    simp only [System.step] at h
    split at h
    · cases h
    · next c next hp =>
      obtain ⟨⟨r, shared⟩, hx, rfl⟩ := Option.map_eq_some_iff.mp h
      have ht := hs t
      rw [hp] at ht
      obtain ⟨hinv', hothers, hnext⟩ := Discipline.Later.now ht hinv x r shared hx
      refine ⟨hinv', fun u => ?_⟩
      by_cases hu : u = t
      · subst hu
        simpa using hnext
      · simpa [hu] using Program.wp_later (hs u) (hothers u hu)
  | other e =>
    obtain ⟨shared, hx, rfl⟩ := Option.map_eq_some_iff.mp h
    obtain ⟨hinv', hrely⟩ := d.other hx hinv
    exact ⟨hinv', fun u => Program.wp_later (hs u) (hrely u)⟩

end System

/-! ## Runs in which the calls meet a condition -/

section Guarded

variable {T S K E C : Type} {R : C → Type} {α : Type} [DecidableEq T] (sys : System T S K E C R) (P : T → S → C → Prop)

/-- The call that a thread makes next meets the condition. -/
def Guarded (s : State T S C R α) : Label T K E → Prop
  | .call t _ => ∀ c next, s.programs t = .call c next → P t s.shared c
  | .other _ => True

/-- The system that takes no other calls. -/
def System.restrict [∀ t s c, Decidable (P t s c)] : System T S K E C R where
  answer t s c x := if P t s c then sys.answer t s c x else none
  other := sys.other

variable {sys P}

theorem System.run_restrict [∀ t s c, Decidable (P t s c)] {s s' : State T S C R α} {ls : List (Label T K E)}
    (h : Trace.run sys.step s ls = some s') (hP : Trace.Along sys.step (Guarded P) s ls) :
    Trace.run (sys.restrict P).step s ls = some s' := by
  induction ls generalizing s with
  | nil => exact h
  | cons l ls ih =>
    obtain ⟨s₁, h₁, h₂⟩ := Trace.run_cons.mp h
    refine Trace.run_cons.mpr ⟨s₁, ?_, ih h₂ (hP.2 s₁ h₁)⟩
    have hl := hP.1
    cases l with
    | other e => exact h₁
    | call t x =>
      simp only [System.step] at h₁ ⊢
      cases hp : s.programs t with
      | ret a =>
        rw [hp] at h₁
        cases h₁
      | call c next =>
        rw [hp] at h₁
        simpa only [System.restrict, if_pos (hl c next hp)] using h₁

/-- A thread can run the first part of its program while the others wait. -/
theorem System.run_eval {β : Type} {t : T} {x : K} {answer : S → (c : C) → R c × S}
    (hanswer : ∀ s c, sys.answer t s c x = some (answer s c)) {p : Program C R β} {f : β → Program C R α}
    {s : State T S C R α} (hp : s.programs t = p.bind f) :
    ∃ ls, Trace.run sys.step s ls =
        some ⟨(p.eval answer s.shared).2, Function.update s.programs t (f (p.eval answer s.shared).1)⟩ ∧
      (p.Meets answer (P t) s.shared → Trace.Along sys.step (Guarded P) s ls) := by
  induction p generalizing s with
  | ret b =>
    refine ⟨[], congrArg some ?_, fun _ => trivial⟩
    show s = ⟨s.shared, Function.update s.programs t (f b)⟩
    rw [← show s.programs t = f b from hp, Function.update_eq_self]
  | call c next ih =>
    obtain ⟨ls, hrun, halong⟩ := ih (answer s.shared c).1
      (s := ⟨(answer s.shared c).2, Function.update s.programs t ((next (answer s.shared c).1).bind f)⟩)
      (Function.update_self ..)
    rw [Function.update_idem] at hrun
    have hstep : sys.step s (.call t x) = some ⟨(answer s.shared c).2, Function.update s.programs t
        ((next (answer s.shared c).1).bind f)⟩ := by
      simp only [System.step, hp, Program.bind, hanswer, Option.map_some]
    refine ⟨.call t x :: ls, Trace.run_cons.mpr ⟨_, hstep, hrun⟩, fun hmeets => ⟨fun c' next' hcall => ?_, fun s' hs' => ?_⟩⟩
    · obtain rfl : c = c' := by
        have hsame := hp.symm.trans hcall
        injection hsame
      exact hmeets.1
    · obtain rfl := Option.some.inj (hstep.symm.trans hs')
      exact halong hmeets.2

end Guarded

/-! ## Code with local variables and exceptions -/

/-- Code with local variables `σ`, which keep their values when an exception `ε` is raised. -/
abbrev Code (σ ε C : Type) (R : C → Type) : Type → Type := ExceptT ε (StateT σ (Program C R))

namespace Code

variable {T S K E C σ ε : Type} {R : C → Type} {α β : Type} {sys : System T S K E C R} {d : Discipline sys} {t : T}

/-- A call that may raise. -/
def raising (p : Program C R (Except ε α)) : Code σ ε C R α := fun l => p >>= fun r => .ret (r, l)

/-- The code as a program, from these values of the local variables. -/
def program (x : Code σ ε C R α) (l : σ) : Program C R (Except ε α × σ) := x l

def wp (d : Discipline sys) (t : T) (x : Code σ ε C R α) (Q : Except ε α → σ → S → Prop) (l : σ) (s : S) : Prop :=
  (x.program l).wp d t (fun r s => Q r.1 r.2 s) s

variable {x : Code σ ε C R α} {f : α → Code σ ε C R β} {Q M : Except ε α → σ → S → Prop}
  {Q' : Except ε β → σ → S → Prop} {l : σ} {s : S}

theorem wp_mono (h : x.wp d t M l s) (hQ : ∀ r l s, d.Inv s → M r l s → Q r l s) : x.wp d t Q l s :=
  Program.wp_mono h fun r s' hs' hr => hQ r.1 r.2 s' hs' (hr.now hs')

theorem wp_pure {a : α} (h : d.Later t (Q (.ok a) l) s) : (pure a : Code σ ε C R α).wp d t Q l s := h

theorem wp_throw {e : ε} (h : d.Later t (Q (.error e) l) s) : (throw e : Code σ ε C R α).wp d t Q l s := h

theorem wp_bind (h : x.wp d t M l s) (hok : ∀ a l s, d.Inv s → M (.ok a) l s → (f a).wp d t Q' l s)
    (herror : ∀ e l s, d.Inv s → M (.error e) l s → Q' (.error e) l s) : (x >>= f).wp d t Q' l s := by
  refine Program.wp_bind (Program.wp_mono h ?_)
  rintro ⟨r, l'⟩ s' hs' hr
  cases r with
  | ok a => exact hok a l' s' hs' (hr.now hs')
  | error e => exact fun s'' hs'' hr' => herror e l' s'' hs'' (hr s'' hs'' hr')

theorem wp_tryCatch {h : ε → Code σ ε C R α} (hx : x.wp d t M l s)
    (hok : ∀ a l s, d.Inv s → M (.ok a) l s → Q (.ok a) l s)
    (herror : ∀ e l s, d.Inv s → M (.error e) l s → (h e).wp d t Q l s) : (tryCatch x h).wp d t Q l s := by
  refine Program.wp_bind (Program.wp_mono hx ?_)
  rintro ⟨r, l'⟩ s' hs' hr
  cases r with
  | ok a => exact fun s'' hs'' hr' => hok a l' s'' hs'' (hr s'' hs'' hr')
  | error e => exact herror e l' s' hs' (hr.now hs')

theorem wp_get_bind {g : σ → Code σ ε C R α} (h : (g l).wp d t Q l s) : ((get : Code σ ε C R σ) >>= g).wp d t Q l s := h

theorem wp_modify_bind {m : σ → σ} {g : Unit → Code σ ε C R α} (h : (g ()).wp d t Q (m l) s) :
    ((modify m : Code σ ε C R Unit) >>= g).wp d t Q l s := h

theorem wp_raising {p : Program C R (Except ε α)} (h : p.wp d t (fun r s => Q r l s) s) :
    (raising p : Code σ ε C R α).wp d t Q l s :=
  Program.wp_bind (Program.wp_mono h fun _ _ _ hr => hr)

end Code

end ATB.Calls
