import AutomatedTradingBot.Framework.Text

/-!
# Decimals

Python's `decimal.Decimal`, finite values only: a sign, a coefficient and an
exponent, so that `1.0` and `1.00` are two values which compare equal. The
operators round half to even at the 28 digits of the default context; its
exponent limits are left out. `str` is `str(d)` and `parse?` is `Decimal(text)`
for texts in ASCII digits.

* `parse?_str`: `Decimal(str(d))` is `d`, with its sign and exponent.
-/

namespace ATB

structure Decimal where
  sign : Bool
  coeff : Nat
  exp : Int
deriving DecidableEq

namespace Decimal

/-! ## Arithmetic -/

instance : Zero Decimal := ⟨⟨false, 0, 0⟩⟩
instance : NatCast Decimal := ⟨fun n => ⟨false, n, 0⟩⟩

/-- The value in units of `10 ^ e`, for an exponent `e` that is no larger. -/
def scaled (d : Decimal) (e : Int) : Int :=
  (if d.sign then -1 else 1) * (d.coeff * 10 ^ (d.exp - e).toNat : Nat)

instance : BEq Decimal := ⟨fun a b => a.scaled (min a.exp b.exp) == b.scaled (min a.exp b.exp)⟩
instance : LE Decimal := ⟨fun a b => a.scaled (min a.exp b.exp) ≤ b.scaled (min a.exp b.exp)⟩
instance : LT Decimal := ⟨fun a b => a.scaled (min a.exp b.exp) < b.scaled (min a.exp b.exp)⟩
instance : DecidableLE Decimal := fun a b =>
  inferInstanceAs (Decidable (a.scaled (min a.exp b.exp) ≤ b.scaled (min a.exp b.exp)))
instance : DecidableLT Decimal := fun a b =>
  inferInstanceAs (Decidable (a.scaled (min a.exp b.exp) < b.scaled (min a.exp b.exp)))

/-- The digits of the default context. -/
def precision : Nat := 28

/-- `d._fix(context)`. -/
def fix (d : Decimal) : Decimal :=
  let excess := (Nat.toDigits 10 d.coeff).length - precision
  if excess = 0 then d
  else
    let unit := 10 ^ excess
    let kept := d.coeff / unit
    let rest := d.coeff % unit
    let kept := if unit < 2 * rest ∨ (unit = 2 * rest ∧ kept % 2 = 1) then kept + 1 else kept
    if kept = 10 ^ precision then ⟨d.sign, kept / 10, d.exp + excess + 1⟩
    else ⟨d.sign, kept, d.exp + excess⟩

def add (a b : Decimal) : Decimal :=
  let e := min a.exp b.exp
  let sum := a.scaled e + b.scaled e
  fix ⟨if sum = 0 then a.sign && b.sign else decide (sum < 0), sum.natAbs, e⟩

/-- `d.copy_negate()`. -/
def copyNegate (d : Decimal) : Decimal := { d with sign := !d.sign }

def neg (d : Decimal) : Decimal := fix (if d.coeff = 0 then { d with sign := false } else d.copyNegate)

def mul (a b : Decimal) : Decimal := fix ⟨a.sign != b.sign, a.coeff * b.coeff, a.exp + b.exp⟩

/-- Trailing zeros taken off an exact quotient until its exponent is `ideal`. -/
def reduceTo (ideal : Int) : Nat → Nat → Int → Nat × Int
  | 0, c, e => (c, e)
  | fuel + 1, c, e => if e < ideal ∧ c % 10 = 0 then reduceTo ideal fuel (c / 10) (e + 1) else (c, e)

/-- `a / b` for a divisor that is not zero. -/
def div (a b : Decimal) : Decimal :=
  let sign := a.sign != b.sign
  let ideal := a.exp - b.exp
  if a.coeff = 0 then fix ⟨sign, 0, ideal⟩
  else
    let shift : Int := (Nat.toDigits 10 b.coeff).length - (Nat.toDigits 10 a.coeff).length + precision + 1
    let n := a.coeff * 10 ^ shift.toNat
    let m := b.coeff * 10 ^ (-shift).toNat
    if n % m ≠ 0 then
      fix ⟨sign, if n / m % 5 = 0 then n / m + 1 else n / m, ideal - shift⟩
    else
      let (c, e) := reduceTo ideal shift.toNat (n / m) (ideal - shift)
      fix ⟨sign, c, e⟩

instance : Add Decimal := ⟨add⟩
instance : Sub Decimal := ⟨fun a b => add a b.copyNegate⟩
instance : Neg Decimal := ⟨neg⟩
instance : Mul Decimal := ⟨mul⟩
instance : Div Decimal := ⟨div⟩

/-- `Decimal(n)` of an integer. -/
def ofInt (n : Int) : Decimal := ⟨decide (n < 0), n.natAbs, 0⟩

/-- `int(d)`: the fraction is cut off. -/
def toInt (d : Decimal) : Int :=
  let n := if 0 ≤ d.exp then d.coeff * 10 ^ d.exp.toNat else d.coeff / 10 ^ (-d.exp).toNat
  if d.sign then -n else n

/-- `d._rescale(e, ROUND_HALF_EVEN)`. -/
def rescale (d : Decimal) (e : Int) : Decimal :=
  if e ≤ d.exp then ⟨d.sign, d.coeff * 10 ^ (d.exp - e).toNat, e⟩
  else
    let unit := 10 ^ (e - d.exp).toNat
    let kept := d.coeff / unit
    let rest := d.coeff % unit
    ⟨d.sign, if unit < 2 * rest ∨ (unit = 2 * rest ∧ kept % 2 = 1) then kept + 1 else kept, e⟩

/-- `d.quantize(e)`, which raises `InvalidOperation` for more than 28 digits. -/
def quantize (d : Decimal) (e : Int) : Option Decimal :=
  if precision < (Nat.toDigits 10 (d.rescale e).coeff).length then none else some (d.rescale e)

/-! ## Text -/

/-- `"%+d" % n`. -/
def signedChars : Int → List Char
  | .ofNat n => '+' :: Nat.toDigits 10 n
  | .negSucc n => '-' :: Nat.toDigits 10 (n + 1)

/-- The digits after the point, with it. -/
def point (frac : List Char) : List Char := if frac = [] then [] else '.' :: frac

def exponent (e : Int) : List Char := if e = 0 then [] else 'E' :: signedChars e

/-- `str(d)`. -/
def str (d : Decimal) : String :=
  let digits := Nat.toDigits 10 d.coeff
  let left : Int := d.exp + digits.length
  let place : Int := if d.exp ≤ 0 ∧ -6 < left then left else 1
  let (int, frac) :=
    if place ≤ 0 then (['0'], List.replicate (-place).toNat '0' ++ digits)
    else (digits.take place.toNat, digits.drop place.toNat)
  String.ofList ((if d.sign then ['-'] else []) ++ (int ++ (point frac ++ exponent (left - place))))

/-- A sign and what follows it. -/
def signOf : List Char → Bool × List Char
  | '-' :: s => (true, s)
  | '+' :: s => (false, s)
  | s => (false, s)

/-- The fraction part and what follows it. -/
def fractionOf : List Char → List Char × List Char
  | '.' :: s => (s.takeWhile Char.isDigit, s.dropWhile Char.isDigit)
  | s => ([], s)

/-- The exponent part, which ends the text. -/
def exponentOf : List Char → Option Int
  | [] => some 0
  | c :: s =>
    let (sign, s) := signOf s
    if (c = 'E' ∨ c = 'e') ∧ s ≠ [] ∧ s.all Char.isDigit then
      some (if sign then -(Nat.ofDigitChars 10 s 0 : Int) else Nat.ofDigitChars 10 s 0)
    else none

/-- `Decimal(text)`. -/
def parse? (text : String) : Option Decimal :=
  let (sign, s) := signOf ((Text.strip (Text.chars text)).filter (· != '_'))
  let int := s.takeWhile Char.isDigit
  let (frac, s) := fractionOf (s.dropWhile Char.isDigit)
  if int ++ frac = [] then none
  else (exponentOf s).map fun e => ⟨sign, Nat.ofDigitChars 10 (int ++ frac) 0, e - frac.length⟩

/-! ## Round trip -/

/-- The characters of the text of a decimal. -/
def Textual (c : Char) : Prop := c.isDigit = true ∨ c ∈ ['-', '+', '.', 'E']

theorem isDigit_toDigits {n : Nat} {c : Char} (h : c ∈ Nat.toDigits 10 n) : c.isDigit = true :=
  Nat.isDigit_of_mem_toDigits (by decide) (by decide) h

theorem Textual.not_space {c : Char} (h : Textual c) : Text.isSpace c = false := by
  rcases h with h | h
  · have h' : 48 ≤ c.toNat ∧ c.toNat ≤ 57 := by simpa [Char.isDigit, UInt32.le_iff_toNat_le] using h
    simp only [Text.isSpace, Bool.or_eq_false_iff, Bool.and_eq_false_iff, decide_eq_false_iff_not,
      beq_eq_false_iff_ne]
    omega
  · simp only [List.mem_cons, List.not_mem_nil, or_false] at h
    rcases h with rfl | rfl | rfl | rfl <;> rfl

theorem Textual.ne_underscore {c : Char} (h : Textual c) : c ≠ '_' := by
  rintro rfl
  revert h
  simp [Textual]

theorem textual_signedChars {e : Int} {c : Char} (h : c ∈ signedChars e) : Textual c := by
  cases e with
  | ofNat n =>
    rcases List.mem_cons.mp h with rfl | h
    · exact Or.inr (by decide)
    · exact Or.inl (isDigit_toDigits h)
  | negSucc n =>
    rcases List.mem_cons.mp h with rfl | h
    · exact Or.inr (by decide)
    · exact Or.inl (isDigit_toDigits h)

theorem signOf_signedChars (e : Int) :
    ∃ s, signOf (signedChars e) = (decide (e < 0), s) ∧ s ≠ [] ∧ s.all Char.isDigit ∧
      Nat.ofDigitChars 10 s 0 = e.natAbs := by
  cases e with
  | ofNat n =>
    exact ⟨Nat.toDigits 10 n, by simp [signedChars, signOf], Nat.toDigits_ne_nil,
      List.all_eq_true.mpr fun c hc => isDigit_toDigits hc, Nat.ofDigitChars_ten_toDigits⟩
  | negSucc n =>
    exact ⟨Nat.toDigits 10 (n + 1), by simp [signedChars, signOf], Nat.toDigits_ne_nil,
      List.all_eq_true.mpr fun c hc => isDigit_toDigits hc, Nat.ofDigitChars_ten_toDigits⟩

theorem exponentOf_exponent (e : Int) : exponentOf (exponent e) = some e := by
  by_cases h0 : e = 0
  · subst h0; rfl
  · obtain ⟨s, hs, hne, hall, hv⟩ := signOf_signedChars e
    simp only [exponent, if_neg h0, exponentOf, hs]
    rw [if_pos ⟨by simp, hne, hall⟩, hv]
    by_cases hneg : e < 0
    · simp only [hneg, decide_true, if_true, Option.some.injEq]; omega
    · simp only [hneg, decide_false, Bool.false_eq_true, if_false, Option.some.injEq]; omega

/-- A text that does not go on with a digit ends the digits before it. -/
theorem span_digits {l rest : List Char} (hl : ∀ c ∈ l, c.isDigit = true)
    (hr : ∀ c ∈ rest.head?, c.isDigit = false) :
    (l ++ rest).takeWhile Char.isDigit = l ∧ (l ++ rest).dropWhile Char.isDigit = rest := by
  rw [List.takeWhile_append_of_pos hl, List.dropWhile_append_of_pos hl]
  cases rest with
  | nil => simp
  | cons c rest => simp [hr c rfl]

theorem exponent_head (e : Int) : ∀ c ∈ (exponent e).head?, c.isDigit = false := by
  intro c hc
  unfold exponent at hc
  split at hc
  · cases hc
  · cases hc; decide

theorem fractionOf_point {frac : List Char} (h : ∀ c ∈ frac, c.isDigit = true) (e : Int) :
    fractionOf (point frac ++ exponent e) = (frac, exponent e) := by
  unfold point
  split
  · rename_i h0
    subst h0
    rw [List.nil_append, fractionOf.eq_def]
    unfold exponent
    split <;> rename_i heq
    · split at heq <;> simp at heq
    · rfl
  · have := span_digits h (exponent_head e)
    simp only [List.cons_append, fractionOf, this]

theorem point_head (frac : List Char) (e : Int) :
    ∀ c ∈ (point frac ++ exponent e).head?, c.isDigit = false := by
  unfold point
  split
  · exact exponent_head e
  · intro c hc; cases hc; decide

theorem textual_parts {int frac : List Char} (hi : ∀ c ∈ int, c.isDigit = true) (hf : ∀ c ∈ frac, c.isDigit = true)
    (sign : Bool) (e : Int) :
    ∀ c ∈ (if sign then ['-'] else []) ++ (int ++ (point frac ++ exponent e)), Textual c := by
  have hsign : ∀ c ∈ (if sign then ['-'] else []), Textual c := by
    cases sign <;> simp [Textual]
  have hpoint : ∀ c ∈ point frac, Textual c := by
    unfold point
    split
    · simp
    · intro c hc
      rcases List.mem_cons.mp hc with rfl | hc
      · exact Or.inr (by decide)
      · exact Or.inl (hf c hc)
  have hexp : ∀ c ∈ exponent e, Textual c := by
    unfold exponent
    split
    · simp
    · intro c hc
      rcases List.mem_cons.mp hc with rfl | hc
      · exact Or.inr (by decide)
      · exact textual_signedChars hc
  intro c hc
  simp only [List.mem_append] at hc
  rcases hc with hc | hc | hc | hc
  · exact hsign c hc
  · exact Or.inl (hi c hc)
  · exact hpoint c hc
  · exact hexp c hc

/-- A text of digits with a point and an exponent reads as its parts say. -/
theorem parse?_parts {int frac : List Char} (hne : int ≠ []) (hi : ∀ c ∈ int, c.isDigit = true)
    (hf : ∀ c ∈ frac, c.isDigit = true) (sign : Bool) (e : Int) :
    parse? (String.ofList ((if sign then ['-'] else []) ++ (int ++ (point frac ++ exponent e)))) =
      some ⟨sign, Nat.ofDigitChars 10 (int ++ frac) 0, e - frac.length⟩ := by
  have hall := textual_parts hi hf sign e
  have hsplit : signOf ((if sign then ['-'] else []) ++ (int ++ (point frac ++ exponent e))) =
      (sign, int ++ (point frac ++ exponent e)) := by
    cases sign with
    | true => rfl
    | false =>
      cases int with
      | nil => exact absurd rfl hne
      | cons c int =>
        have hc := hi c (List.mem_cons_self ..)
        have hm : c ≠ '-' := by rintro rfl; revert hc; decide
        have hp : c ≠ '+' := by rintro rfl; revert hc; decide
        simp only [Bool.false_eq_true, if_false, List.nil_append, List.cons_append]
        rw [signOf]
        · simp [hm]
        · simp [hp]
  have hspan := span_digits hi (point_head frac e)
  unfold parse?
  rw [Text.chars_eq, String.toList_ofList, Text.strip,
    Text.stripOf_of_none fun c hc => (hall c hc).not_space,
    List.filter_eq_self.mpr fun c hc => bne_iff_ne.mpr (hall c hc).ne_underscore]
  simp only [hsplit, hspan, fractionOf_point hf, exponentOf_exponent, Option.map_some]
  rw [if_neg (by simp [hne])]

theorem textual_str (d : Decimal) : ∀ c ∈ d.str.toList, Textual c := by
  have hd : ∀ c ∈ Nat.toDigits 10 d.coeff, c.isDigit = true := fun c hc => isDigit_toDigits hc
  simp only [str, String.toList_ofList]
  generalize Nat.toDigits 10 d.coeff = digits at hd
  generalize (if d.exp ≤ 0 ∧ -6 < d.exp + (digits.length : Int) then d.exp + (digits.length : Int) else 1) = place
  by_cases hle : place ≤ 0
  · simp only [if_pos hle]
    refine textual_parts (fun c hc => ?_) (fun c hc => ?_) _ _
    · rw [List.mem_singleton.mp hc]
      rfl
    · rcases List.mem_append.mp hc with hc | hc
      · rw [List.eq_of_mem_replicate hc]
        rfl
      · exact hd c hc
  · simp only [if_neg hle]
    exact textual_parts (fun c hc => hd c (List.mem_of_mem_take hc)) (fun c hc => hd c (List.mem_of_mem_drop hc)) _ _

/-- `Decimal(str(d)) == d`, sign and exponent included. -/
theorem parse?_str (d : Decimal) : parse? d.str = some d := by
  have hd : ∀ c ∈ Nat.toDigits 10 d.coeff, c.isDigit = true := fun c hc => isDigit_toDigits hc
  have hpos : 0 < (Nat.toDigits 10 d.coeff).length := Nat.length_toDigits_pos
  have hval : Nat.ofDigitChars 10 (Nat.toDigits 10 d.coeff) 0 = d.coeff := Nat.ofDigitChars_ten_toDigits
  unfold str
  generalize hdig : Nat.toDigits 10 d.coeff = digits at hd hpos hval
  simp only
  generalize hleft : d.exp + (digits.length : Int) = left
  generalize hplace : (if d.exp ≤ 0 ∧ -6 < left then left else 1) = place
  have hbound : place ≤ digits.length := by split at hplace <;> omega
  by_cases hle : place ≤ 0
  · simp only [if_pos hle]
    have hz : ∀ c ∈ List.replicate (-place).toNat '0' ++ digits, c.isDigit = true := by
      intro c hc
      rcases List.mem_append.mp hc with hc | hc
      · rw [List.eq_of_mem_replicate hc]; decide
      · exact hd c hc
    have hv : Nat.ofDigitChars 10 (['0'] ++ (List.replicate (-place).toNat '0' ++ digits)) 0 = d.coeff := by
      have h0 : Nat.ofDigitChars 10 ['0'] 0 = 0 := by decide
      rw [Nat.ofDigitChars_append, h0, Nat.ofDigitChars_append, Nat.ofDigitChars_replicate_zero,
        Nat.mul_zero, hval]
    rw [parse?_parts (List.cons_ne_nil '0' []) (fun c hc => by rw [List.mem_singleton.mp hc]; rfl) hz, hv]
    have he : left - place - ((List.replicate (-place).toNat '0' ++ digits).length : Int) = d.exp := by
      simp only [List.length_append, List.length_replicate]
      omega
    rw [he]
  · simp only [if_neg hle]
    have ht : ∀ c ∈ digits.take place.toNat, c.isDigit = true := fun c hc => hd c (List.mem_of_mem_take hc)
    have hr : ∀ c ∈ digits.drop place.toNat, c.isDigit = true := fun c hc => hd c (List.mem_of_mem_drop hc)
    have hne : digits.take place.toNat ≠ [] := by
      rw [Ne, List.take_eq_nil_iff, not_or]
      exact ⟨by omega, List.ne_nil_of_length_pos hpos⟩
    rw [parse?_parts hne ht hr, List.take_append_drop, hval]
    have he : left - place - ((digits.drop place.toNat).length : Int) = d.exp := by
      simp only [List.length_drop]
      omega
    rw [he]

end Decimal

end ATB
