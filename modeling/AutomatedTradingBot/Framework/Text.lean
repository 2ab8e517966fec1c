import Mathlib.Data.List.Dedup
import Mathlib.Data.List.Sort
import Mathlib.Order.Basic
import Mathlib.Data.String.Basic

/-!
# Python text

The operations on `str` that the modelled code uses, on the characters of a Lean
`String`: `strip`, `startswith`, anchored regular expressions made of a literal
lead and a character class (`fullmatch`), zero-padded decimals (`zfill`), and
`sorted(set(...))`.

* `chars_eq`: the characters of a string;
* `after?_eq_some`: dropping a literal lead;
* `ofDigitChars_zfill`, `num_zfill`: a zero-padded decimal reads back;
* `zfill_lt_zfill`: padded to one width, numbers sort as texts.
-/

namespace ATB.Text

/-- The characters of a string; text of ASCII characters is read off its bytes. -/
def chars (s : String) : List Char :=
  let bytes := s.toByteArray.data.toList
  if bytes.all (fun b => b.toNat < 128) then bytes.map (fun b => Char.ofNat b.toNat) else s.toList

theorem ascii_of_encode {c : Char} (h : (String.utf8EncodeChar c).all (fun b => b.toNat < 128) = true) :
    (String.utf8EncodeChar c).map (fun b => Char.ofNat b.toNat) = [c] := by
  unfold String.utf8EncodeChar at h ⊢
  simp only at h ⊢
  split at h
  · rename_i hv
    rw [if_pos hv]
    have hc : c.toNat % 256 = c.toNat := Nat.mod_eq_of_lt (by have : c.toNat = c.val.toNat := rfl; omega)
    simp only [List.map_cons, List.map_nil, List.cons.injEq, and_true]
    exact (congrArg Char.ofNat hc).trans (Char.ofNat_toNat c)
  · exfalso
    split at h
    · simp at h; omega
    · split at h
      · simp at h; omega
      · simp at h; omega

@[simp] theorem chars_eq (s : String) : chars s = s.toList := by
  have key : ∀ l : List Char, (l.flatMap String.utf8EncodeChar).all (fun b => b.toNat < 128) = true →
      (l.flatMap String.utf8EncodeChar).map (fun b => Char.ofNat b.toNat) = l := by
    intro l
    induction l with
    | nil => simp
    | cons c l ih =>
      intro h
      rw [List.flatMap_cons, List.all_append, Bool.and_eq_true] at h
      rw [List.flatMap_cons, List.map_append, ascii_of_encode h.1, ih h.2]
      rfl
  have hbytes : s.toByteArray.data.toList = s.toList.flatMap String.utf8EncodeChar := by
    rw [← String.utf8Encode_toList, List.utf8Encode]
    simp
  unfold chars
  simp only [hbytes]
  split
  · rename_i h
    exact key _ h
  · rfl

/-! Texts are compared by their characters. -/

instance (priority := high) decidableLE : DecidableLE String := fun s t =>
  decidable_of_iff (chars s ≤ chars t) (by rw [chars_eq, chars_eq, String.le_iff_toList_le])

instance (priority := high) decidableLT : DecidableLT String := fun s t =>
  decidable_of_iff (chars s < chars t) (by rw [chars_eq, chars_eq, String.lt_iff_toList_lt])

instance (priority := high) linearOrder : LinearOrder String where
  toPartialOrder := inferInstance
  le_total := le_total
  toDecidableLE := decidableLE
  toDecidableEq := inferInstance
  toDecidableLT := decidableLT
  min_def s t := by rw [LinearOrder.min_def s t]; split_ifs <;> rfl
  max_def s t := by rw [LinearOrder.max_def s t]; split_ifs <;> rfl
  compare_eq_compareOfLessAndEq s t := by
    rw [LinearOrder.compare_eq_compareOfLessAndEq s t, compareOfLessAndEq, compareOfLessAndEq]
    split_ifs <;> rfl

/-- `str.isspace` of one character. -/
def isSpace (c : Char) : Bool :=
  let n := c.toNat
  (0x09 ≤ n && n ≤ 0x0d) || (0x1c ≤ n && n ≤ 0x20) || n == 0x85 || n == 0xa0 || n == 0x1680 ||
    (0x2000 ≤ n && n ≤ 0x200a) || n == 0x2028 || n == 0x2029 || n == 0x202f || n == 0x205f ||
    n == 0x3000

/-- `s.strip(...)`: the characters of a class dropped at both ends. -/
def stripOf (cls : Char → Bool) (s : List Char) : List Char :=
  ((s.dropWhile cls).reverse.dropWhile cls).reverse

/-- `s.strip()`. -/
def strip : List Char → List Char := stripOf isSpace

/-- `bool(s.strip())`: some character is not white space. -/
def nonblank (s : String) : Bool := (chars s).any fun c => !isSpace c

/-- What follows a literal lead. -/
def after? : List Char → List Char → Option (List Char)
  | [], s => some s
  | _ :: _, [] => none
  | p :: ps, c :: cs => if p = c then after? ps cs else none

/-- `s.replace(p, "")`, with as many replacements as the first argument allows. -/
def removeUpTo (p : List Char) : Nat → List Char → List Char
  | 0, s => s
  | _, [] => []
  | n + 1, c :: s =>
    match after? p (c :: s) with
    | some rest => removeUpTo p n rest
    | none => c :: removeUpTo p n s

/-- `s.replace(p, "")`. -/
def remove (p : String) (s : List Char) : List Char := removeUpTo (chars p) s.length s

/-- `s.replace(c, new)` for one character. -/
def replaceChar (c : Char) (new : String) (s : List Char) : List Char :=
  s.flatMap fun d => if d = c then chars new else [d]

/-- `s < t`. -/
def before (s t : String) : Bool := decide (chars s < chars t)

/-- `s.startswith(p)`. -/
def startsWith (s p : String) : Bool := (after? (chars p) (chars s)).isSome

/-- `re.fullmatch(lead + "[class]{lo,hi}", s)`. -/
def fullmatch (lead : String) (cls : Char → Bool) (lo hi : Nat) (s : String) : Bool :=
  match after? (chars lead) (chars s) with
  | some rest => decide (lo ≤ rest.length) && decide (rest.length ≤ hi) && rest.all cls
  | none => false

/-- `[A-Za-z0-9._:-]`. -/
def isTokenChar (c : Char) : Bool :=
  c.isAlphanum || c == '.' || c == '_' || c == ':' || c == '-'

/-- `[0-9a-f]`. -/
def isLowerHex (c : Char) : Bool := c.isDigit || (decide ('a' ≤ c) && decide (c ≤ 'f'))

/-- `sorted(set(l))`. -/
def sortedSet (l : List String) : List String := l.dedup.insertionSort (· ≤ ·)

@[simp] theorem mem_sortedSet {l : List String} {s : String} : s ∈ sortedSet l ↔ s ∈ l := by
  simp only [sortedSet, List.mem_insertionSort, List.mem_dedup]

theorem sortedSet_eq_nil {l : List String} : sortedSet l = [] ↔ l = [] := by
  simp only [List.eq_nil_iff_forall_not_mem, mem_sortedSet]

theorem after?_eq_some {p s r : List Char} : after? p s = some r ↔ s = p ++ r := by
  induction p generalizing s with
  | nil => simp [after?, eq_comm]
  | cons a p ih =>
    cases s with
    | nil => simp [after?]
    | cons c s =>
      by_cases h : a = c
      · simp [after?, h, ih]
      · simp [after?, h, Ne.symm h]

@[simp] theorem before_iff {s t : String} : before s t = true ↔ s < t := by
  rw [before, decide_eq_true_eq, chars_eq, chars_eq, String.lt_iff_toList_lt]

theorem removeUpTo_of_not_mem {c : Char} {p s : List Char} (h : c ∉ s) (n : Nat) :
    removeUpTo (c :: p) n s = s := by
  induction s generalizing n with
  | nil => cases n <;> rfl
  | cons d s ih =>
    cases n with
    | zero => rfl
    | succ n =>
      have hd : c ≠ d := fun e => h (e ▸ List.mem_cons_self ..)
      simp only [removeUpTo, after?, if_neg hd, ih (fun hs => h (List.mem_cons_of_mem _ hs))]

theorem replaceChar_of_not_mem {c : Char} {s : List Char} (h : c ∉ s) (new : String) :
    replaceChar c new s = s := by
  induction s with
  | nil => rfl
  | cons d s ih =>
    have hd : d ≠ c := fun e => h (e ▸ List.mem_cons_self ..)
    have hs := ih fun hs => h (List.mem_cons_of_mem _ hs)
    rw [replaceChar, List.flatMap_cons, if_neg hd]
    exact congrArg (d :: ·) hs

theorem stripOf_of_none {cls : Char → Bool} {s : List Char} (h : ∀ c ∈ s, cls c = false) :
    stripOf cls s = s := by
  have hdrop : ∀ l : List Char, (∀ c ∈ l, cls c = false) → l.dropWhile cls = l := by
    intro l hl
    cases l with
    | nil => rfl
    | cons c l => rw [List.dropWhile_cons_of_neg (by simp [hl c (List.mem_cons_self ..)])]
  rw [stripOf, hdrop s h, hdrop _ fun c hc => h c (List.mem_reverse.mp hc), List.reverse_reverse]

theorem startsWith_iff {s p : String} : startsWith s p = true ↔ p.toList <+: s.toList := by
  simp only [startsWith, chars_eq, Option.isSome_iff_exists, after?_eq_some]
  exact ⟨fun ⟨r, h⟩ => ⟨r, h.symm⟩, fun ⟨r, h⟩ => ⟨r, h.symm⟩⟩

theorem startsWith_append (p r : String) : startsWith (p ++ r) p = true := by
  rw [startsWith_iff, String.toList_append]
  exact List.prefix_append _ _

/-! ## Zero-padded decimals -/

/-- `f"{n:0{w}d}"`. -/
def zfill (w n : Nat) : List Char :=
  List.replicate (w - (Nat.toDigits 10 n).length) '0' ++ Nat.toDigits 10 n

/-- The next `w` characters, when they are decimal digits, as a number. -/
def num (w : Nat) (s : List Char) : Option (Nat × List Char) :=
  if (s.take w).length = w ∧ (s.take w).all Char.isDigit then
    some (Nat.ofDigitChars 10 (s.take w) 0, s.drop w)
  else none

theorem ofDigitChars_zfill (w n : Nat) : Nat.ofDigitChars 10 (zfill w n) 0 = n := by
  rw [zfill, Nat.ofDigitChars_append, Nat.ofDigitChars_replicate_zero, Nat.mul_zero,
    Nat.ofDigitChars_ten_toDigits]

theorem toDigits_head {n : Nat} (hn : 0 < n) : (Nat.toDigits 10 n).head? ≠ some '0' := by
  induction n using Nat.strong_induction_on with
  | _ n ih =>
    by_cases h : n < 10
    · rw [Nat.toDigits_of_lt_base h]
      exact (by decide : ∀ m < 10, 0 < m → [m.digitChar].head? ≠ some '0') n h hn
    · have hd := ih (n / 10) (by omega) (by omega)
      rw [Nat.toDigits_of_base_le (by decide) (by omega), List.head?_append]
      cases e : (Nat.toDigits 10 (n / 10)).head? with
      | none => exact absurd (List.head?_eq_none_iff.mp e) Nat.toDigits_ne_nil
      | some c => rw [e] at hd; exact hd

theorem length_toDigits_le {w n : Nat} (hw : 0 < w) (h : n < 10 ^ w) :
    (Nat.toDigits 10 n).length ≤ w :=
  (Nat.length_toDigits_le_iff (by decide) hw).mpr h

theorem length_zfill {w n : Nat} (hw : 0 < w) (h : n < 10 ^ w) : (zfill w n).length = w := by
  have := length_toDigits_le hw h
  simp only [zfill, List.length_append, List.length_replicate]
  omega

theorem isDigit_of_mem_zfill {w n : Nat} {c : Char} (h : c ∈ zfill w n) : c.isDigit = true := by
  rcases List.mem_append.mp h with h | h
  · rw [List.eq_of_mem_replicate h]; decide
  · exact Nat.isDigit_of_mem_toDigits (by decide) (by decide) h

theorem zfill_injective {w m n : Nat} (h : zfill w m = zfill w n) : m = n := by
  rw [← ofDigitChars_zfill w m, h, ofDigitChars_zfill]

theorem ofDigitChars_lt_of_lt {l m : List Char} (hlen : l.length = m.length)
    (hl : ∀ c ∈ l, c.isDigit = true) {a b : Nat} (h : a < b) :
    Nat.ofDigitChars 10 l a < Nat.ofDigitChars 10 m b := by
  induction l generalizing m a b with
  | nil =>
    rw [List.length_eq_zero_iff.mp hlen.symm]
    exact h
  | cons c l ih =>
    cases m with
    | nil => cases hlen
    | cons d m =>
      have hc : c.toNat - 48 ≤ 9 := by
        have := hl c (List.mem_cons_self ..)
        simp [Char.isDigit, UInt32.le_iff_toNat_le] at this
        have e : c.toNat = c.val.toNat := rfl
        omega
      rw [Nat.ofDigitChars_cons, Nat.ofDigitChars_cons]
      refine ih (Nat.succ.inj hlen) (fun x hx => hl x (List.mem_cons_of_mem _ hx)) ?_
      have e0 : '0'.toNat = 48 := rfl
      omega

/-- Digit strings of one length are in the order of their values. -/
theorem ofDigitChars_lt {l m : List Char} (hlen : l.length = m.length) (hl : ∀ c ∈ l, c.isDigit = true)
    (h : l < m) (a : Nat) :
    Nat.ofDigitChars 10 l a < Nat.ofDigitChars 10 m a := by
  induction l generalizing m a with
  | nil =>
    rw [List.length_eq_zero_iff.mp hlen.symm] at h
    exact absurd h (lt_irrefl _)
  | cons c l ih =>
    cases m with
    | nil => cases hlen
    | cons d m =>
      have hl' : ∀ x ∈ l, x.isDigit = true := fun x hx => hl x (List.mem_cons_of_mem _ hx)
      rw [Nat.ofDigitChars_cons, Nat.ofDigitChars_cons]
      rcases List.cons_lt_cons_iff.mp h with hcd | ⟨rfl, hlm⟩
      · refine ofDigitChars_lt_of_lt (Nat.succ.inj hlen) hl' ?_
        have hc := hl c (List.mem_cons_self ..)
        have hd : c.toNat < d.toNat := hcd
        simp [Char.isDigit, UInt32.le_iff_toNat_le] at hc
        have e : c.toNat = c.val.toNat := rfl
        have e0 : '0'.toNat = 48 := rfl
        omega
      · exact ih (Nat.succ.inj hlen) hl' hlm _

theorem append_lt_append {l m : List Char} (hlen : l.length = m.length) (h : l < m) (s t : List Char) :
    l ++ s < m ++ t := by
  induction l generalizing m with
  | nil =>
    rw [List.length_eq_zero_iff.mp hlen.symm] at h
    exact absurd h (lt_irrefl _)
  | cons c l ih =>
    cases m with
    | nil => cases hlen
    | cons d m =>
      rw [List.cons_append, List.cons_append, List.cons_lt_cons_iff]
      exact (List.cons_lt_cons_iff.mp h).imp_right fun ⟨e, hlm⟩ => ⟨e, ih (Nat.succ.inj hlen) hlm⟩

theorem zfill_lt_zfill {w m n : Nat} (hw : 0 < w) (hn : n < 10 ^ w) (h : m < n) : zfill w m < zfill w n := by
  have hlen : (zfill w n).length = (zfill w m).length := by
    rw [length_zfill hw hn, length_zfill hw (h.trans hn)]
  rcases lt_trichotomy (zfill w m) (zfill w n) with hlt | heq | hgt
  · exact hlt
  · exact absurd (zfill_injective heq) (Nat.ne_of_lt h)
  · have := ofDigitChars_lt hlen (fun c => isDigit_of_mem_zfill) hgt 0
    rw [ofDigitChars_zfill, ofDigitChars_zfill] at this
    omega

theorem zfill_append_lt {w m n : Nat} (hw : 0 < w) (hn : n < 10 ^ w) {s t : List Char}
    (h : m < n ∨ m = n ∧ s < t) : zfill w m ++ s < zfill w n ++ t := by
  rcases h with h | ⟨rfl, h⟩
  · refine append_lt_append ?_ (zfill_lt_zfill hw hn h) s t
    rw [length_zfill hw hn, length_zfill hw (h.trans hn)]
  · exact List.append_left_lt h

/-- A number of at most `w` digits, padded to `w`, reads back. -/
theorem num_zfill {w n : Nat} (hw : 0 < w) (h : n < 10 ^ w) (rest : List Char) :
    num w (zfill w n ++ rest) = some (n, rest) := by
  have hl := length_zfill hw h
  have ht : (zfill w n ++ rest).take w = zfill w n := by
    rw [List.take_append_of_le_length (by omega), List.take_of_length_le (by omega)]
  have hd : (zfill w n ++ rest).drop w = rest := by
    rw [List.drop_append_of_le_length (by omega), List.drop_of_length_le (by omega), List.nil_append]
  rw [num, ht, hd, if_pos ⟨hl, List.all_eq_true.mpr fun c hc => isDigit_of_mem_zfill hc⟩,
    ofDigitChars_zfill]

end ATB.Text
