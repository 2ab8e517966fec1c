import AutomatedTradingBot.Framework.Text

/-!
# UUIDs

A UUID is its 128-bit integer. `hex` is its 32 lower-case digits, `str` the
hyphenated form, and `ofString?` the constructor `UUID(text)`.

* `hex_injective`: the digits determine the UUID;
* `ofString?_str`: the hyphenated form reads back.
-/

namespace ATB

/-- `uuid.UUID`. -/
structure Uuid where
  int : Fin (2 ^ 128)
deriving DecidableEq

namespace Uuid

/-- `UUID(int=n)`, for `n` below `2 ^ 128`. -/
def ofInt (n : Nat) : Uuid := ⟨Fin.ofNat _ n⟩

/-- The last `w` hexadecimal digits of `n`, most significant first. -/
def hexChars : Nat → Nat → List Char
  | 0, _ => []
  | w + 1, n => hexChars w (n / 16) ++ [Nat.digitChar (n % 16)]

/-- `u.hex`. -/
def hex (u : Uuid) : String := String.ofList (hexChars 32 u.int)

/-- `str(u)`: groups of 8, 4, 4, 4 and 12 digits. -/
def str (u : Uuid) : String :=
  let h := hexChars 32 u.int
  String.ofList (h.take 8 ++ '-' :: ((h.drop 8).take 4 ++ '-' :: ((h.drop 12).take 4 ++
    '-' :: ((h.drop 16).take 4 ++ '-' :: h.drop 20))))

/-- `u.version`, for the RFC variant. -/
def version (u : Uuid) : Option Nat :=
  if u.int.val / 2 ^ 62 % 4 = 2 then some (u.int.val / 2 ^ 76 % 16) else none

/-- The value of a hexadecimal digit. -/
def hexValue (c : Char) : Option Nat :=
  if c.isDigit then some (c.toNat - 48)
  else if 'a' ≤ c ∧ c ≤ 'f' then some (c.toNat - 87)
  else if 'A' ≤ c ∧ c ≤ 'F' then some (c.toNat - 55)
  else none

/-- `int(s, 16)` of a string of hexadecimal digits. -/
def unhex (s : List Char) : Option Nat :=
  s.foldlM (fun a c => (hexValue c).map fun d => a * 16 + d) 0

def isBrace (c : Char) : Bool := c == '{' || c == '}'

/-- `UUID(text)`: URN leads, outer braces and hyphens dropped, 32 digits left. -/
def ofString? (text : String) : Option Uuid :=
  let s := Text.remove "uuid:" (Text.remove "urn:" (Text.chars text))
  let s := (Text.stripOf isBrace s).filter (· != '-')
  if s.length = 32 then
    match unhex s with
    | some n => if h : n < 2 ^ 128 then some ⟨⟨n, h⟩⟩ else none
    | none => none
  else none

theorem length_hexChars (w n : Nat) : (hexChars w n).length = w := by
  induction w generalizing n with
  | zero => rfl
  | succ w ih => simp [hexChars, ih]

theorem hexValue_digitChar {d : Nat} (h : d < 16) : hexValue (Nat.digitChar d) = some d :=
  (by decide : ∀ d < 16, hexValue (Nat.digitChar d) = some d) d h

theorem unhex_append (s t : List Char) :
    unhex (s ++ t) = (unhex s).bind fun a =>
      t.foldlM (fun a c => (hexValue c).map fun d => a * 16 + d) a := by
  simp only [unhex, List.foldlM_append]
  rfl

theorem unhex_hexChars (w n : Nat) : unhex (hexChars w n) = some (n % 16 ^ w) := by
  induction w generalizing n with
  | zero => simp [hexChars, unhex, Nat.mod_one]
  | succ w ih =>
    rw [hexChars, unhex_append, ih]
    have e : n / 16 % 16 ^ w * 16 + n % 16 = n % 16 ^ (w + 1) := by
      rw [Nat.pow_succ', Nat.mod_mul]; omega
    simp [hexValue_digitChar (Nat.mod_lt n (by decide : 16 > 0)), e]

theorem isLowerHex_digitChar {d : Nat} (h : d < 16) : Text.isLowerHex (Nat.digitChar d) = true :=
  (by decide : ∀ d < 16, Text.isLowerHex (Nat.digitChar d) = true) d h

theorem isLowerHex_of_mem_hexChars {w n : Nat} {c : Char} (h : c ∈ hexChars w n) :
    Text.isLowerHex c = true := by
  induction w generalizing n with
  | zero => cases h
  | succ w ih =>
    rcases List.mem_append.mp h with h | h
    · exact ih h
    · rw [List.mem_singleton.mp h]
      exact isLowerHex_digitChar (Nat.mod_lt n (by decide))

/-- The digits determine the UUID. -/
theorem hex_injective : Function.Injective hex := by
  intro u v h
  have h' : hexChars 32 u.int = hexChars 32 v.int := String.ofList_injective h
  have e := (unhex_hexChars 32 u.int).symm.trans ((congrArg unhex h').trans (unhex_hexChars 32 v.int))
  have hu := u.int.isLt
  have hv := v.int.isLt
  have e' : u.int.val = v.int.val := by
    rw [Nat.mod_eq_of_lt (by omega), Nat.mod_eq_of_lt (by omega)] at e
    exact Option.some.inj e
  cases u; cases v
  exact congrArg Uuid.mk (Fin.ext e')

theorem isLowerHex_or_hyphen {u : Uuid} {c : Char} (h : c ∈ u.str.toList) :
    Text.isLowerHex c = true ∨ c = '-' := by
  have hx : ∀ c ∈ hexChars 32 u.int, Text.isLowerHex c = true := fun c hc => isLowerHex_of_mem_hexChars hc
  have ht : ∀ a b, ∀ c ∈ ((hexChars 32 u.int).drop a).take b, Text.isLowerHex c = true :=
    fun a b c hc => hx c (List.mem_of_mem_drop (List.mem_of_mem_take hc))
  simp only [str, String.toList_ofList, List.mem_append, List.mem_cons] at h
  rcases h with h | h | h | h | h | h | h | h | h
  · exact Or.inl (ht 0 8 c h)
  · exact Or.inr h
  · exact Or.inl (ht 8 4 c h)
  · exact Or.inr h
  · exact Or.inl (ht 12 4 c h)
  · exact Or.inr h
  · exact Or.inl (ht 16 4 c h)
  · exact Or.inr h
  · exact Or.inl (hx c (List.mem_of_mem_drop h))

theorem str_no_lead (u : Uuid) : Text.remove "uuid:" (Text.remove "urn:" u.str.toList) = u.str.toList := by
  have hu : 'u' ∉ u.str.toList := fun h => by
    rcases isLowerHex_or_hyphen h with h | h
    · revert h; decide
    · revert h; decide
  simp only [Text.remove, Text.chars_eq, show "urn:".toList = ['u', 'r', 'n', ':'] by decide,
    show "uuid:".toList = ['u', 'u', 'i', 'd', ':'] by decide, Text.removeUpTo_of_not_mem hu]

theorem str_no_brace (u : Uuid) : Text.stripOf isBrace u.str.toList = u.str.toList := by
  refine Text.stripOf_of_none fun c hc => ?_
  simp only [isBrace, Bool.or_eq_false_iff, beq_eq_false_iff_ne]
  rcases isLowerHex_or_hyphen hc with h | rfl
  · constructor <;> rintro rfl <;> revert h <;> decide
  · decide

theorem filter_digits {l : List Char} (h : ∀ c ∈ l, Text.isLowerHex c = true) :
    l.filter (· != '-') = l := by
  refine List.filter_eq_self.mpr fun c hc => ?_
  rw [bne_iff_ne]
  rintro rfl
  exact absurd (h '-' hc) (by decide)

theorem filter_str (u : Uuid) : u.str.toList.filter (· != '-') = hexChars 32 u.int := by
  generalize hl : hexChars 32 u.int = h
  have hh : ∀ c ∈ h, Text.isLowerHex c = true := fun c hc =>
    isLowerHex_of_mem_hexChars (hl ▸ hc)
  have ht : ∀ a b, ((h.drop a).take b).filter (· != '-') = (h.drop a).take b :=
    fun a b => filter_digits fun c hc => hh c (List.mem_of_mem_drop (List.mem_of_mem_take hc))
  have h0 : (h.take 8).filter (· != '-') = h.take 8 := ht 0 8
  have h20 : (h.drop 20).filter (· != '-') = h.drop 20 :=
    filter_digits fun c hc => hh c (List.mem_of_mem_drop hc)
  have hdash : ('-' != '-') = false := by decide
  -- the groups, put back together
  have e16 : (h.drop 16).take 4 ++ h.drop 20 = h.drop 16 := by
    rw [show h.drop 20 = (h.drop 16).drop 4 by rw [List.drop_drop], List.take_append_drop]
  have e12 : (h.drop 12).take 4 ++ h.drop 16 = h.drop 12 := by
    rw [show h.drop 16 = (h.drop 12).drop 4 by rw [List.drop_drop], List.take_append_drop]
  have e8 : (h.drop 8).take 4 ++ h.drop 12 = h.drop 8 := by
    rw [show h.drop 12 = (h.drop 8).drop 4 by rw [List.drop_drop], List.take_append_drop]
  simp only [str, hl, String.toList_ofList, List.filter_append, List.filter_cons, hdash, h0, ht, h20,
    Bool.false_eq_true, ↓reduceIte]
  rw [e16, e12, e8, List.take_append_drop]

/-- `UUID(str(u)) == u`. -/
theorem ofString?_str (u : Uuid) : ofString? u.str = some u := by
  have hb : u.int.val < 16 ^ 32 := u.int.isLt
  simp only [ofString?, Text.chars_eq, str_no_lead, str_no_brace, filter_str, length_hexChars, unhex_hexChars,
    Nat.mod_eq_of_lt hb, ↓reduceIte, u.int.isLt, ↓reduceDIte]

theorem str_injective : Function.Injective str := fun u v h => by
  have := ofString?_str u
  rw [h, ofString?_str] at this
  exact (Option.some.inj this).symm

end Uuid

end ATB
