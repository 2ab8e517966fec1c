import Mathlib.Algebra.GroupWithZero.Nat
import AutomatedTradingBot.Framework.Outcome
import AutomatedTradingBot.Framework.Text

/-!
# UTC date-times

An aware Python `datetime` at UTC offset zero: its civil fields, with the proof
that they name a real instant. Instants compare by `key`, which is
lexicographic in the fields. `isoformat` is the text that Python writes (the
fraction only when it is not zero) and `fromIsoformat?` reads the extended
format back, with the offset in minutes.

* `key_injective`: equal keys are equal instants;
* `fromIsoformat?_isoformat`: the text of an instant reads back;
* `isoformat_lt_isoformat`: the texts sort as the instants.
-/

namespace ATB

/-- The number of days of a month. -/
def daysInMonth (year month : Nat) : Nat :=
  if month = 2 then
    if year % 4 = 0 ∧ (year % 100 ≠ 0 ∨ year % 400 = 0) then 29 else 28
  else if month = 4 ∨ month = 6 ∨ month = 9 ∨ month = 11 then 30 else 31

/-- The fields of `datetime.datetime` name a real date and time. -/
def RealTime (year month day hour minute second microsecond : Nat) : Prop :=
  (1 ≤ year ∧ year ≤ 9999) ∧ (1 ≤ month ∧ month ≤ 12) ∧
    (1 ≤ day ∧ day ≤ daysInMonth year month) ∧
    hour < 24 ∧ minute < 60 ∧ second < 60 ∧ microsecond < 1000000

instance (year month day hour minute second microsecond : Nat) :
    Decidable (RealTime year month day hour minute second microsecond) :=
  inferInstanceAs (Decidable ((_ ∧ _) ∧ (_ ∧ _) ∧ (_ ∧ _) ∧ _ ∧ _ ∧ _ ∧ _))

/-- An aware `datetime` at offset zero. -/
structure Datetime where
  year : Nat
  month : Nat
  day : Nat
  hour : Nat
  minute : Nat
  second : Nat
  microsecond : Nat
  real : RealTime year month day hour minute second microsecond
deriving DecidableEq

namespace Datetime

theorem day_le (t : Datetime) : t.day ≤ 31 := by
  obtain ⟨-, -, ⟨-, h⟩, -⟩ := t.real
  unfold daysInMonth at h
  split at h
  · split at h <;> omega
  · split at h <;> omega

/-- The order of instants, as one number. -/
def key (t : Datetime) : Nat :=
  (((((t.year * 13 + t.month) * 32 + t.day) * 24 + t.hour) * 60 + t.minute) * 60 + t.second) *
    1000000 + t.microsecond

instance : LE Datetime := ⟨fun a b => a.key ≤ b.key⟩
instance : LT Datetime := ⟨fun a b => a.key < b.key⟩
instance : DecidableLE Datetime := fun a b => Nat.decLe a.key b.key
instance : DecidableLT Datetime := fun a b => Nat.decLt a.key b.key

theorem le_def {a b : Datetime} : a ≤ b ↔ a.key ≤ b.key := Iff.rfl
theorem lt_def {a b : Datetime} : a < b ↔ a.key < b.key := Iff.rfl
theorem not_lt {a b : Datetime} : ¬ a < b ↔ b ≤ a := Nat.not_lt
theorem not_le {a b : Datetime} : ¬ a ≤ b ↔ b < a := Nat.not_le
theorem le_refl (a : Datetime) : a ≤ a := Nat.le_refl a.key
theorem le_trans {a b c : Datetime} (h : a ≤ b) (h' : b ≤ c) : a ≤ c := Nat.le_trans h h'

/-- Instants with the same key are the same. -/
theorem key_injective {a b : Datetime} (h : a.key = b.key) : a = b := by
  have ha := a.day_le
  have hb := b.day_le
  obtain ⟨-, ⟨-, hm⟩, -, hh, hi, hs, hu⟩ := a.real
  obtain ⟨-, ⟨-, hm'⟩, -, hh', hi', hs', hu'⟩ := b.real
  unfold key at h
  obtain ⟨y, m, d, hr, mi, s, us, _⟩ := a
  obtain ⟨y', m', d', hr', mi', s', us', _⟩ := b
  simp only at *
  obtain ⟨rfl, rfl, rfl, rfl, rfl, rfl, rfl⟩ :
      y = y' ∧ m = m' ∧ d = d' ∧ hr = hr' ∧ mi = mi' ∧ s = s' ∧ us = us' := by omega
  rfl

/-! ## Text -/

/-- `t.isoformat()`. -/
def isoformat (t : Datetime) : String :=
  String.ofList (Text.zfill 4 t.year ++ '-' :: (Text.zfill 2 t.month ++ '-' :: (Text.zfill 2 t.day ++
    'T' :: (Text.zfill 2 t.hour ++ ':' :: (Text.zfill 2 t.minute ++ ':' :: (Text.zfill 2 t.second ++
      ((if t.microsecond = 0 then [] else '.' :: Text.zfill 6 t.microsecond) ++ "+00:00".toList)))))))

/-- One literal character. -/
def lit (c : Char) : List Char → Option (List Char)
  | d :: s => if d = c then some s else none
  | [] => none

/-- A fraction of a second: `.` and digits, of which six count. -/
def fraction : List Char → Option (Nat × List Char)
  | '.' :: s =>
    let ds := s.takeWhile Char.isDigit
    if ds = [] then none
    else some (Nat.ofDigitChars 10 ((ds ++ List.replicate (6 - ds.length) '0').take 6) 0, s.dropWhile Char.isDigit)
  | s => some (0, s)

/-- A UTC offset `+HH:MM` or `-HH:MM`, in minutes; nothing for a naive time. -/
def offset : List Char → Option (Option Int)
  | [] => some none
  | sign :: s =>
    if sign = '+' ∨ sign = '-' then do
      let (h, s) ← Text.num 2 s
      let s ← lit ':' s
      let (m, s) ← Text.num 2 s
      if s = [] ∧ h < 24 ∧ m < 60 then
        some (some (if sign = '-' then -(60 * h + m : Int) else 60 * h + m))
      else none
    else none

/-- `datetime.fromisoformat(text)` on the extended format, with the offset. -/
def fromIsoformat? (text : String) : Option (Datetime × Option Int) := do
  let (year, s) ← Text.num 4 (Text.chars text)
  let s ← lit '-' s
  let (month, s) ← Text.num 2 s
  let s ← lit '-' s
  let (day, s) ← Text.num 2 s
  let s ← lit 'T' s
  let (hour, s) ← Text.num 2 s
  let s ← lit ':' s
  let (minute, s) ← Text.num 2 s
  let s ← lit ':' s
  let (second, s) ← Text.num 2 s
  let (microsecond, s) ← fraction s
  let off ← offset s
  if h : RealTime year month day hour minute second microsecond then
    some (⟨year, month, day, hour, minute, second, microsecond, h⟩, off)
  else none

@[simp] theorem lit_cons (c : Char) (s : List Char) : lit c (c :: s) = some s := if_pos rfl

/-- Six digits before an offset are the microseconds. -/
theorem fraction_zfill {us : Nat} (h : us < 1000000) :
    fraction ('.' :: (Text.zfill 6 us ++ "+00:00".toList)) = some (us, "+00:00".toList) := by
  have hl : (Text.zfill 6 us).length = 6 := Text.length_zfill (by decide) (by omega)
  have hd : ∀ c ∈ Text.zfill 6 us, Char.isDigit c = true := fun c => Text.isDigit_of_mem_zfill
  have e : "+00:00".toList = '+' :: "00:00".toList := by decide
  have ht : (Text.zfill 6 us ++ "+00:00".toList).takeWhile Char.isDigit = Text.zfill 6 us := by
    rw [List.takeWhile_append_of_pos hd, e, List.takeWhile_cons_of_neg (by decide), List.append_nil]
  have hw : (Text.zfill 6 us ++ "+00:00".toList).dropWhile Char.isDigit = "+00:00".toList := by
    rw [List.dropWhile_append_of_pos hd, e, List.dropWhile_cons_of_neg (by decide)]
  have hne : Text.zfill 6 us ≠ [] := fun e => by rw [e] at hl; cases hl
  simp only [fraction, ht, hw, if_neg hne, hl]
  rw [show List.replicate (6 - 6) '0' = [] by rfl, List.append_nil, List.take_of_length_le (by omega),
    Text.ofDigitChars_zfill]

theorem fraction_isoformat {us : Nat} (h : us < 1000000) :
    fraction ((if us = 0 then [] else '.' :: Text.zfill 6 us) ++ "+00:00".toList) =
      some (us, "+00:00".toList) := by
  by_cases h0 : us = 0
  · subst h0; rfl
  · rw [if_neg h0]
    exact fraction_zfill h

theorem offset_zero : offset "+00:00".toList = some (some 0) := by decide

/-- The fields of an instant read back, with any text of its microseconds. -/
theorem fromIsoformat?_of_fraction (t : Datetime) {s : List Char}
    (h : fraction s = some (t.microsecond, "+00:00".toList)) :
    fromIsoformat? (String.ofList (Text.zfill 4 t.year ++ '-' :: (Text.zfill 2 t.month ++ '-' :: (Text.zfill 2 t.day ++
      'T' :: (Text.zfill 2 t.hour ++ ':' :: (Text.zfill 2 t.minute ++ ':' :: (Text.zfill 2 t.second ++ s))))))) =
      some (t, some 0) := by
  have hday := t.day_le
  have hr := t.real
  obtain ⟨⟨-, hy⟩, ⟨-, hm⟩, -, hh, hi, hs, -⟩ := hr
  have n4 := fun rest => Text.num_zfill (w := 4) (by decide) (show t.year < 10 ^ 4 by omega) rest
  have n2 := fun {n} (h : n < 100) rest => Text.num_zfill (w := 2) (n := n) (by decide) (by omega) rest
  unfold fromIsoformat?
  rw [Text.chars_eq, String.toList_ofList]
  refine (bind_of_eq_some (n4 _) _).trans ?_
  refine (bind_of_eq_some (lit_cons _ _) _).trans ?_
  refine (bind_of_eq_some (n2 (by omega) _) _).trans ?_
  refine (bind_of_eq_some (lit_cons _ _) _).trans ?_
  refine (bind_of_eq_some (n2 (by omega) _) _).trans ?_
  refine (bind_of_eq_some (lit_cons _ _) _).trans ?_
  refine (bind_of_eq_some (n2 (by omega) _) _).trans ?_
  refine (bind_of_eq_some (lit_cons _ _) _).trans ?_
  refine (bind_of_eq_some (n2 (by omega) _) _).trans ?_
  refine (bind_of_eq_some (lit_cons _ _) _).trans ?_
  refine (bind_of_eq_some (n2 (by omega) _) _).trans ?_
  refine (bind_of_eq_some h _).trans ?_
  refine (bind_of_eq_some offset_zero _).trans ?_
  exact dif_pos t.real

/-- `datetime.fromisoformat(t.isoformat()) == t`, at offset zero. -/
theorem fromIsoformat?_isoformat (t : Datetime) : fromIsoformat? t.isoformat = some (t, some 0) :=
  fromIsoformat?_of_fraction t (fraction_isoformat t.real.2.2.2.2.2.2)

theorem mem_isoformat {t : Datetime} {c : Char} (h : c ∈ t.isoformat.toList) :
    c.isDigit = true ∨ c ∈ ['-', 'T', ':', '.', '+'] := by
  have hz : ∀ {w n}, c ∈ Text.zfill w n → c.isDigit = true ∨ c ∈ ['-', 'T', ':', '.', '+'] :=
    fun h => Or.inl (Text.isDigit_of_mem_zfill h)
  have ho : ∀ d ∈ "+00:00".toList, d.isDigit = true ∨ d ∈ ['-', 'T', ':', '.', '+'] := by
    intro d hd
    rw [show "+00:00".toList = ['+', '0', '0', ':', '0', '0'] by decide] at hd
    simp only [List.mem_cons, List.not_mem_nil, or_false] at hd
    rcases hd with rfl | rfl | rfl | rfl | rfl | rfl <;> decide
  rw [isoformat, String.toList_ofList] at h
  simp only [List.mem_append, List.mem_cons] at h
  rcases h with h | rfl | h | rfl | h | rfl | h | rfl | h | rfl | h | h | h
  · exact hz h
  · exact Or.inr (by decide)
  · exact hz h
  · exact Or.inr (by decide)
  · exact hz h
  · exact Or.inr (by decide)
  · exact hz h
  · exact Or.inr (by decide)
  · exact hz h
  · exact Or.inr (by decide)
  · exact hz h
  · split at h
    · cases h
    · rcases List.mem_cons.mp h with rfl | h
      · exact Or.inr (by decide)
      · exact hz h
  · exact ho c h

theorem isoformat_injective : Function.Injective isoformat := fun a b h => by
  have := fromIsoformat?_isoformat a
  rw [h, fromIsoformat?_isoformat] at this
  exact (congrArg Prod.fst (Option.some.inj this)).symm

/-- Later in the first field that differs. -/
theorem lex_of_lt {a b : Datetime} (h : a < b) :
    a.year < b.year ∨ a.year = b.year ∧ (a.month < b.month ∨ a.month = b.month ∧ (a.day < b.day ∨
      a.day = b.day ∧ (a.hour < b.hour ∨ a.hour = b.hour ∧ (a.minute < b.minute ∨ a.minute = b.minute ∧
        (a.second < b.second ∨ a.second = b.second ∧ a.microsecond < b.microsecond))))) := by
  have ha := a.day_le
  have hb := b.day_le
  obtain ⟨-, ⟨-, hm⟩, -, hh, hi, hs, hu⟩ := a.real
  obtain ⟨-, ⟨-, hm'⟩, -, hh', hi', hs', hu'⟩ := b.real
  rw [lt_def, key, key] at h
  rcases Nat.lt_trichotomy a.year b.year with hy | hy | hy
  · exact Or.inl hy
  · refine Or.inr ⟨hy, ?_⟩
    rw [hy] at h
    omega
  · omega

theorem fraction_lt {m n : Nat} (hn : n < 1000000) (h : m < n) :
    (if m = 0 then [] else '.' :: Text.zfill 6 m) ++ "+00:00".toList <
      (if n = 0 then [] else '.' :: Text.zfill 6 n) ++ "+00:00".toList := by
  rw [if_neg (show n ≠ 0 by omega)]
  by_cases hm : m = 0
  · rw [if_pos hm, List.nil_append, show "+00:00".toList = '+' :: "00:00".toList by decide]
    exact List.cons_lt_cons_iff.mpr (Or.inl (by decide))
  · rw [if_neg hm]
    exact List.cons_lt_cons_iff.mpr (Or.inr ⟨rfl, Text.zfill_append_lt (by decide) (by omega) (Or.inl h)⟩)

theorem zfill_cons_lt {w m n : Nat} (hw : 0 < w) (hn : n < 10 ^ w) {c : Char} {s t : List Char}
    (h : m < n ∨ m = n ∧ s < t) : Text.zfill w m ++ c :: s < Text.zfill w n ++ c :: t := by
  refine Text.zfill_append_lt hw hn ?_
  rcases h with h | ⟨e, h⟩
  · exact Or.inl h
  · exact Or.inr ⟨e, List.cons_lt_cons_iff.mpr (Or.inr ⟨rfl, h⟩)⟩

theorem isoformat_lt_of_lt {a b : Datetime} (h : a < b) : a.isoformat < b.isoformat := by
  have hday := b.day_le
  have h4 : ∀ {n}, n ≤ 9999 → n < 10 ^ 4 := by intro n h; omega
  have h2 : ∀ {n}, n < 100 → n < 10 ^ 2 := by intro n h; omega
  obtain ⟨⟨-, hy⟩, ⟨-, hm⟩, -, hh, hi, hs, hu⟩ := b.real
  have h := lex_of_lt h
  rw [String.lt_iff_toList_lt]
  unfold isoformat
  simp only [String.toList_ofList]
  refine zfill_cons_lt (Nat.succ_pos 3) (h4 hy) (h.imp_right fun h => ⟨h.1, ?_⟩)
  refine zfill_cons_lt (Nat.succ_pos 1) (h2 (by omega)) (h.2.imp_right fun h => ⟨h.1, ?_⟩)
  refine zfill_cons_lt (Nat.succ_pos 1) (h2 (by omega)) (h.2.imp_right fun h => ⟨h.1, ?_⟩)
  refine zfill_cons_lt (Nat.succ_pos 1) (h2 (by omega)) (h.2.imp_right fun h => ⟨h.1, ?_⟩)
  refine zfill_cons_lt (Nat.succ_pos 1) (h2 (by omega)) (h.2.imp_right fun h => ⟨h.1, ?_⟩)
  exact Text.zfill_append_lt (Nat.succ_pos 1) (h2 (by omega)) (h.2.imp_right fun h => ⟨h.1, fraction_lt hu h.2⟩)

/-- The texts of instants sort as the instants, with a fraction or without one. -/
theorem isoformat_lt_isoformat {a b : Datetime} : a.isoformat < b.isoformat ↔ a < b := by
  refine ⟨fun h => ?_, isoformat_lt_of_lt⟩
  rcases Nat.lt_trichotomy a.key b.key with hk | hk | hk
  · exact hk
  · rw [key_injective hk] at h
    exact absurd h (lt_irrefl _)
  · exact absurd h (lt_asymm (isoformat_lt_of_lt hk))

/-! ## Durations -/

/-- `t.toordinal()`: the day of the proleptic Gregorian calendar, from 1. -/
def toordinal (t : Datetime) : Nat :=
  let y := t.year - 1
  y * 365 + y / 4 - y / 100 + y / 400 + ((List.range (t.month - 1)).map fun m => daysInMonth t.year (m + 1)).sum + t.day

/-- The microseconds from the start of the calendar: `a - b` is the difference of these. -/
def microseconds (t : Datetime) : Int :=
  (((t.toordinal * 24 + t.hour) * 60 + t.minute) * 60 + t.second) * 1000000 + t.microsecond

end Datetime

end ATB
