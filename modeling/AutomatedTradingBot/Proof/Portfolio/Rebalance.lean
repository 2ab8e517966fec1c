import AutomatedTradingBot.Framework.Refusal
import AutomatedTradingBot.Proof.Portfolio.Reservations
import AutomatedTradingBot.Proof.Resolution.Calendar
import AutomatedTradingBot.Source.Rebalance

/-!
# The sessions of a monthly rebalance

What an accepted call of `schedule_monthly_rebalance` says of the civil dates between
its two sessions.

* `toordinal_after`: the day after has the next ordinal;
* `toordinal_le`: dates compare as their ordinals;
* `mem_expectedDates`, `nodup_expectedDates`: the expected dates are those from the first
  session to the next, each once;
* `month_end_schedule`: the final session is the last of its month, and the release is at
  the opening of the next established session.
-/

namespace ATB.Proof.Rebalance

open ATB.Instruments ATB.Calendars ATB.Rebalance

/-! ## Ordinals -/

theorem ofFields?_eq_some {year month day : Nat} {d : LocalDate} (h : LocalDate.ofFields? year month day = some d) :
    d.year = year ∧ d.month = month ∧ d.day = day := by
  simp only [LocalDate.ofFields?, Option.dite_none_right_eq_some, Option.some.injEq] at h
  obtain ⟨_, rfl⟩ := h
  exact ⟨rfl, rfl, rfl⟩

/-- What the day after is. -/
theorem after_cases {d e : LocalDate} (h : d.after? = some e) :
    (e.year = d.year ∧ e.month = d.month ∧ e.day = d.day + 1) ∨
    (e.year = d.year ∧ d.month < 12 ∧ e.month = d.month + 1 ∧ e.day = 1 ∧ d.day = daysInMonth d.year d.month) ∨
    (e.year = d.year + 1 ∧ d.month = 12 ∧ e.month = 1 ∧ e.day = 1 ∧ d.day = daysInMonth d.year d.month) := by
  have hr := d.real
  obtain ⟨-, ⟨-, hm⟩, ⟨-, hd⟩, -⟩ := hr
  unfold LocalDate.after? at h
  split at h
  · exact .inl (ofFields?_eq_some h)
  · split at h
    · obtain ⟨hy, hm', hd'⟩ := ofFields?_eq_some h
      exact .inr (.inl ⟨hy, ‹_›, hm', hd', by omega⟩)
    · obtain ⟨hy, hm', hd'⟩ := ofFields?_eq_some h
      exact .inr (.inr ⟨hy, by omega, hm', hd', by omega⟩)

/-- The days of the months of a year before a month. -/
def daysBefore (year month : Nat) : Nat := ((List.range (month - 1)).map fun m => daysInMonth year (m + 1)).sum

theorem daysBefore_succ {year month : Nat} (h : 1 ≤ month) :
    daysBefore year (month + 1) = daysBefore year month + daysInMonth year month := by
  obtain ⟨m, rfl⟩ := Nat.exists_eq_add_of_le' h
  simp only [daysBefore, Nat.add_sub_cancel, List.range_succ, List.map_append, List.sum_append, List.map_cons,
    List.map_nil, List.sum_cons, List.sum_nil, Nat.add_zero]

/-- The eleven months before December. -/
theorem daysBefore_december (year : Nat) : daysBefore year 12 = 306 + daysInMonth year 2 := by
  simp only [daysBefore, List.range_succ, List.range_zero, daysInMonth]
  simp
  omega

theorem toordinal_eq (d : LocalDate) : toordinal d = (d.year - 1) * 365 + (d.year - 1) / 4 - (d.year - 1) / 100 +
    (d.year - 1) / 400 + daysBefore d.year d.month + d.day := rfl

/-- A leap year is one more in the quotients. -/
theorem year_succ {y : Nat} (h : 1 ≤ y) :
    y * 365 + y / 4 - y / 100 + y / 400 + 0 + 1 =
      (y - 1) * 365 + (y - 1) / 4 - (y - 1) / 100 + (y - 1) / 400 +
        (306 + if y % 4 = 0 ∧ (y % 100 ≠ 0 ∨ y % 400 = 0) then 29 else 28) + 31 + 1 := by
  obtain ⟨x, rfl⟩ := Nat.exists_eq_add_of_le' h
  rw [Nat.add_sub_cancel]
  have h4 : (x + 1) / 4 = x / 4 + if (x + 1) % 4 = 0 then 1 else 0 := by split <;> omega
  have h100 : (x + 1) / 100 = x / 100 + if (x + 1) % 100 = 0 then 1 else 0 := by split <;> omega
  have h400 : (x + 1) / 400 = x / 400 + if (x + 1) % 400 = 0 then 1 else 0 := by split <;> omega
  have hle : x / 100 ≤ x / 4 := Nat.div_le_div_left (by decide) (by decide)
  have h100_4 : (x + 1) % 100 = 0 → (x + 1) % 4 = 0 := by omega
  have h400_100 : (x + 1) % 400 = 0 → (x + 1) % 100 = 0 := by omega
  rw [h4, h100, h400]
  generalize (x + 1) % 4 = a, (x + 1) % 100 = b, (x + 1) % 400 = c, x / 4 = p, x / 100 = q, x / 400 = r at *
  by_cases ha : a = 0 <;> by_cases hb : b = 0 <;> by_cases hc : c = 0 <;> simp [ha, hb, hc] at * <;> omega

/-- The day after has the next ordinal. -/
theorem toordinal_after {d e : LocalDate} (h : d.after? = some e) : toordinal e = toordinal d + 1 := by
  have hr := d.real
  obtain ⟨⟨hy, -⟩, ⟨hm, -⟩, -, -⟩ := hr
  rw [toordinal_eq, toordinal_eq]
  rcases after_cases h with ⟨ey, em, ed⟩ | ⟨ey, -, em, ed, hd⟩ | ⟨ey, hdec, em, ed, hd⟩
  · rw [ey, em, ed]
    rfl
  · rw [ey, em, ed, daysBefore_succ hm, hd]
    omega
  · have hfeb : daysInMonth d.year 2 = if d.year % 4 = 0 ∧ (d.year % 100 ≠ 0 ∨ d.year % 400 = 0) then 29 else 28 := rfl
    have hdecember : daysInMonth d.year 12 = 31 := rfl
    rw [ey, em, ed, hd, hdec, daysBefore_december, hdecember, hfeb, Nat.add_sub_cancel]
    have hone : daysBefore (d.year + 1) 1 = 0 := rfl
    rw [hone]
    exact year_succ hy

/-! ## The order of dates -/

theorem day_le (d : LocalDate) : d.day ≤ 31 := (midnight d).day_le

theorem key_injective {d e : LocalDate} (h : d.key = e.key) : d = e := by
  have hd := day_le d
  have he := day_le e
  obtain ⟨-, ⟨-, hm⟩, -⟩ := d.real
  obtain ⟨-, ⟨-, hm'⟩, -⟩ := e.real
  obtain ⟨y, m, n, _⟩ := d
  obtain ⟨y', m', n', _⟩ := e
  simp only [LocalDate.key] at *
  obtain ⟨rfl, rfl, rfl⟩ : y = y' ∧ m = m' ∧ n = n' := by omega
  rfl

/-- A date before another has a day after, which is not after the other. -/
theorem after_of_lt {d e : LocalDate} (h : d.key < e.key) : ∃ x, d.after? = some x ∧ d.key < x.key ∧ x.key ≤ e.key := by
  have hd := day_le d
  obtain ⟨⟨hy, hy'⟩, ⟨hm, hm'⟩, ⟨h1, hlast⟩, -⟩ := d.real
  obtain ⟨⟨hey, hey'⟩, ⟨hem, hem'⟩, ⟨he1, hlast'⟩, -⟩ := e.real
  have hed := day_le e
  have hone : ∀ y m : Nat, 1 ≤ daysInMonth y m := by
    intro y m
    unfold daysInMonth
    split_ifs <;> omega
  simp only [LocalDate.key] at *
  unfold LocalDate.after?
  split
  · have hreal : RealTime d.year d.month (d.day + 1) 0 0 0 0 :=
      ⟨⟨hy, hy'⟩, ⟨hm, hm'⟩, ⟨by omega, by omega⟩, by omega, by omega, by omega, by omega⟩
    exact ⟨_, dif_pos hreal, by simp only; omega, by simp only; omega⟩
  · rename_i hend
    -- the other date is in a later month
    have hlater : d.year < e.year ∨ d.year = e.year ∧ d.month < e.month := by
      rcases Nat.lt_trichotomy d.year e.year with hlt | heq | hgt
      · exact .inl hlt
      · rcases Nat.lt_trichotomy d.month e.month with hlt' | heq' | hgt'
        · exact .inr ⟨heq, hlt'⟩
        · rw [← heq, ← heq'] at hlast'
          omega
        · omega
      · omega
    split
    · have hreal : RealTime d.year (d.month + 1) 1 0 0 0 0 :=
        ⟨⟨hy, hy'⟩, ⟨by omega, by omega⟩, ⟨le_refl _, hone _ _⟩, by omega, by omega, by omega, by omega⟩
      exact ⟨_, dif_pos hreal, by simp only; omega, by simp only; omega⟩
    · have hreal : RealTime (d.year + 1) 1 1 0 0 0 0 :=
        ⟨⟨by omega, by omega⟩, ⟨by omega, by omega⟩, ⟨le_refl _, hone _ _⟩, by omega, by omega, by omega, by omega⟩
      exact ⟨_, dif_pos hreal, by simp only; omega, by simp only; omega⟩

theorem toordinal_plusDays {d e : LocalDate} {n : Nat} (h : plusDays d n = some e) : toordinal e = toordinal d + n := by
  induction n generalizing e with
  | zero =>
    cases h
    rfl
  | succ n ih =>
    obtain ⟨x, hx, he⟩ := Option.bind_eq_some_iff.mp h
    rw [toordinal_after he, ih hx, Nat.add_assoc]

/-- A date that is not before another is some days after it. -/
theorem exists_plusDays {d e : LocalDate} (h : d.key ≤ e.key) : ∃ n, plusDays d n = some e := by
  have hwalk : ∀ k n (x : LocalDate), plusDays d n = some x → x.key ≤ e.key → e.key - x.key = k →
      ∃ n, plusDays d n = some e := by
    intro k
    induction k using Nat.strong_induction_on with
    | _ k ih =>
      intro n x hx hle hk
      rcases Nat.eq_or_lt_of_le hle with heq | hlt
      · exact ⟨n, key_injective heq ▸ hx⟩
      · obtain ⟨y, hy, hxy, hye⟩ := after_of_lt hlt
        refine ih (e.key - y.key) (by omega) (n + 1) y ?_ hye rfl
        rw [plusDays, hx, Option.bind_some, hy]
  exact hwalk _ 0 d rfl h rfl

/-- Dates compare as their ordinals. -/
theorem toordinal_le {d e : LocalDate} : toordinal d ≤ toordinal e ↔ d.key ≤ e.key := by
  constructor
  · intro h
    by_contra hlt
    obtain ⟨n, hn⟩ := exists_plusDays (Nat.le_of_lt (Nat.not_le.mp hlt))
    have hord := toordinal_plusDays hn
    obtain rfl : n = 0 := by omega
    cases hn
    exact hlt (Nat.le_refl _)
  · intro h
    obtain ⟨n, hn⟩ := exists_plusDays h
    rw [toordinal_plusDays hn]
    exact Nat.le_add_right _ _

/-! ## The expected dates -/

theorem orRaise_injective {ε α : Type} {e : ε} : Function.Injective (orRaise e : Option α → Except ε α) := by
  rintro (- | a) (- | b) h <;> cases h <;> rfl

theorem expectedDates_eq_ok {first last : LocalDate} {dates : List LocalDate}
    (h : expectedDates first last = .ok dates) :
    (List.range ((toordinal last : Int) - toordinal first + 1).toNat).map (plusDays first) = dates.map some := by
  rw [expectedDates, mapM_eq_ok] at h
  refine List.map_injective_iff.mpr (orRaise_injective (e := (⟨.arithmeticError, "date value out of range"⟩ : PyError))) ?_
  rw [List.map_map, List.map_map]
  exact h

/-- The expected dates are those from the first to the last. -/
theorem mem_expectedDates {first last d : LocalDate} {dates : List LocalDate}
    (h : expectedDates first last = .ok dates) : d ∈ dates ↔ first.key ≤ d.key ∧ d.key ≤ last.key := by
  have hmem : d ∈ dates ↔ ∃ i, i < ((toordinal last : Int) - toordinal first + 1).toNat ∧ plusDays first i = some d := by
    rw [← List.mem_map_of_injective (Option.some_injective _), ← expectedDates_eq_ok h, List.mem_map]
    simp only [List.mem_range]
  rw [hmem, ← toordinal_le, ← toordinal_le]
  constructor
  · rintro ⟨i, hi, hd⟩
    have := toordinal_plusDays hd
    omega
  · rintro ⟨hfirst, hlast⟩
    obtain ⟨i, hi⟩ := exists_plusDays (toordinal_le.mp hfirst)
    have := toordinal_plusDays hi
    exact ⟨i, by omega, hi⟩

/-- No date is expected twice. -/
theorem nodup_expectedDates {first last : LocalDate} {dates : List LocalDate}
    (h : expectedDates first last = .ok dates) : dates.Nodup := by
  refine List.Nodup.of_map some ?_
  rw [← expectedDates_eq_ok h]
  refine List.Nodup.map_on (fun i hi j hj hij => ?_) List.nodup_range
  have hmem : plusDays first i ∈ dates.map some := by
    rw [← expectedDates_eq_ok h]
    exact List.mem_map_of_mem hi
  obtain ⟨d, -, hd⟩ := List.mem_map.mp hmem
  have hi' := toordinal_plusDays hd.symm
  have hj' := toordinal_plusDays (hij.symm.trans hd.symm)
  omega

/-! ## Accepted sessions -/

/-- A day without trading, by explicit evidence. -/
def NonTrading (item : SessionResolution) : Prop :=
  item.utcOpen = none ∧ ∃ day, item.tradingDay = some day ∧ day.dayKind ≠ .regularTradingDay

/-- An established session of a regular trading day, from its opening to its close. -/
def Established (item : SessionResolution) (opening closing : Timestamp) : Prop :=
  item.disposition = .established ∧ (∃ day, item.tradingDay = some day ∧ day.dayKind = .regularTradingDay) ∧
    item.utcOpen = some opening ∧ item.utcClose = some closing

/-- A resolution that does not open and is explained is of a day without trading. -/
theorem nonTrading {item : SessionResolution} (hday : item.tradingDay ≠ none) (hopens : ¬ item.opens = true)
    (hexplained : ¬ item.unexplained = true) : NonTrading item := by
  obtain ⟨day, hday⟩ := Option.ne_none_iff_exists'.mp hday
  have hnone : item.utcOpen = none := by simpa [SessionResolution.opens] using hopens
  refine ⟨hnone, day, hday, fun hkind => hexplained ?_⟩
  simp [SessionResolution.unexplained, SessionResolution.opens, hnone, hday, hkind]

/-- What the two sessions are checked for. -/
theorem established_of_eligible {item : SessionResolution}
    (h : ¬ (item.eligible = false ∨ item.utcClose = none ∨ item.utcOpen = none)) :
    ∃ opening closing, Established item opening closing := by
  obtain ⟨heligible, hclose, hopen⟩ := not_or.mp h |>.imp_right not_or.mp
  obtain ⟨closing, hclose⟩ := Option.ne_none_iff_exists'.mp hclose
  obtain ⟨opening, hopen⟩ := Option.ne_none_iff_exists'.mp hopen
  simp only [SessionResolution.eligible, Bool.not_eq_false, Bool.and_eq_true, decide_eq_true_eq,
    Option.any_eq_true] at heligible
  exact ⟨opening, closing, heligible.1, heligible.2, hopen, hclose⟩

section Sessions

variable {env : Environment} {calendar : RebalanceCalendar} {sequence resolved : List SessionResolution}
  {decisionTime : Timestamp}

theorem localDate_resolveInput {input : CalendarInput} {item : SessionResolution} (h : resolveInput env input = .ok item) :
    item.localDate = input.1.localDate := by
  obtain ⟨_, -, rfl⟩ := map_eq_ok.mp h
  rfl

/-- The resolutions are of the dates from the final session to the next, each once. -/
theorem resolveDates_eq_ok (h : resolveDates env calendar decisionTime = .ok resolved) :
    calendar.calendarInputs.mapM (resolveInput env) = .ok resolved ∧
    (resolved.map fun item => item.localDate).Nodup ∧
    ∀ d, d ∈ (resolved.map fun item => item.localDate) ↔
      calendar.finalSession.localDate.key ≤ d.key ∧ d.key ≤ calendar.nextSession.localDate.key := by
  unfold resolveDates at h
  obtain ⟨-, h⟩ := raiseIf_bind_eq_ok.mp h
  obtain ⟨dates, hexpected, h⟩ := bind_eq_ok.mp h
  obtain ⟨hdates, h⟩ := raiseIf_bind_eq_ok.mp h
  obtain ⟨all, hresolved, h⟩ := bind_eq_ok.mp h
  obtain ⟨-, h⟩ := raiseIf_bind_eq_ok.mp h
  cases h
  have hmap : (resolved.map fun item => item.localDate) = dates := by
    rw [← not_not.mp (not_or.mp hdates).1]
    exact map_of_mapM_eq_ok (fun _ _ => localDate_resolveInput) hresolved
  rw [hmap]
  exact ⟨hresolved, nodup_expectedDates hexpected, fun d => mem_expectedDates hexpected⟩

/-- Every resolution is of one of the two sessions or of a day without trading. -/
theorem checkResolved_eq_ok {u : Unit} (h : checkResolved calendar sequence resolved = .ok u) :
    calendar.finalSession ∈ resolved ∧ calendar.nextSession ∈ resolved ∧
    (∀ item ∈ resolved, item = calendar.finalSession ∨ item = calendar.nextSession ∨ NonTrading item) ∧
    (∃ opening closing, Established calendar.finalSession opening closing) ∧
    ∃ opening closing, Established calendar.nextSession opening closing := by
  unfold checkResolved at h
  obtain ⟨hday, h⟩ := raiseIf_bind_eq_ok.mp h
  obtain ⟨hactual, h⟩ := raiseIf_bind_eq_ok.mp h
  obtain ⟨_, hexplained, h⟩ := bind_eq_ok.mp h
  have hexplained := forM_eq_ok.mp hexplained
  have hsessions := forM_eq_ok.mp h
  have hactual : resolved.filter SessionResolution.opens = [calendar.finalSession, calendar.nextSession] :=
    not_not.mp (not_or.mp hactual).2
  have hmem : ∀ item, item ∈ resolved ∧ item.opens = true ↔ item ∈ [calendar.finalSession, calendar.nextSession] :=
    fun item => by rw [← hactual, List.mem_filter]
  refine ⟨((hmem _).mpr (by simp)).1, ((hmem _).mpr (by simp)).1, fun item hitem => ?_, ?_, ?_⟩
  · by_cases hopens : item.opens = true
    · have := (hmem item).mp ⟨hitem, hopens⟩
      simp only [List.mem_cons, List.not_mem_nil, or_false] at this
      rcases this with h | h
      · exact .inl h
      · exact .inr (.inl h)
    · refine .inr (.inr (nonTrading (fun e => hday ⟨item, hitem, .inl e⟩) hopens ?_))
      exact raiseIf_eq_ok.mp (hexplained item hitem)
  · exact established_of_eligible (raiseIf_eq_ok.mp (hsessions calendar.finalSession (by simp)))
  · exact established_of_eligible (raiseIf_eq_ok.mp (hsessions calendar.nextSession (by simp)))

/-- What the calendar checks let through. -/
theorem calendarSessions_eq_ok {release : Timestamp × String × String}
    (h : calendarSessions env sequence calendar decisionTime = .ok release) :
    ∃ resolved opening closing closing', resolveDates env calendar decisionTime = .ok resolved ∧
      checkResolved calendar sequence resolved = .ok () ∧ Established calendar.finalSession opening closing ∧
      Established calendar.nextSession release.1 closing' ∧
      calendar.finalSession.localDate.month ≠ calendar.nextSession.localDate.month ∧
      calendar.finalSession.localDate.key < calendar.nextSession.localDate.key ∧
      closing.value ≤ decisionTime.value ∧ decisionTime.value < release.1.value := by
  unfold calendarSessions at h
  obtain ⟨resolved, hresolved, h⟩ := bind_eq_ok.mp h
  obtain ⟨_, hcheck, h⟩ := bind_eq_ok.mp h
  obtain ⟨finalClose, hclose, h⟩ := bind_eq_ok.mp h
  obtain ⟨nextOpen, hopen, h⟩ := bind_eq_ok.mp h
  obtain ⟨_, -, h⟩ := bind_eq_ok.mp h
  obtain ⟨hmonth, h⟩ := raiseIf_bind_eq_ok.mp h
  obtain ⟨hdecision, h⟩ := raiseIf_bind_eq_ok.mp h
  obtain ⟨hrelease, h⟩ := raiseIf_bind_eq_ok.mp h
  cases h
  obtain ⟨-, -, -, ⟨opening, closing, hfinal⟩, ⟨opening', closing', hnext⟩⟩ := checkResolved_eq_ok hcheck
  obtain rfl : closing = finalClose := Option.some.inj (hfinal.2.2.2.symm.trans (orRaise_eq_ok.mp hclose))
  obtain rfl : opening' = nextOpen := Option.some.inj (hnext.2.2.1.symm.trans (orRaise_eq_ok.mp hopen))
  exact ⟨resolved, opening, closing, closing', hresolved, hcheck, hfinal, hnext, hmonth,
    Nat.not_le.mp (not_or.mp hrelease).1, Datetime.not_lt.mp hdecision, Datetime.not_le.mp (not_or.mp hrelease).2⟩

end Sessions

/-! ## The schedule -/

/-- An accepted call has passed the calendar checks, at its own decision time. -/
theorem scheduleMonthlyRebalance_eq_ok {env : PortfolioEnvironment RebalanceCalendar} {calendars : Environment}
    {call : Call} {schedule : RebalanceSchedule RebalanceCalendar}
    (h : ATB.Rebalance.scheduleMonthlyRebalance env calendars call = .ok schedule) :
    ∃ dates, calendarSessions calendars call.sessionSequence
        ⟨call.calendarInputs, call.finalSession, call.nextSession⟩ call.decisionTime =
        .ok (schedule.releaseTime, dates) ∧ schedule.decisionTime = call.decisionTime := by
  unfold ATB.Rebalance.scheduleMonthlyRebalance at h
  obtain ⟨-, h⟩ := raiseIf_bind_eq_ok.mp h
  obtain ⟨commitments, -, h⟩ := bind_eq_ok.mp h
  obtain ⟨oms, -, h⟩ := bind_eq_ok.mp h
  obtain ⟨ledger, -, h⟩ := bind_eq_ok.mp h
  simp only [ATB.scheduleMonthlyRebalance, bind_eq_ok, pure_eq_ok] at h
  obtain ⟨_, -, _, -, _, -, _, -, _, -, _, -, _, -, _, -, _, -, _, -, ⟨release, dates⟩, hsessions, _, -, _, -, _, -, rfl⟩ := h
  exact ⟨dates, hsessions, rfl⟩

/-- The supplied resolutions cover the civil dates from the final session to the next, each
once; the final session is the last of its month, nothing is traded between the two, and the
decision is between the close of the final session and the release at the opening of the next. -/
theorem month_end_schedule (env : PortfolioEnvironment RebalanceCalendar) (calendars : Environment) (call : Call)
    (schedule : RebalanceSchedule RebalanceCalendar) (h : ATB.Rebalance.scheduleMonthlyRebalance env calendars call = .ok schedule) :
    ∃ resolved opening closing closing',
      call.calendarInputs.mapM (resolveInput calendars) = .ok resolved ∧
      (∀ d, (resolved.map fun item => item.localDate).count d =
        if call.finalSession.localDate.key ≤ d.key ∧ d.key ≤ call.nextSession.localDate.key then 1 else 0) ∧
      call.finalSession ∈ resolved ∧ call.nextSession ∈ resolved ∧
      (∀ item ∈ resolved, item = call.finalSession ∨ item = call.nextSession ∨ NonTrading item) ∧
      Established call.finalSession opening closing ∧ Established call.nextSession schedule.releaseTime closing' ∧
      call.finalSession.localDate.key < call.nextSession.localDate.key ∧
      (∀ d : LocalDate, call.finalSession.localDate.key < d.key → d.key < call.nextSession.localDate.key →
        ∃ item ∈ resolved, item.localDate = d ∧ NonTrading item) ∧
      (∀ d : LocalDate, d.year = call.finalSession.localDate.year → d.month = call.finalSession.localDate.month →
        call.finalSession.localDate.key < d.key → ∃ item ∈ resolved, item.localDate = d ∧ NonTrading item) ∧
      call.nextSession.localDate.month ≠ call.finalSession.localDate.month ∧
      schedule.decisionTime = call.decisionTime ∧ closing.value ≤ schedule.decisionTime.value ∧
      schedule.decisionTime.value < schedule.releaseTime.value := by
  obtain ⟨dates, hsessions, hdecision⟩ := scheduleMonthlyRebalance_eq_ok h
  obtain ⟨resolved, opening, closing, closing', hresolved, hcheck, hfinal, hnext, hmonth, hlt, hclose, hrelease⟩ :=
    calendarSessions_eq_ok hsessions
  obtain ⟨hinputs, hnodup, hdates⟩ := resolveDates_eq_ok hresolved
  obtain ⟨hfinalMem, hnextMem, hall, -, -⟩ := checkResolved_eq_ok hcheck
  have hbetween : ∀ d : LocalDate, call.finalSession.localDate.key < d.key → d.key < call.nextSession.localDate.key →
      ∃ item ∈ resolved, item.localDate = d ∧ NonTrading item := by
    intro d hd hd'
    obtain ⟨item, hitem, rfl⟩ := List.mem_map.mp ((hdates d).mpr ⟨Nat.le_of_lt hd, Nat.le_of_lt hd'⟩)
    refine ⟨item, hitem, rfl, ?_⟩
    rcases hall item hitem with rfl | rfl | hnon
    · exact absurd hd (Nat.lt_irrefl _)
    · exact absurd hd' (Nat.lt_irrefl _)
    · exact hnon
  refine ⟨resolved, opening, closing, closing', hinputs, fun d => ?_, hfinalMem, hnextMem, hall, hfinal, hnext, hlt,
    hbetween, fun d hy hm hd => hbetween d hd ?_, Ne.symm hmonth, hdecision, hdecision ▸ hclose, hdecision ▸ hrelease⟩
  · rw [hnodup.count]
    exact if_congr (hdates d) rfl rfl
  · -- the next session is in a later month
    have hday := day_le d
    have hday' := day_le call.nextSession.localDate
    have hm' := (call.nextSession.localDate.real).2.1
    have hm'' := (call.finalSession.localDate.real).2.1
    simp only [LocalDate.key] at *
    omega

/-! ### A sample month -/

namespace Sample

open ATB.Proof.Resolution.CalendarSample (calendar versionId policy covered currentness)

def fact (role : String) (c : Char) : List EvidenceRef :=
  [Resolution.Sample.evidence role ("sha256:" ++ String.ofList (List.replicate 64 c))]

/-- The digest of no bytes. -/
def corpusDigest : EvidenceContentDigest := ⟨"sha256:e3b0c44298fc1c149afbf4c8996fb92427ae41e4649b934ca495991b7852b855"⟩

def newYork : TimezoneRuleRef :=
  ⟨"America/New_York", "timezone-rule:atis/2026a", corpusDigest, fact "zone" '2', policy, .valid⟩

def version : CalendarVersion :=
  { Resolution.CalendarSample.first with marketCode := "US", venueCode := "XNYS", timezoneRuleRef := newYork }

/-- The last Friday of January, the weekend and the Monday. -/
def friday : LocalDate := ⟨2026, 1, 30, by decide⟩
def saturday : LocalDate := ⟨2026, 1, 31, by decide⟩
def sunday : LocalDate := ⟨2026, 2, 1, by decide⟩
def monday : LocalDate := ⟨2026, 2, 2, by decide⟩

/-- The decision is an hour after the close of Friday. -/
def decided : Timestamp := ⟨⟨2026, 1, 30, 22, 0, 0, 0, by decide⟩⟩

def fridayOpen : Timestamp := ⟨⟨2026, 1, 30, 14, 30, 0, 0, by decide⟩⟩
def fridayClose : Timestamp := ⟨⟨2026, 1, 30, 21, 0, 0, 0, by decide⟩⟩
def mondayOpen : Timestamp := ⟨⟨2026, 2, 2, 14, 30, 0, 0, by decide⟩⟩
def mondayClose : Timestamp := ⟨⟨2026, 2, 2, 21, 0, 0, 0, by decide⟩⟩

theorem not_exclusive : ¬ (false = true ∧ false = true) := by decide

theorem no_fold : ∀ f ∈ (none : Option Nat), false = true ∧ f ≤ 1 := by simp

def wallOpen : LocalWallTime := ⟨9, 30, 0, 0, some (-300), false, false, none, by decide, by simp, not_exclusive, no_fold⟩
def wallClose : LocalWallTime := ⟨16, 0, 0, 0, some (-300), false, false, none, by decide, by simp, not_exclusive, no_fold⟩

theorem unambiguous : ∀ t ∈ [wallOpen, wallClose], t.ambiguous = true → t.fold ≠ none := by decide

def fridaySession : SessionDefinition :=
  ⟨calendar, versionId 1, friday, .regular, .standard, wallOpen, wallClose, fridayOpen, fridayClose, newYork,
    fact "session" '6', policy, .valid, by decide, unambiguous, by decide, by decide⟩

def mondaySession : SessionDefinition :=
  ⟨calendar, versionId 1, monday, .regular, .standard, wallOpen, wallClose, mondayOpen, mondayClose, newYork,
    fact "session" '6', policy, .valid, by decide, unambiguous, by decide, by decide⟩

def tradingDay (date : LocalDate) (kind : TradingDayKind) : TradingDayDefinition :=
  ⟨calendar, versionId 1, date, kind, fact "trading-day" '5', policy, .valid⟩

def query (date : LocalDate) : CalendarSessionResolutionQuery :=
  ⟨calendar, date, .regular, decided, decided, decided, Datetime.le_refl _⟩

/-- SHA-256 of the records of the sample, by a residue of their texts. -/
def digests : List (Nat × Nat) :=
  [(21530, 0x35156790d312e5b308a0d808cc9a78b228579837105df0ed65b0e15c71ff7ec5),
   (37396, 0x3e3c64236e962d8ecc2c9b366025a2ed9f197367f65d1d3de4937038ccf42e08),
   (46884, 0xfa5910b3a08bfba9d9472ee5986777c1e71285ff9e36dc2c798742eeaba786eb),
   (53997, 0x18210644ebe7324869bd39bd90f907e8d58e7be7167714e10a33c36793bbe07b),
   (58230, 0xcc177843b5c50d05ee8bf43ffb20488e3cbf43af37f2c597fd5ef62b542bbe6d),
   (7972, 0xf37cb4dc278ebbe5fa43a144aa000fbcc0883f3e39de39f167d53ed9664a65ab),
   (57957, 0x368bb2c3382fc3f3781bded3ca3a5158b30e984918879d8b68550fbdf8de12f8),
   (62012, 0x50552ab195ab6be3db1cd0e38d210474ac4e4a6152553e93e8d06f40ef85b67d),
   (40998, 0xcdc259fcb082d612b2e97466c0ddfee176d73141fc6117a82b6a7a5916bd6b1a)]

def residue (text : List Char) : Nat := text.foldl (fun h c => (h * 31 + c.toNat) % 65521) 0

theorem digest_lt (n : Nat) : n % 2 ^ 256 < 2 ^ 256 := Nat.mod_lt _ (Nat.two_pow_pos 256)

def calendars : Environment where
  py :=
    { isNfc := fun _ => true
      sha256 := fun text => ⟨((digests.find? fun d => d.1 = residue text).map Prod.snd).getD 0 % 2 ^ 256, digest_lt _⟩ }
  fromBytes _ := corpusDigest

/-- The candidates of a date: the version, its coverage, the day and its sessions. -/
def candidates (date : LocalDate) (kind : TradingDayKind) (sessions : List SessionDefinition) :
    CalendarSessionResolutionCandidates :=
  let facts := .coverage covered :: .day (tradingDay date kind) :: sessions.map CalendarFact.session
  { calendarVersions := [version], historicalCoverages := [covered], tradingDayDefinitions := [tradingDay date kind]
    sessionDefinitions := sessions, timezoneRuleCorpora := [⟨"timezone-rule:atis/2026a", []⟩]
    candidateSetCoverage := some
      { calendarId := calendar, localDate := date, sessionKind := .regular, effectiveAsOf := decided,
        knowledgeCutoff := decided, evaluationAt := decided, knowledgeFrom := decided,
        candidateVersionIds := [versionId 1],
        candidateFactDescriptors := (facts.map (CalendarFactDescriptor.fromFact calendars.py)).insertionSort
          fun a b => a.canonical ≤ b.canonical,
        evidenceRefs := fact "manifest" '8', validationPolicyId := policy, validationState := .valid }
    negativeCoverage := none, currentnessAssessments := [currentness], correctionAuthorityAssessments := [] }

def inputs : List CalendarInput :=
  [(query friday, candidates friday .regularTradingDay [fridaySession]),
   (query saturday, candidates saturday .specialNonTradingDay []),
   (query sunday, candidates sunday .specialNonTradingDay []),
   (query monday, candidates monday .regularTradingDay [mondaySession])]

def env : PortfolioEnvironment RebalanceCalendar :=
  { Portfolio.Sample.env.toEvidenceDigests with
    record := fun _ _ => "record", book := fun _ _ _ _ _ => "book", schedule := fun _ _ => "schedule",
    noCalendarInputs := fun _ => false, sessions := fun _ t => .ok (t, "", "") }

/-- Two strategies are admitted, and the first is to leave at the month's end. -/
def call : Outcome Call := do
  let ledger ← SimulationLedger.replay usd (Portfolio.Sample.events.map Subtype.val)
  let result ← reconcile Portfolio.Sample.oms ledger
  let truth ← requirePerformance result
  let first ← PortfolioAdmission.fromAssurance env.toEvidenceDigests
    (Portfolio.Sample.context "momentum" Ledger.Sample.run truth) .hypotheticalParticipation none []
  let second ← PortfolioAdmission.fromAssurance env.toEvidenceDigests
    (Portfolio.Sample.context "trend" Portfolio.Sample.other truth) .hypotheticalParticipation none []
  let allocation ← allocateEqualBudgets env.toEvidenceDigests [first, second] 1000 usd true
  let book ← createCommitmentBook (environment env calendars fun c => [c.finalSession, c.nextSession]) allocation
    [first, second]
  let resolved ← inputs.mapM (resolveInput calendars)
  let final ← orRaise ⟨.valueError, "no session"⟩ resolved.head?
  let next ← orRaise ⟨.valueError, "no session"⟩ resolved.getLast?
  return ⟨final, next, [final, next], decided, ["momentum"], ["momentum"], inputs, some book,
    some Portfolio.Sample.oms, some ledger⟩

end Sample

/-- From the last Friday of January to the Monday after the weekend. -/
theorem month_end_schedule_sample : ∃ call schedule resolved,
    ATB.Rebalance.scheduleMonthlyRebalance Sample.env Sample.calendars call = .ok schedule ∧
    call.calendarInputs.mapM (resolveInput Sample.calendars) = .ok resolved ∧
    call.finalSession.localDate = Sample.friday ∧ call.nextSession.localDate = Sample.monday ∧
    schedule.releaseTime = Sample.mondayOpen ∧
    (resolved.map fun item => item.localDate).count Sample.sunday = 1 ∧
    ∃ item ∈ resolved, item.localDate = Sample.sunday ∧ NonTrading item := by
  have hok : (Sample.call.toOption.map fun call =>
      (ATB.Rebalance.scheduleMonthlyRebalance Sample.env Sample.calendars call).toOption.map fun schedule =>
        (call.finalSession.localDate, call.nextSession.localDate, schedule.releaseTime)) =
      some (some (Sample.friday, Sample.monday, Sample.mondayOpen)) := by decide +kernel
  obtain ⟨call, -, hcall⟩ := Option.map_eq_some_iff.mp hok
  obtain ⟨schedule, hschedule, hdates⟩ := Option.map_eq_some_iff.mp hcall
  have hschedule := ok_of_toOption hschedule
  simp only [Prod.mk.injEq] at hdates
  obtain ⟨hfinal, hnext, hrelease⟩ := hdates
  obtain ⟨resolved, _, _, _, hresolved, hcount, -, -, -, -, -, -, hbetween, -⟩ :=
    month_end_schedule Sample.env Sample.calendars call schedule hschedule
  refine ⟨call, schedule, resolved, hschedule, hresolved, hfinal, hnext, hrelease, ?_, ?_⟩
  · rw [hcount, hfinal, hnext]
    decide
  · exact hbetween Sample.sunday (by rw [hfinal]; decide) (by rw [hnext]; decide)

end ATB.Proof.Rebalance
