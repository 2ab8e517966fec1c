import AutomatedTradingBot.Framework.SortedSet
import AutomatedTradingBot.Proof.Portfolio.Rebalance
import AutomatedTradingBot.Source.Strategies.Sessions

/-!
# The sessions of a mean-reversion decision

* `covered`: between two entries of an accepted calendar every weekday has an entry;
* `sessions_exact`: which sessions are selected, and what lies between them.
-/

namespace ATB.Proof.Strategies

open ATB.Calendars ATB.Rebalance ATB.Strategies
open ATB.Proof.Rebalance (toordinal_le key_injective)

/-! ## Accepted calendars -/

section Ordered

variable {values : List CalendarDay}

/-- What an accepted calendar has. -/
structure Ordered (values : List CalendarDay) : Prop where
  distinct : (values.map CalendarDay.localDate).Nodup
  established : ∀ v ∈ values, v.result.disposition = .established
  gaps : ∀ pair ∈ (sortedDays values).zip (sortedDays values).tail, checkGap pair = .ok ()

theorem sortedDays_perm (values : List CalendarDay) : (sortedDays values).Perm values := List.perm_insertionSort _ _

theorem mem_sortedDays {v : CalendarDay} : v ∈ sortedDays values ↔ v ∈ values := (sortedDays_perm values).mem_iff

theorem orderedCalendarDays_eq_ok {ordered : List CalendarDay} (h : orderedCalendarDays values = .ok ordered) :
    Ordered values ∧ ordered = sortedDays values := by
  simp only [orderedCalendarDays, bind_eq_ok, raiseIf_eq_ok, orRaise_eq_ok, forM_eq_ok, exists_const, pure_eq_ok,
    not_not] at h
  obtain ⟨first, hfirst, hnodup, hcheck, hgaps, e⟩ := h
  refine ⟨⟨((sortedDays_perm values).map _).nodup_iff.mp hnodup, fun v hv => ?_, hgaps⟩, e.symm⟩
  have hv := hcheck v (mem_sortedDays.mpr hv)
  simp only [CalendarDay.check, bind_eq_ok, raiseIf_eq_ok, exists_const, not_not] at hv
  exact hv.1

theorem Ordered.keys (h : Ordered values) : (values.map fun v => v.localDate.key).Nodup := by
  have hkeys := h.distinct.map fun _ _ => key_injective
  rwa [List.map_map] at hkeys

/-- The order of the entries does not matter. -/
theorem Ordered.sortedDays_eq (h : Ordered values) {values' : List CalendarDay} (hp : values'.Perm values) :
    sortedDays values' = sortedDays values := (insertionSort_key_eq_of_perm h.keys hp.symm).symm

theorem ordinal_lt {v w : CalendarDay} : v.ordinal < w.ordinal ↔ v.localDate.key < w.localDate.key := by
  rw [← Nat.not_le, ← Nat.not_le]
  exact not_congr toordinal_le

theorem Ordered.sorted (h : Ordered values) : (sortedDays values).Pairwise fun v w => v.localDate.key < w.localDate.key := by
  have : Std.Total fun v w : CalendarDay => v.localDate.key ≤ w.localDate.key := ⟨fun _ _ => Nat.le_total _ _⟩
  have : IsTrans CalendarDay fun v w => v.localDate.key ≤ w.localDate.key := ⟨fun _ _ _ => Nat.le_trans⟩
  have hle := List.pairwise_insertionSort (fun v w : CalendarDay => v.localDate.key ≤ w.localDate.key) values
  have hne := List.pairwise_map.mp (((sortedDays_perm values).map fun v => v.localDate.key).nodup_iff.mpr h.keys)
  exact (hle.and hne).imp fun h => Nat.lt_of_le_of_ne h.1 h.2

theorem Ordered.sorted_filter (h : Ordered values) (p q : CalendarDay → Bool) :
    (((sortedDays values).filter p).filter q).Pairwise fun v w => v.localDate.key < w.localDate.key :=
  (h.sorted.sublist List.filter_sublist).sublist List.filter_sublist

/-- The gap check of an entry and the next one. -/
theorem checkGap_eq_ok {v w : CalendarDay} {u : Unit} (h : checkGap (v, w) = .ok u) {n : Nat} (hv : v.ordinal < n)
    (hw : n < w.ordinal) : ¬ weekdayOf n < 5 := by
  intro hday
  refine raiseIf_eq_ok.mp h ⟨n, ?_, hday⟩
  dsimp only
  rw [between, List.mem_range'_1]
  omega

/-- Between two entries every weekday has an entry. -/
theorem covered_of_gaps {l : List CalendarDay} (hl : l.Pairwise fun v w => v.ordinal < w.ordinal)
    (hgaps : ∀ pair ∈ l.zip l.tail, checkGap pair = .ok ()) {x y : CalendarDay} (hx : x ∈ l) (hy : y ∈ l) {n : Nat}
    (hxn : x.ordinal < n) (hny : n < y.ordinal) (hday : weekdayOf n < 5) : ∃ v ∈ l, v.ordinal = n := by
  induction l generalizing x with
  | nil => cases hx
  | cons a l ih =>
    obtain ⟨ha, hl⟩ := List.pairwise_cons.mp hl
    have hyl : y ∈ l := by
      rcases List.mem_cons.mp hy with rfl | hyl
      · rcases List.mem_cons.mp hx with rfl | hxl
        · omega
        · have := ha x hxl
          omega
      · exact hyl
    cases l with
    | nil => cases hyl
    | cons b l =>
      have hrest : ∀ pair ∈ (b :: l).zip (b :: l).tail, checkGap pair = .ok () :=
        fun pair hp => hgaps pair (List.mem_cons_of_mem _ hp)
      have hfrom : ∀ x ∈ b :: l, x.ordinal < n → ∃ v ∈ a :: b :: l, v.ordinal = n := by
        intro x hx hxn
        obtain ⟨v, hv, e⟩ := ih hl hrest hx hyl hxn
        exact ⟨v, List.mem_cons_of_mem _ hv, e⟩
      rcases List.mem_cons.mp hx with rfl | hxl
      · rcases Nat.lt_trichotomy b.ordinal n with hb | hb | hb
        · exact hfrom b List.mem_cons_self hb
        · exact ⟨b, List.mem_cons_of_mem _ List.mem_cons_self, hb⟩
        · exact absurd hday (checkGap_eq_ok (hgaps (x, b) List.mem_cons_self) hxn hb)
      · exact hfrom x hxl hxn

theorem Ordered.covered (h : Ordered values) {x y : CalendarDay} (hx : x ∈ values) (hy : y ∈ values) {d : LocalDate}
    (hxd : x.localDate.key < d.key) (hdy : d.key < y.localDate.key) (hday : weekday d < 5) :
    ∃ v ∈ values, v.localDate = d := by
  have hlt : ∀ {a b : LocalDate}, a.key < b.key → toordinal a < toordinal b := fun hab =>
    Nat.not_le.mp fun hba => absurd (toordinal_le.mp hba) (Nat.not_le.mpr hab)
  obtain ⟨v, hv, e⟩ := covered_of_gaps (h.sorted.imp ordinal_lt.mpr) h.gaps (mem_sortedDays.mpr hx)
    (mem_sortedDays.mpr hy) (hlt hxd) (hlt hdy) hday
  refine ⟨v, mem_sortedDays.mp hv, key_injective (Nat.le_antisymm ?_ ?_)⟩
  · exact toordinal_le.mp (Nat.le_of_eq e)
  · exact toordinal_le.mp (Nat.le_of_eq e.symm)

/-- An established regular day has all that a trading session has. -/
theorem isTradingSession_of_isRegular {v : CalendarDay} (he : v.result.disposition = .established) (h : v.isRegular) :
    v.isTradingSession := by
  have hc := v.constructed
  obtain ⟨day, hday, hkind⟩ := h
  simp only [CalendarSessionResolutionResult.checkValues, bind_eq_ok, raiseIf_eq_ok, he, if_true, orRaise_eq_ok] at hc
  obtain ⟨_, -, _, -, day', hday', hc⟩ := hc
  cases hday.symm.trans hday'
  rw [if_pos hkind, raiseIf_eq_ok] at hc
  simp only [not_or] at hc
  exact ⟨⟨day, hday, hkind⟩, Option.isSome_iff_ne_none.mpr hc.1, Option.isSome_iff_ne_none.mpr hc.2.1,
    Option.isSome_iff_ne_none.mpr hc.2.2.1⟩

end Ordered

/-! ## Sorted entries -/

section Sorted

variable {l : List CalendarDay}

theorem last_greatest {x : CalendarDay} (hs : l.Pairwise fun v w => v.localDate.key < w.localDate.key)
    (h : l.getLast? = some x) {y : CalendarDay} (hy : y ∈ l) : y.localDate.key ≤ x.localDate.key := by
  obtain ⟨before, rfl⟩ := List.getLast?_eq_some_iff.mp h
  rcases List.mem_append.mp hy with hy | hy
  · exact Nat.le_of_lt ((List.pairwise_append.mp hs).2.2 y hy x List.mem_cons_self)
  · rw [List.mem_singleton.mp hy]

theorem first_least {x : CalendarDay} (hs : l.Pairwise fun v w => v.localDate.key < w.localDate.key)
    (h : l.head? = some x) {y : CalendarDay} (hy : y ∈ l) : x.localDate.key ≤ y.localDate.key := by
  obtain ⟨after, rfl⟩ := List.head?_eq_some_iff.mp h
  rcases List.mem_cons.mp hy with rfl | hy
  · exact Nat.le_refl _
  · exact Nat.le_of_lt ((List.pairwise_cons.mp hs).1 y hy)

/-- After the first of the last `n + 1` entries there are `n`. -/
theorem length_after {n : Nat} {x : CalendarDay} (hs : l.Pairwise fun v w => v.localDate.key < w.localDate.key)
    (hn : (l.drop (l.length - (n + 1))).length = n + 1) (h : (l.drop (l.length - (n + 1))).head? = some x) :
    (l.filter fun v => x.localDate.key < v.localDate.key).length = n := by
  obtain ⟨after, hdrop⟩ := List.head?_eq_some_iff.mp h
  rw [hdrop, List.length_cons] at hn
  have hl := List.take_append_drop (l.length - (n + 1)) l
  rw [hdrop] at hl
  rw [← hl] at hs ⊢
  obtain ⟨-, hafter, hbefore⟩ := List.pairwise_append.mp hs
  have hnone : ((l.take (l.length - (n + 1))).filter fun v => x.localDate.key < v.localDate.key) = [] := by
    refine List.filter_eq_nil_iff.mpr fun v hv => ?_
    have := hbefore v hv x List.mem_cons_self
    simp only [decide_eq_true_eq]
    omega
  have hall : (after.filter fun v => x.localDate.key < v.localDate.key) = after :=
    List.filter_eq_self.mpr fun v hv => decide_eq_true ((List.pairwise_cons.mp hafter).1 v hv)
  rw [List.filter_append, hnone, List.nil_append, List.filter_cons_of_neg (by simp), hall]
  omega

end Sorted

/-! ## The decision and the execution -/

/-- The date is a day from Monday to Friday of the week of the instant. -/
def InWeek (t : Timestamp) (d : LocalDate) : Prop :=
  weekday d < 5 ∧ (toordinal d + 6) / 7 = (t.value.toordinal + 6) / 7

theorem inWeek_iff {t : Timestamp} {d : LocalDate}
    (h : t.value.toordinal = t.value.toordinal - weekdayOf t.value.toordinal + 4) :
    InWeek t d ↔ t.value.toordinal - weekdayOf t.value.toordinal ≤ toordinal d ∧
      toordinal d ≤ t.value.toordinal - weekdayOf t.value.toordinal + 4 := by
  simp only [InWeek, weekday, weekdayOf] at h ⊢
  omega

/-- What an accepted decision session is. -/
structure IsDecision (days : List CalendarDay) (decisionTime : Timestamp) (session : CalendarDay) : Prop where
  mem : session ∈ days
  trading : session.isTradingSession
  inWeek : InWeek decisionTime session.localDate
  last : ∀ v ∈ days, v.isTradingSession → InWeek decisionTime v.localDate → v.localDate.key ≤ session.localDate.key
  closed : ∃ close ∈ session.result.utcClose, close.value < decisionTime.value

theorem isDecision_of_decisionSession {days : List CalendarDay} (h : Ordered days) {t : Timestamp} {session : CalendarDay}
    (hs : decisionSession (sortedDays days) t = .ok session) : IsDecision days t session := by
  simp only [decisionSession, bind_eq_ok, raiseIf_eq_ok, orRaise_eq_ok, exists_const, pure_eq_ok, not_not] at hs
  obtain ⟨hfriday, -, session, hlast, hclosed, rfl⟩ := hs
  have hmem : ∀ v, v ∈ ((weekDays (t.value.toordinal - weekdayOf t.value.toordinal) (sortedDays days)).filter
      fun v => v.isEligible) ↔ v ∈ days ∧ InWeek t v.localDate ∧ v.isEligible := by
    intro v
    rw [weekDays, List.mem_filter, List.mem_filter, decide_eq_true_eq, decide_eq_true_eq, inWeek_iff hfriday,
      mem_sortedDays, and_assoc]
    rfl
  obtain ⟨hin, hweek, hregular, hclose⟩ := (hmem session).mp (List.mem_of_getLast? hlast)
  refine ⟨hin, isTradingSession_of_isRegular (h.established _ hin) hregular, hweek, fun v hv htrading hvweek => ?_, ?_⟩
  · exact last_greatest (h.sorted_filter _ _) hlast ((hmem v).mpr ⟨hv, hvweek, htrading.1, htrading.2.2.2⟩)
  · obtain ⟨close, e⟩ := Option.isSome_iff_exists.mp hclose
    exact ⟨close, e, Datetime.not_le.mp fun hle => hclosed ⟨close, e, hle⟩⟩

/-- What an accepted execution session is. -/
structure IsExecution (days : List CalendarDay) (session : CalendarDay) (releaseTime : Timestamp)
    (execution : CalendarDay) : Prop where
  mem : execution ∈ days
  trading : execution.isTradingSession
  after : session.localDate.key < execution.localDate.key
  first : ∀ v ∈ days, v.isTradingSession → session.localDate.key < v.localDate.key →
    execution.localDate.key ≤ v.localDate.key
  accounted : ∀ d : LocalDate, session.localDate.key < d.key → d.key < execution.localDate.key → weekday d < 5 →
    ∃ v ∈ days, v.localDate = d
  released : ∃ opening ∈ execution.result.utcOpen, ∃ close ∈ execution.result.utcClose,
    opening.value ≤ releaseTime.value ∧ releaseTime.value ≤ close.value

theorem isExecution_of_executionSession {days : List CalendarDay} (h : Ordered days) {t : Timestamp}
    {session execution : CalendarDay} (hin : session ∈ days)
    (hs : executionSession ((sortedDays days).filter fun v => v.isTradingSession) session t = .ok execution) :
    IsExecution days session t execution := by
  simp only [executionSession, bind_eq_ok, raiseIf_eq_ok, orRaise_eq_ok, exists_const, pure_eq_ok] at hs
  obtain ⟨execution, hfirst, hopening, hclosed, rfl⟩ := hs
  have hmem : ∀ v, v ∈ (((sortedDays days).filter fun v => v.isTradingSession).filter
      fun v => session.localDate.key < v.localDate.key) ↔
        v ∈ days ∧ v.isTradingSession ∧ session.localDate.key < v.localDate.key := by
    intro v
    rw [List.mem_filter, List.mem_filter, decide_eq_true_eq, decide_eq_true_eq, mem_sortedDays, and_assoc]
  obtain ⟨hex, htrading, hafter⟩ := (hmem execution).mp (List.mem_of_head? hfirst)
  refine ⟨hex, htrading, hafter, fun v hv hv' hv'' => ?_, fun d hd hd' hday => h.covered hin hex hd hd' hday, ?_⟩
  · exact first_least (h.sorted_filter _ _) hfirst ((hmem v).mpr ⟨hv, hv', hv''⟩)
  · obtain ⟨opening, hopen⟩ := Option.isSome_iff_exists.mp htrading.2.2.1
    obtain ⟨close, hclose⟩ := Option.isSome_iff_exists.mp htrading.2.2.2
    refine ⟨opening, hopen, close, hclose, ?_, ?_⟩
    · exact Datetime.not_lt.mp fun hlt => hopening ⟨opening, hopen, hlt⟩
    · exact Datetime.not_lt.mp fun hlt => hclosed ⟨close, hclose, hlt⟩

/-! ## The signal window -/

theorem tradingSessions_eq_ok {days trading : List CalendarDay} (h : tradingSessions days = .ok trading) :
    Ordered days ∧ trading = (sortedDays days).filter fun v => v.isTradingSession := by
  obtain ⟨ordered, hordered, e⟩ := bind_eq_ok.mp h
  obtain ⟨h, rfl⟩ := orderedCalendarDays_eq_ok hordered
  exact ⟨h, (pure_eq_ok.mp e).symm⟩

/-- What lies between the endpoints of the signal: five sessions end in the window. -/
structure IsWindow (days : List CalendarDay) (session : CalendarDay) (window : LocalDate × LocalDate) : Prop where
  start : ∃ v ∈ days, v.isTradingSession ∧ v.localDate = window.1
  stop : window.2 = session.localDate
  five : (days.filter fun v =>
    v.isTradingSession ∧ window.1.key < v.localDate.key ∧ v.localDate.key ≤ window.2.key).length = 5

theorem isWindow_of_signalWindow {days : List CalendarDay} {session : CalendarDay} {window : LocalDate × LocalDate}
    (h : signalWindow days session = .ok window) : IsWindow days session window := by
  simp only [signalWindow, bind_eq_ok, raiseIf_eq_ok, orRaise_eq_ok, exists_const, pure_eq_ok, not_not] at h
  obtain ⟨trading, htrading, hsix, first, hfirst, last, -, hlast, rfl⟩ := h
  obtain ⟨hordered, rfl⟩ := tradingSessions_eq_ok htrading
  have hmem := List.mem_of_mem_drop (List.mem_of_head? hfirst)
  simp only [List.mem_filter, decide_eq_true_eq, mem_sortedDays] at hmem
  refine ⟨⟨first, hmem.1.1, hmem.1.2, rfl⟩, hlast, ?_⟩
  have hfive := length_after (hordered.sorted_filter _ _) hsix hfirst
  rw [List.filter_filter, List.filter_filter] at hfive
  rw [← hfive, ← ((sortedDays_perm days).filter _).length_eq, hlast]
  congr 1
  refine List.filter_congr fun v _ => ?_
  simp only [Bool.decide_and]
  exact Bool.and_comm _ _

/-! ## Other orders of the calendar -/

theorem decisionAndExecutionSessions_perm {days days' : List CalendarDay} {decisionTime releaseTime : Timestamp}
    (h : Ordered days) (hp : days'.Perm days) : decisionAndExecutionSessions days' decisionTime releaseTime =
      decisionAndExecutionSessions days decisionTime releaseTime := by
  simp only [decisionAndExecutionSessions, orderedCalendarDays, h.sortedDays_eq hp]

theorem signalWindow_perm {days days' : List CalendarDay} {session : CalendarDay} (h : Ordered days)
    (hp : days'.Perm days) : signalWindow days' session = signalWindow days session := by
  simp only [signalWindow, tradingSessions, orderedCalendarDays, h.sortedDays_eq hp]

/-- What `decision_and_execution_sessions` accepts. -/
theorem sessions_of_accepted {days : List CalendarDay} {decisionTime releaseTime : Timestamp}
    {sessions : CalendarDay × CalendarDay}
    (h : decisionAndExecutionSessions days decisionTime releaseTime = .ok sessions) :
    Ordered days ∧ IsDecision days decisionTime sessions.1 ∧ IsExecution days sessions.1 releaseTime sessions.2 ∧
      decisionTime.value < releaseTime.value := by
  simp only [decisionAndExecutionSessions, bind_eq_ok, raiseIf_eq_ok, exists_const, pure_eq_ok] at h
  obtain ⟨hrelease, ordered, hordered, session, hdecision, trading, htrading, execution, hexecution, rfl⟩ := h
  obtain ⟨hdays, rfl⟩ := orderedCalendarDays_eq_ok hordered
  obtain ⟨-, rfl⟩ := tradingSessions_eq_ok htrading
  rw [hdays.sortedDays_eq (sortedDays_perm days)] at hexecution
  have hsession := isDecision_of_decisionSession hdays hdecision
  exact ⟨hdays, hsession, isExecution_of_executionSession hdays hsession.mem hexecution, Datetime.not_le.mp hrelease⟩

end ATB.Proof.Strategies
