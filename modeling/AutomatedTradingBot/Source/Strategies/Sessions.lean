import AutomatedTradingBot.Source.Rebalance

/-!
# The sessions of a mean-reversion decision

`_ordered_calendar_days`, `_trading_sessions`, `decision_and_execution_sessions` and the signal
window of `research/mean_reversion_strategy.py`. What they raise is a `MeanReversionError`.
A date is compared, and moved by days, through its ordinal where the source uses `timedelta`.
-/

namespace ATB.Strategies

open ATB.Calendars ATB.Rebalance

/-- `CalendarSessionResolutionResult`: what it resolves to, with the fields of its query that are
read here. -/
structure CalendarDay where
  calendarId : CalendarId
  localDate : LocalDate
  result : CalendarSessionResolutionResult
  constructed : result.checkValues = .ok ()
deriving DecidableEq

/-- `date.weekday()` of an ordinal: Monday is 0. -/
def weekdayOf (ordinal : Nat) : Nat := (ordinal + 6) % 7

/-- `d.weekday()`. -/
def weekday (d : LocalDate) : Nat := weekdayOf (toordinal d)

namespace CalendarDay

def ordinal (v : CalendarDay) : Nat := toordinal v.localDate

def isRegular (v : CalendarDay) : Prop := ∃ day ∈ v.result.tradingDay, day.dayKind = .regularTradingDay

instance (v : CalendarDay) : Decidable v.isRegular :=
  inferInstanceAs (Decidable (∃ day ∈ v.result.tradingDay, day.dayKind = .regularTradingDay))

/-- What `_trading_sessions` keeps. -/
def isTradingSession (v : CalendarDay) : Prop :=
  v.isRegular ∧ v.result.session.isSome ∧ v.result.utcOpen.isSome ∧ v.result.utcClose.isSome

instance (v : CalendarDay) : Decidable v.isTradingSession := inferInstanceAs (Decidable (_ ∧ _ ∧ _ ∧ _))

/-- What counts as a session of the decision week. -/
def isEligible (v : CalendarDay) : Prop := v.isRegular ∧ v.result.utcClose.isSome

instance (v : CalendarDay) : Decidable v.isEligible := inferInstanceAs (Decidable (_ ∧ _))

/-- The check of one entry against the first. -/
def check (first v : CalendarDay) : Except String Unit := do
  raiseIf (v.result.disposition ≠ .established) "calendar session is not established"
  raiseIf (v.calendarId ≠ first.calendarId ∨
      v.result.selectedCalendarVersionId ≠ first.result.selectedCalendarVersionId)
    "calendar identity or version is inconsistent"
  raiseIf (v.result.tradingDay = none) "established calendar result lacks trading-day evidence"

end CalendarDay

/-- The ordinals between two, which `probe` runs through. -/
def between (previous current : Nat) : List Nat := List.range' (previous + 1) (current - previous - 1)

/-- The days between two entries: none of them is a weekday. -/
def checkGap (pair : CalendarDay × CalendarDay) : Except String Unit :=
  raiseIf (∃ n ∈ between pair.1.ordinal pair.2.ordinal, weekdayOf n < 5) "weekday calendar evidence is incomplete"

/-- `sorted(values, key=lambda value: value.local_date)`. -/
def sortedDays (values : List CalendarDay) : List CalendarDay :=
  values.insertionSort fun a b => a.localDate.key ≤ b.localDate.key

/-- `_ordered_calendar_days`. -/
def orderedCalendarDays (values : List CalendarDay) : Except String (List CalendarDay) := do
  let first ← orRaise "calendar evidence must be a nonempty tuple" (sortedDays values).head?
  raiseIf (¬ ((sortedDays values).map CalendarDay.localDate).Nodup) "duplicate calendar date"
  (sortedDays values).forM (CalendarDay.check first)
  ((sortedDays values).zip (sortedDays values).tail).forM checkGap
  return sortedDays values

/-- `_trading_sessions`. -/
def tradingSessions (values : List CalendarDay) : Except String (List CalendarDay) := do
  let ordered ← orderedCalendarDays values
  return ordered.filter fun v => v.isTradingSession

/-- The ordinals of the Monday to the Friday of a week. -/
def weekOf (monday : Nat) : List Nat := List.range' monday 5

/-- `week_days`. -/
def weekDays (monday : Nat) (ordered : List CalendarDay) : List CalendarDay :=
  ordered.filter fun v => monday ≤ v.ordinal ∧ v.ordinal ≤ monday + 4

/-- The decision session: the last one of the week. -/
def decisionSession (ordered : List CalendarDay) (decisionTime : Timestamp) : Except String CalendarDay := do
  let date := decisionTime.value.toordinal
  let monday := date - weekdayOf date
  raiseIf (date ≠ monday + 4) "decision timestamp must belong to the Friday evaluation date"
  let days := weekDays monday ordered
  raiseIf (¬ ((∀ v ∈ days, v.ordinal ∈ weekOf monday) ∧ ∀ n ∈ weekOf monday, n ∈ days.map CalendarDay.ordinal))
    "decision week calendar evidence is incomplete"
  let session ← orRaise "decision week contains no established eligible session"
    (days.filter fun v => v.isEligible).getLast?
  raiseIf (∃ close ∈ session.result.utcClose, decisionTime.value ≤ close.value)
    "decision must occur after the selected session completes"
  return session

/-- The execution session: the first one after the decision session. -/
def executionSession (trading : List CalendarDay) (session : CalendarDay) (releaseTime : Timestamp) :
    Except String CalendarDay := do
  let execution ← orRaise "next eligible execution session is not established"
    (trading.filter fun v => session.localDate.key < v.localDate.key).head?
  raiseIf (∃ opening ∈ execution.result.utcOpen, releaseTime.value < opening.value)
    "release precedes the next eligible session"
  raiseIf (∃ close ∈ execution.result.utcClose, close.value < releaseTime.value)
    "release is outside the next eligible session"
  return execution

/-- `decision_and_execution_sessions`. -/
def decisionAndExecutionSessions (calendarDays : List CalendarDay) (decisionTime releaseTime : Timestamp) :
    Except String (CalendarDay × CalendarDay) := do
  raiseIf (releaseTime.value ≤ decisionTime.value) "release must be after decision"
  let ordered ← orderedCalendarDays calendarDays
  let session ← decisionSession ordered decisionTime
  let trading ← tradingSessions ordered
  let execution ← executionSession trading session releaseTime
  return (session, execution)

/-- The sessions up to the decision session, the last six of them. -/
def signalSessions (trading : List CalendarDay) (session : CalendarDay) : List CalendarDay :=
  let completed := trading.filter fun v => v.localDate.key ≤ session.localDate.key
  completed.drop (completed.length - 6)

/-- The dates of the two endpoints of the signal: `start_date` and `end_date`. -/
def signalWindow (calendarDays : List CalendarDay) (session : CalendarDay) : Except String (LocalDate × LocalDate) := do
  let trading ← tradingSessions calendarDays
  let sessions := signalSessions trading session
  let message := "exactly five completed eligible-session returns are required"
  raiseIf (sessions.length ≠ 6) message
  let first ← orRaise message sessions.head?
  let last ← orRaise message sessions.getLast?
  raiseIf (last.localDate ≠ session.localDate) message
  return (first.localDate, last.localDate)

end ATB.Strategies
