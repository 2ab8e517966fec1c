import AutomatedTradingBot.Source.CalendarResolution
import AutomatedTradingBot.Source.Commitments

/-!
# The calendar of a monthly rebalance

`schedule_monthly_rebalance` of `research/portfolio_construction.py`, with the
calendar checks that `ATB.scheduleMonthlyRebalance` leaves to its environment: the
supplied queries are resolved one by one, and the two sessions and the sequence of
sessions must be what they resolve to.
-/

namespace ATB.Rebalance

open ATB.Instruments ATB.Calendars

/-! ## Civil dates -/

/-- The start of a date. -/
def midnight (d : LocalDate) : Datetime := ⟨d.year, d.month, d.day, 0, 0, 0, 0, d.real⟩

/-- `d.toordinal()`. -/
def toordinal (d : LocalDate) : Nat := (midnight d).toordinal

/-- `d + timedelta(days=n)`. -/
def plusDays (d : LocalDate) : Nat → Option LocalDate
  | 0 => some d
  | n + 1 => (plusDays d n).bind LocalDate.after?

/-- `expected_dates`: the dates from the first to the last. -/
def expectedDates (first last : LocalDate) : Outcome (List LocalDate) :=
  (List.range ((toordinal last : Int) - toordinal first + 1).toNat).mapM fun i =>
    orRaise ⟨.arithmeticError, "date value out of range"⟩ (plusDays first i)

/-! ## Resolutions -/

/-- `CalendarSessionResolutionResult`, with the fields of the query. -/
structure SessionResolution extends CalendarSessionResolutionResult where
  calendarId : CalendarId
  localDate : LocalDate
  sessionKind : SessionKind
  effectiveAsOf : Timestamp
  knowledgeCutoff : Timestamp
  evaluationAt : Timestamp
deriving DecidableEq

abbrev CalendarInput := CalendarSessionResolutionQuery × CalendarSessionResolutionCandidates

/-- The calendar inputs and the two sessions of a schedule. -/
structure RebalanceCalendar where
  calendarInputs : List CalendarInput
  finalSession : SessionResolution
  nextSession : SessionResolution
deriving DecidableEq

/-- `resolve_calendar_session(query=query, candidates=candidates)`. -/
def resolveInput (env : Environment) (input : CalendarInput) : Outcome SessionResolution := do
  let result ← resolveCalendarSession env input.1 input.2
  return ⟨result, input.1.calendarId, input.1.localDate, input.1.sessionKind, input.1.effectiveAsOf,
    input.1.knowledgeCutoff, input.1.evaluationAt⟩

namespace SessionResolution

/-- `item.utc_open is not None`. -/
def opens (item : SessionResolution) : Bool := item.utcOpen.isSome

/-- The resolution is of an established regular trading day. -/
def eligible (item : SessionResolution) : Bool :=
  decide (item.disposition = .established) &&
    item.tradingDay.any fun day => decide (day.dayKind = .regularTradingDay)

/-- No session, and no explicit evidence of a day without trading. -/
def unexplained (item : SessionResolution) : Bool :=
  !item.opens && item.tradingDay.all fun day => decide (day.dayKind = .regularTradingDay)

end SessionResolution

/-! ## The checks -/

/-- The versions of an input are of the configured calendar. -/
def configured (input : CalendarInput) : Prop :=
  ∀ v ∈ input.2.calendarVersions,
    v.marketCode = "US" ∧ v.venueCode = "XNYS" ∧ v.timezoneRuleRef.timezoneId = "America/New_York"

instance (input : CalendarInput) : Decidable (configured input) := inferInstanceAs (Decidable (∀ v ∈ _, _))

/-- The inputs cover the civil dates, and are resolved. -/
def resolveDates (env : Environment) (calendar : RebalanceCalendar) (decisionTime : Timestamp) :
    Outcome (List SessionResolution) := do
  raiseIf (∃ input ∈ calendar.calendarInputs, ¬ configured input)
    (portfolioError "configured US XNYS calendar required")
  let dates := calendar.calendarInputs.map fun input => input.1.localDate
  let expected ← expectedDates calendar.finalSession.localDate calendar.nextSession.localDate
  raiseIf (dates ≠ expected ∨ 35 < dates.length)
    (portfolioError "calendar coverage omits or reorders civil dates")
  let resolved ← calendar.calendarInputs.mapM (resolveInput env)
  raiseIf (∃ input ∈ calendar.calendarInputs,
      decisionTime.value < input.1.knowledgeCutoff.value ∨ input.1.evaluationAt ≠ decisionTime)
    (portfolioError "calendar cutoff or currentness mismatch")
  return resolved

/-- The resolutions are the two sessions, with days without trading between them. -/
def checkResolved (calendar : RebalanceCalendar) (sequence resolved : List SessionResolution) : Outcome Unit := do
  raiseIf (∃ item ∈ resolved, item.tradingDay = none ∨
      item.selectedCalendarVersionId ≠ calendar.finalSession.selectedCalendarVersionId)
    (portfolioError "calendar date is ambiguous or version mismatch")
  let actual := resolved.filter SessionResolution.opens
  raiseIf (actual ≠ sequence ∨ actual ≠ [calendar.finalSession, calendar.nextSession])
    (portfolioError "next session is not immediately adjacent or month-end")
  resolved.forM fun item => raiseIf (item.unexplained = true) (portfolioError "explicit non-trading evidence required")
  [calendar.finalSession, calendar.nextSession].forM fun value =>
    raiseIf (value.eligible = false ∨ value.utcClose = none ∨ value.utcOpen = none)
      (portfolioError "eligible established trading session required")

/-- The sequence of sessions has the two sessions next to each other. -/
def checkSequence (calendar : RebalanceCalendar) (sequence : List SessionResolution) : Outcome Unit := do
  let final := calendar.finalSession
  raiseIf (sequence.length < 2) (portfolioError "authoritative calendar sequence required")
  let eligible := sequence.filter SessionResolution.eligible
  raiseIf (eligible ≠ sequence ∨ final ∉ eligible ∨ calendar.nextSession ∉ eligible)
    (portfolioError "calendar sequence contains missing or ambiguous sessions")
  raiseIf (eligible[eligible.idxOf final + 1]? ≠ some calendar.nextSession)
    (portfolioError "next session is not immediately adjacent")
  raiseIf (∃ item ∈ eligible, item.calendarId ≠ final.calendarId ∨
      item.selectedCalendarVersionId ≠ final.selectedCalendarVersionId)
    (portfolioError "calendar identity or version mismatch")
  raiseIf (∃ item ∈ eligible, item.localDate.month = final.localDate.month ∧
      final.localDate.key < item.localDate.key)
    (portfolioError "final session is not the final eligible monthly session")

/-- The calendar checks of `schedule_monthly_rebalance`: the release time and the two dates. -/
def calendarSessions (env : Environment) (sequence : List SessionResolution) (calendar : RebalanceCalendar)
    (decisionTime : Timestamp) : Outcome (Timestamp × String × String) := do
  let final := calendar.finalSession
  let next := calendar.nextSession
  let resolved ← resolveDates env calendar decisionTime
  checkResolved calendar sequence resolved
  let finalClose ← orRaise (portfolioError "eligible session timestamps required") final.utcClose
  let nextOpen ← orRaise (portfolioError "eligible session timestamps required") next.utcOpen
  checkSequence calendar sequence
  raiseIf (final.localDate.month = next.localDate.month)
    (portfolioError "next session must follow the month-end boundary")
  raiseIf (decisionTime.value < finalClose.value)
    (portfolioError "rebalance decision precedes final completed session")
  raiseIf (next.localDate.key ≤ final.localDate.key ∨ nextOpen.value ≤ decisionTime.value)
    (portfolioError "next-session release must be after decision")
  return (nextOpen, final.localDate.isoformat, next.localDate.isoformat)

/-! ## The call -/

/-- What the book's code calls, with the calendar checks over a given sequence of sessions. -/
def environment (env : PortfolioEnvironment RebalanceCalendar) (calendars : Environment)
    (sequence : RebalanceCalendar → List SessionResolution) : PortfolioEnvironment RebalanceCalendar :=
  { env with
    noCalendarInputs := fun calendar => calendar.calendarInputs.isEmpty
    sessions := fun calendar => calendarSessions calendars (sequence calendar) calendar }

/-- The arguments of `schedule_monthly_rebalance`. -/
structure Call where
  finalSession : SessionResolution
  nextSession : SessionResolution
  sessionSequence : List SessionResolution
  decisionTime : Timestamp
  preservedObligations : List String
  removedStrategies : List String := []
  calendarInputs : List CalendarInput := []
  commitments : Option (CommitmentBook RebalanceCalendar) := none
  oms : Option (SimulatedOms ℚ) := none
  ledger : Option (SimulationLedger ℚ) := none

/-- `schedule_monthly_rebalance`. A schedule inside the book is rebuilt with its own two
sessions for the sequence. -/
def scheduleMonthlyRebalance (env : PortfolioEnvironment RebalanceCalendar) (calendars : Environment) (call : Call) :
    Outcome (RebalanceSchedule RebalanceCalendar) := do
  raiseIf (call.calendarInputs = []) (insufficientEvidence "complete calendar resolver inputs required")
  let missing := insufficientEvidence "current obligations and reconciled holdings required"
  let commitments ← orRaise missing call.commitments
  let oms ← orRaise missing call.oms
  let ledger ← orRaise missing call.ledger
  ATB.scheduleMonthlyRebalance (environment env calendars fun _ => call.sessionSequence)
    (rebuildSchedule (environment env calendars fun calendar => [calendar.finalSession, calendar.nextSession]))
    commitments oms ledger ⟨call.calendarInputs, call.finalSession, call.nextSession⟩ call.decisionTime
    call.preservedObligations call.removedStrategies

end ATB.Rebalance
