/-!
# Moments

A moment is a time that a clock showed. The clock keeps the time of a zone, and a zone has its
clocks put forward and back, so a clock may show one time twice. Moments of one zone are compared by
what their clocks showed and any others as instants. They are written as their clocks showed them,
in the Gregorian calendar.
-/

namespace Reckoner

/-- What a clock shows. -/
structure ClockTime where
  /-- The year. -/
  year : Nat
  /-- The month, from one on. -/
  month : Nat
  /-- The day of the month, from one on. -/
  day : Nat
  /-- The hour. -/
  hour : Nat
  /-- The minute. -/
  minute : Nat
  /-- The second. -/
  second : Nat
  /-- The microsecond. -/
  microsecond : Nat
  deriving DecidableEq, Repr

/-- A change of the clocks of a zone. -/
structure Zone.Change where
  /-- When the clocks are changed: the microseconds of universal time since the first of March of
  the year zero. -/
  instant : Int
  /-- The microseconds that the clocks are ahead of universal time from then on. -/
  ahead : Int
  deriving DecidableEq, Repr

/-- A zone, whose clocks are changed together. -/
structure Zone where
  /-- The name. -/
  name : String
  /-- The microseconds that the clocks are ahead of universal time before they are changed. -/
  ahead : Int
  /-- The changes of the clocks, in order. -/
  changes : List Zone.Change
  deriving DecidableEq, Repr

/-- What there is to know of a clock besides what it shows. -/
structure Dial where
  /-- The zone whose time the clock shows. -/
  zone : Zone
  /-- The clock shows this time for the second time. -/
  again : Bool
  deriving DecidableEq, Repr

/-- What was read off a clock, whose zone may be unknown. -/
structure ClockReading where
  /-- What the clock showed. -/
  clock : ClockTime
  /-- The clock showed it for the second time. -/
  again : Bool
  /-- The zone, if it is known. -/
  zone? : Option Zone
  deriving DecidableEq, Repr

/-- A time that a clock showed. -/
structure Moment where
  /-- What the clock showed: the microseconds since it would have shown the first of March of the
  year zero. -/
  wall : Int
  /-- The clock. -/
  dial : Dial
  deriving DecidableEq, Repr

namespace ClockTime

/-- The days since the first of March of the year zero. Years are counted from March on, so that
leap days come last. -/
def dayNumber (year month day : Nat) : Nat :=
  let marchYear := if month < 3 then year - 1 else year
  let marchMonth := (month + 9) % 12
  365 * marchYear + marchYear / 4 - marchYear / 100 + marchYear / 400 +
    (153 * marchMonth + 2) / 5 + (day - 1)

/-- The year, month and day of a number of days. -/
def dateOf (days : Nat) : Nat × Nat × Nat :=
  let era := days / 146097
  let dayOfEra := days % 146097
  let yearOfEra := (dayOfEra - dayOfEra / 1460 + dayOfEra / 36524 - dayOfEra / 146096) / 365
  let dayOfYear := dayOfEra - (365 * yearOfEra + yearOfEra / 4 - yearOfEra / 100)
  let marchMonth := (5 * dayOfYear + 2) / 153
  let month := if marchMonth < 10 then marchMonth + 3 else marchMonth - 9
  let marchYear := 400 * era + yearOfEra
  (if month < 3 then marchYear + 1 else marchYear, month,
    dayOfYear - (153 * marchMonth + 2) / 5 + 1)

/-- The microseconds since the first of March of the year zero. -/
def microseconds (clock : ClockTime) : Nat :=
  let hours := 24 * dayNumber clock.year clock.month clock.day + clock.hour
  let seconds := 60 * (60 * hours + clock.minute) + clock.second
  1000000 * seconds + clock.microsecond

/-- What a clock shows after so many microseconds. -/
def ofMicroseconds (count : Nat) : ClockTime :=
  let seconds := count / 1000000
  let minutes := seconds / 60
  let hours := minutes / 60
  let (year, month, day) := dateOf (hours / 24)
  ⟨year, month, day, hours % 24, minutes % 60, seconds % 60, count % 1000000⟩

/-- A number with zeros in front, up to a width. -/
def padded (width value : Nat) : String :=
  let digits := Nat.toDigits 10 value
  String.ofList (List.replicate (width - digits.length) '0' ++ digits)

/-- The date and the time of day, with microseconds when there are some. -/
def text (clock : ClockTime) : String :=
  padded 4 clock.year ++ "-" ++ padded 2 clock.month ++ "-" ++ padded 2 clock.day ++ "T" ++
    padded 2 clock.hour ++ ":" ++ padded 2 clock.minute ++ ":" ++ padded 2 clock.second ++
    (if clock.microsecond = 0 then "" else "." ++ padded 6 clock.microsecond)

end ClockTime

namespace Zone

/-- The zone whose clocks are always so many microseconds ahead of universal time. -/
def fixed (ahead : Int) : Zone := ⟨"", ahead, []⟩

/-- The zone of universal time. -/
def universal : Zone := fixed 0

/-- The microseconds that clocks which show a time are ahead of universal time, through the changes
to come. A change moves the clocks from one time to another. It counts for the times from the later
of the two on, and from the earlier on when the clocks show them again. -/
def aheadThrough (wall : Int) (again : Bool) (ahead : Int) : List Change → Int
  | [] => ahead
  | change :: later =>
    if wall < change.instant + (if again then min ahead change.ahead else max ahead change.ahead)
    then ahead
    else aheadThrough wall again change.ahead later

/-- The microseconds that the clocks of a zone are ahead of universal time when they show a time. -/
def aheadAt (zone : Zone) (wall : Int) (again : Bool) : Int :=
  aheadThrough wall again zone.ahead zone.changes

end Zone

/-- The microseconds of so many minutes. -/
def Moment.ofMinutes (minutes : Int) : Int := 60000000 * minutes

/-- A number is the dial of a clock that is always so many minutes ahead of universal time. -/
instance (minutes : Nat) : OfNat Dial minutes := ⟨⟨.fixed (Moment.ofMinutes minutes), false⟩⟩

/-- The moment of a reading. A clock of an unknown zone shows universal time. -/
def ClockReading.moment (reading : ClockReading) : Moment :=
  ⟨reading.clock.microseconds, ⟨reading.zone?.getD .universal, reading.again⟩⟩

namespace Moment

/-- The moment that a clock showed which is always so many minutes ahead, or of unknown offset. -/
def ofClock (clock : ClockTime) (offset? : Option Int) : Moment :=
  ClockReading.moment ⟨clock, false, offset?.map fun offset => .fixed (ofMinutes offset)⟩

/-- The microseconds that the clock was ahead of universal time. -/
def offset (moment : Moment) : Int := moment.dial.zone.aheadAt moment.wall moment.dial.again

/-- The microseconds of universal time since the first of March of the year zero. -/
def instant (moment : Moment) : Int := moment.wall - moment.offset

/-- What the clock showed. -/
def clock (moment : Moment) : ClockTime := .ofMicroseconds moment.wall.toNat

/-- The same instant, as shown in universal time. -/
def universal (moment : Moment) : Moment := ⟨moment.instant, 0⟩

/-! ### Comparison -/

/-- The clock leaves out the time or shows it twice: it would have been otherwise ahead had it shown
the time for the other time. -/
def isDoubtful (moment : Moment) : Bool :=
  moment.dial.zone.aheadAt moment.wall (!moment.dial.again) != moment.offset

/-- One moment counts as earlier than another. -/
def isEarlier (left right : Moment) : Bool :=
  if left.dial.zone = right.dial.zone then left.wall < right.wall else left.instant < right.instant

/-- Two moments count as the same. A doubtful one is never the same as one of another zone. -/
def isSame (left right : Moment) : Bool :=
  if left.dial.zone = right.dial.zone then left.wall == right.wall
  else left.instant == right.instant && !left.isDoubtful && !right.isDoubtful

/-! ### Texts -/

/-- The text of microseconds that a clock is ahead: their sign, hours and minutes, and the seconds
and microseconds when there are some. -/
def offsetText (offset : Int) : String :=
  let seconds := offset.natAbs / 1000000
  let minutes := seconds / 60
  (if offset < 0 then "-" else "+") ++ ClockTime.padded 2 (minutes / 60) ++ ":" ++
    ClockTime.padded 2 (minutes % 60) ++
    (if offset.natAbs % 60000000 = 0 then "" else ":" ++ ClockTime.padded 2 (seconds % 60)) ++
    (if offset.natAbs % 1000000 = 0 then "" else
      "." ++ ClockTime.padded 6 (offset.natAbs % 1000000))

/-- The text of a moment: what the clock showed, and how far it was ahead. -/
def text (moment : Moment) : String := moment.clock.text ++ offsetText moment.offset

end Moment

end Reckoner
