import Runbook.Decimal.Layout

/-!
# Dates and their forms

Days are counted from the first one of 1970. Every fourth year is a leap year, but of those that end
a century only every fourth one. A form is a text in which per cent signs begin parts of the date
and the time.
-/

namespace Runbook.Program.Date

/-- A date. -/
structure Day where
  year : Int
  /-- Counted from one. -/
  month : Nat
  /-- Counted from one. -/
  day : Nat
deriving DecidableEq, Repr, Inhabited

/-- Whether a year is a leap year. -/
def isLeap (year : Int) : Bool := year % 4 == 0 && (year % 100 != 0 || year % 400 == 0)

/-- How many days of a year lie in front of a month that is counted from zero. -/
def daysBefore (year : Int) (month : Nat) : Nat :=
  let lengths := [31, if isLeap year then 29 else 28, 31, 30, 31, 30, 31, 31, 30, 31, 30, 31]
  (lengths.take month).sum

/-- How many leap years lie in front of a year, counted from some year far back. -/
def leapsBefore (year : Int) : Int := (year - 1) / 4 - (year - 1) / 100 + (year - 1) / 400

/-- The number of the first day of a year. -/
def firstOfYear (year : Int) : Int :=
  (year - 1970) * 365 + (leapsBefore year - leapsBefore 1970)

/-- The number of a day, given the number of the month and that of the day, which may lie outside of
the year and of the month. -/
def dayNumber (year month day : Int) : Int :=
  let months := year * 12 + (month - 1)
  let year := months / 12
  firstOfYear year + daysBefore year (months % 12).toNat + (day - 1)

/-- How many days 400 years have. -/
def daysOfCycle : Int := 146097

/-- The year of a day. Years have at most 366 days, and in 400 years that adds up to less than two
years. -/
def yearOf (number : Int) : Int :=
  let behind := number - firstOfYear 2000
  let guess := 2000 + behind / daysOfCycle * 400 + behind % daysOfCycle / 366
  ([guess, guess + 1, guess + 2].filter (firstOfYear · ≤ number)).getLastD guess

/-- The day of the year, counted from zero. -/
def dayOfYear (number : Int) : Nat := (number - firstOfYear (yearOf number)).toNat

/-- The date of a day. -/
def Day.ofNumber (number : Int) : Day :=
  let year := yearOf number
  let index := (number - firstOfYear year).toNat
  let months := (List.range 12).filter fun month => daysBefore year month ≤ index
  let month := months.getLastD 0
  ⟨year, month + 1, index - daysBefore year month + 1⟩

/-- The day of the week, counted from zero, which is Sunday. -/
def weekday (number : Int) : Nat := ((number + 4) % 7).toNat

/-- The number of the week in the year, if weeks begin with some day, and those in front of the
first such day are week zero. -/
def weekFrom (first : Nat) (number : Int) : Nat :=
  (dayOfYear number + 7 - (weekday number + 7 - first) % 7) / 7

/-- The year and the number of a week that begins with Monday, and that belongs to the year in which
most of its days lie. -/
def weekOf (number : Int) : Int × Nat :=
  let thursday := number - ((weekday number + 6) % 7 : Nat) + 3
  (yearOf thursday, dayOfYear thursday / 7 + 1)

/-- A zone: its name, and how many seconds its clocks are ahead. -/
structure Zone where
  name : String
  ahead : Int
deriving DecidableEq, Repr, Inhabited

/-- A point in time: seconds since the beginning of 1970, and parts of a second. -/
structure Moment where
  seconds : Int
  nanoseconds : Nat
deriving DecidableEq, Repr, Inhabited

/-! ## Forms of points in time -/

/-- The names of the days of a week. -/
def dayNames : List String :=
  ["Sunday", "Monday", "Tuesday", "Wednesday", "Thursday", "Friday", "Saturday"]

/-- The names of the months. -/
def monthNames : List String :=
  ["January", "February", "March", "April", "May", "June", "July", "August", "September",
    "October", "November", "December"]

/-- How a part of a form is written. -/
structure Layout where
  /-- What fills the part up, if that is not as usual: a blank, a zero, a plus sign in front of
  large numbers, or a minus sign for nothing. -/
  fill? : Option Char
  width? : Option Nat
  isUpper : Bool
  isTurned : Bool
deriving DecidableEq, Repr, Inhabited

namespace Layout

/-- The usual layout. -/
def usual : Layout := ⟨none, none, false, false⟩

/-- A name, with its letters as they should be, filled up in front. -/
def name (layout : Layout) (text : List Char) : List Char :=
  let text := if layout.isUpper then text.map Char.toUpper else text
  let gap := match layout.fill? with
    | some '-' => 0
    | _ => layout.width?.getD 0 - text.length
  let filler := if layout.fill? = some '0' ∨ layout.fill? = some '+' then '0' else ' '
  List.replicate gap filler ++ text

/-- Digits behind a sign, filled up to some width, which includes the sign. -/
def signed (layout : Layout) (fill : Char) (width : Nat) (sign digits : List Char) : List Char :=
  let width := layout.width?.getD width
  let gap := width - (sign.length + digits.length)
  match layout.fill?.getD fill with
  | '-' => sign ++ digits
  | '_' => List.replicate gap ' ' ++ sign ++ digits
  | _ => sign ++ List.replicate gap '0' ++ digits

/-- A number of some width. -/
def number (layout : Layout) (fill : Char) (width : Nat) (n : Int) : List Char :=
  let digits := (Decimal.digitText n.natAbs).toList
  let isLarge := width < digits.length || layout.width?.any (max width digits.length < ·)
  let sign := if n < 0 then ['-'] else if layout.fill? = some '+' ∧ isLarge then ['+'] else []
  layout.signed fill (width + if n < 0 then 1 else 0) sign digits

end Layout

/-- The digits of a difference between clocks, with colons in front of the last pairs. -/
def offsetDigits (colons : Nat) (n : Nat) : List Char :=
  let digits := (Decimal.digitText n).toList
  let digits := List.replicate (2 * colons + 1 - digits.length) '0' ++ digits
  let front := digits.take (digits.length - 2 * colons)
  let pairs := (List.range colons).map fun index =>
    ':' :: (digits.drop (digits.length - 2 * (colons - index))).take 2
  front ++ pairs.flatten

/-- The difference between the clocks of a zone and those of the first one, with some colons. -/
def offsetText (layout : Layout) (colons : Nat) (zone : Zone) : List Char :=
  let seconds := zone.ahead.natAbs
  let (hours, minutes, rest) := (seconds / 3600, seconds / 60 % 60, seconds % 60)
  let sign := [if zone.ahead < 0 then '-' else '+']
  match colons with
  | 0 => layout.signed '0' 5 sign (Decimal.digitText (hours * 100 + minutes)).toList
  | 1 => layout.signed '0' 6 sign (offsetDigits 1 (hours * 100 + minutes))
  | 2 => layout.signed '0' 9 sign (offsetDigits 2 (hours * 10000 + minutes * 100 + rest))
  | _ =>
    if rest != 0 then
      layout.signed '0' 9 sign (offsetDigits 2 (hours * 10000 + minutes * 100 + rest))
    else if minutes != 0 then layout.signed '0' 6 sign (offsetDigits 1 (hours * 100 + minutes))
    else layout.signed '0' 3 sign (Decimal.digitText hours).toList

/-- A moment in a zone, in parts. -/
structure Clock where
  moment : Moment
  zone : Zone
  day : Int
  date : Day
  second : Nat

/-- What clocks in a zone show. -/
def Clock.ofMoment (moment : Moment) (zone : Zone) : Clock :=
  let seconds := moment.seconds + zone.ahead
  let day := seconds / 86400
  ⟨moment, zone, day, Day.ofNumber day, (seconds % 86400).toNat⟩

namespace Clock

def hour (clock : Clock) : Nat := clock.second / 3600

/-- The hour as a clock shows it that counts to twelve. -/
def halfHour (clock : Clock) : Nat := (clock.hour + 11) % 12 + 1

def minute (clock : Clock) : Nat := clock.second / 60 % 60

end Clock

/-- The forms that letters stand for. -/
def longForms : List (Char × String) :=
  [('c', "%a %b %e %H:%M:%S %Y"), ('D', "%m/%d/%y"), ('x', "%m/%d/%y"), ('F', "%Y-%m-%d"),
    ('r', "%I:%M:%S %p"), ('R', "%H:%M"), ('T', "%H:%M:%S"), ('X', "%H:%M:%S")]

/-- A part of a form by its letter, if there is one. -/
def partText? (clock : Clock) (layout : Layout) (letter : Char) : Option (List Char) :=
  let turned := { layout with isUpper := layout.isUpper || layout.isTurned }
  let plain (width : Nat) (n : Int) : Option (List Char) := some (layout.number '0' width n)
  let dayName := (dayNames.getD (weekday clock.day) "").toList
  let monthName := (monthNames.getD (clock.date.month - 1) "").toList
  let half := if clock.hour < 12 then "am" else "pm"
  match letter with
  | '%' => some ['%']
  | 'a' => some (turned.name (dayName.take 3))
  | 'A' => some (turned.name dayName)
  | 'b' | 'h' => some (turned.name (monthName.take 3))
  | 'B' => some (turned.name monthName)
  | 'C' => plain 2 (clock.date.year / 100)
  | 'd' => plain 2 clock.date.day
  | 'e' => some (layout.number '_' 2 clock.date.day)
  | 'g' => plain 2 ((weekOf clock.day).1 % 100)
  | 'G' => plain 4 (weekOf clock.day).1
  | 'H' => plain 2 clock.hour
  | 'I' => plain 2 clock.halfHour
  | 'j' => plain 3 (dayOfYear clock.day + 1)
  | 'k' => some (layout.number '_' 2 clock.hour)
  | 'l' => some (layout.number '_' 2 clock.halfHour)
  | 'm' => plain 2 clock.date.month
  | 'M' => plain 2 clock.minute
  | 'n' => some ['\n']
  | 'N' =>
    let digits := (Decimal.digitText (10 ^ 9 + clock.moment.nanoseconds)).toList.drop 1
    let width := layout.width?.getD 9
    some (digits.take width ++ List.replicate (width - 9) '0')
  | 'p' =>
    some (layout.name (if layout.isTurned then half.toList else half.toList.map Char.toUpper))
  | 'P' => some (layout.name half.toList)
  | 'q' => plain 1 ((clock.date.month + 2) / 3)
  | 's' => plain 1 clock.moment.seconds
  | 'S' => plain 2 (clock.second % 60)
  | 't' => some ['\t']
  | 'u' => plain 1 ((weekday clock.day + 6) % 7 + 1)
  | 'U' => plain 2 (weekFrom 0 clock.day)
  | 'V' => plain 2 (weekOf clock.day).2
  | 'w' => plain 1 (weekday clock.day)
  | 'W' => plain 2 (weekFrom 1 clock.day)
  | 'y' => plain 2 (clock.date.year % 100)
  | 'Y' => plain 4 clock.date.year
  | 'Z' =>
    let name := clock.zone.name.toList
    some (layout.name (if layout.isTurned then name.map Char.toLower else name))
  | _ => none

/-- The flags and the width behind a per cent sign, and what stands behind them. -/
def readLayout : Layout → List Char → Layout × List Char
  | layout, [] => (layout, [])
  | layout, c :: rest =>
    if c = '^' then readLayout { layout with isUpper := true } rest
    else if c = '#' then readLayout { layout with isTurned := true } rest
    else if c = '-' ∨ c = '_' ∨ c = '0' ∨ c = '+' then
      readLayout { layout with fill? := some c } rest
    else
      let digits := (c :: rest).takeWhile Char.isDigit
      let width? := if digits.isEmpty then none
        else some (digits.foldl (fun n c => min 4096 (n * 10 + (c.toNat - 48))) 0)
      ({ layout with width? := width? }, (c :: rest).drop digits.length)

/-- Write a clock in a form. Forms in forms stand one level deep at most. -/
def write (clock : Clock) : (levels fuel : Nat) → List Char → List Char
  | _, 0, _ => []
  | _, _, [] => []
  | levels, fuel + 1, '%' :: rest =>
    let (layout, behind) := readLayout .usual rest
    let colons := (behind.takeWhile (· == ':')).length
    let named := behind.drop colons
    let modified := named.head?.any fun c => c == 'E' || c == 'O'
    let named := if modified then named.drop 1 else named
    match named with
    | [] => '%' :: rest
    | letter :: later =>
      let whole := '%' :: rest.take (rest.length - later.length)
      let part := if letter = 'z' then some (offsetText layout colons clock.zone)
        else if colons != 0 then none
        else match longForms.lookup letter, levels with
          | some form, levels + 1 => some (layout.name (write clock levels form.length form.toList))
          | _, _ => partText? clock layout letter
      part.getD whole ++ write clock levels fuel later
  | levels, fuel + 1, c :: rest => c :: write clock levels fuel rest

/-- A clock in a form. -/
def text (clock : Clock) (form : String) : String :=
  String.ofList (write clock 1 (form.length + 1) form.toList)

end Runbook.Program.Date
