import Runbook.Decimal.Reading
import Runbook.Program.Date.Format

/-!
# Descriptions of points in time

A description is divided into words, which have meanings of their own before they are put together.
-/

namespace Runbook.Program.Date

/-! ## The words of dates

What the words and numbers of a text mean that describes a point in time. -/

/-- What is counted in a distance between points in time. -/
inductive Measure where
  | months
  | days
  | seconds
deriving DecidableEq, Repr, Inhabited

/-- What a word means. -/
inductive Word where
  /-- One half of the day. -/
  | half (isSecond : Bool)
  | month (number : Nat)
  | weekday (number : Nat)
  /-- A unit of time. -/
  | measure (measure : Measure) (count : Nat)
  /-- A day near this one. -/
  | shift (days : Int)
  | ordinal (number : Int)
  /-- Into the past or into the future. -/
  | direction (sign : Int)
  | zone (ahead : Int)
  /-- The zone of clocks that are one hour further ahead in summer. -/
  | summer
  | separator
deriving DecidableEq, Repr, Inhabited

/-- A number, with its sign if it has one, and parts of one behind a point. -/
structure Numeral where
  negative? : Option Bool
  value : Nat
  /-- How many digits stand in front of the point. -/
  digits : Nat
  nanoseconds? : Option Nat
deriving DecidableEq, Repr, Inhabited

/-- The number with its sign. -/
def Numeral.int (numeral : Numeral) : Int :=
  if numeral.negative? = some true then -numeral.value else numeral.value

/-- A piece of a description. -/
inductive Token where
  | number (numeral : Numeral)
  | word (word : Word)
  | mark (c : Char)
deriving DecidableEq, Repr, Inhabited

/-- The units of time. -/
def measures : List (String × Word) :=
  [("YEAR", .measure .months 12), ("MONTH", .measure .months 1),
    ("FORTNIGHT", .measure .days 14), ("WEEK", .measure .days 7), ("DAY", .measure .days 1),
    ("HOUR", .measure .seconds 3600), ("MINUTE", .measure .seconds 60),
    ("MIN", .measure .seconds 60), ("SECOND", .measure .seconds 1), ("SEC", .measure .seconds 1)]

/-- The words for places in time that depend on the present one. -/
def relatives : List (String × Word) :=
  [("TOMORROW", .shift 1), ("YESTERDAY", .shift (-1)), ("TODAY", .shift 0), ("NOW", .shift 0),
    ("LAST", .ordinal (-1)), ("THIS", .ordinal 0), ("NEXT", .ordinal 1), ("FIRST", .ordinal 1),
    ("THIRD", .ordinal 3), ("FOURTH", .ordinal 4), ("FIFTH", .ordinal 5), ("SIXTH", .ordinal 6),
    ("SEVENTH", .ordinal 7), ("EIGHTH", .ordinal 8), ("NINTH", .ordinal 9), ("TENTH", .ordinal 10),
    ("ELEVENTH", .ordinal 11), ("TWELFTH", .ordinal 12), ("AGO", .direction (-1)),
    ("HENCE", .direction 1)]

/-- The names of zones, each with the hours by which its clocks are ahead, twice. -/
def zones : List (String × Int) :=
  [("GMT", 0), ("UT", 0), ("UTC", 0), ("WET", 0), ("WEST", 2), ("BST", 2), ("ART", -6), ("BRT", -6),
    ("BRST", -4), ("NST", -7), ("NDT", -5), ("AST", -8), ("ADT", -6), ("CLT", -8), ("CLST", -6),
    ("EST", -10), ("EDT", -8), ("CST", -12), ("CDT", -10), ("MST", -14), ("MDT", -12), ("PST", -16),
    ("PDT", -14), ("AKST", -18), ("AKDT", -16), ("HST", -20), ("HAST", -20), ("HADT", -18),
    ("SST", -24), ("WAT", 2), ("CET", 2), ("CEST", 4), ("MET", 2), ("MEZ", 2), ("MEST", 4),
    ("MESZ", 4), ("EET", 4), ("EEST", 6), ("CAT", 4), ("SAST", 4), ("EAT", 6), ("MSK", 6),
    ("MSD", 8), ("IST", 11), ("SGT", 16), ("KST", 18), ("JST", 18), ("GST", 20), ("NZST", 24),
    ("NZDT", 26)]

/-- The hours by which clocks are ahead in zones that have one letter. -/
def letterZone? (letter : Char) : Option Int :=
  if 'A' ≤ letter ∧ letter ≤ 'I' then some (letter.toNat - 64 : Nat)
  else if 'K' ≤ letter ∧ letter ≤ 'M' then some (letter.toNat - 65 : Nat)
  else if 'N' ≤ letter ∧ letter ≤ 'Y' then some (-(letter.toNat - 77 : Nat))
  else if letter = 'Z' then some 0
  else none

/-- The names of months and days, some of them cut short in ways of their own. -/
def namedDays : List (String × Word) :=
  (monthNames.zipIdx.map fun (name, index) => (name.map Char.toUpper, Word.month (index + 1)))
    ++ (dayNames.zipIdx.map fun (name, index) => (name.map Char.toUpper, Word.weekday index))
    ++ [("SEPT", .month 9), ("TUES", .weekday 2), ("WEDNES", .weekday 3), ("THUR", .weekday 4),
      ("THURS", .weekday 4)]

/-- What a word means, if it means anything. -/
def wordOf? (chars : List Char) : Option Word :=
  let upper := chars.map Char.toUpper
  let text := String.ofList upper
  let isShort := upper.length = 3 || (upper.length = 4 && upper.getLast? = some '.')
  let named := namedDays.find? fun (name, _) =>
    if isShort then name.toList.take 3 = upper.take 3 else name = text
  let zone? (text : String) : Option Word :=
    (zones.lookup text).map fun half => Word.zone (half * 1800)
  let singular := if upper.getLast? = some 'S' then String.ofList upper.dropLast else text
  if text = "AM" ∨ text = "A.M." then some (.half false)
  else if text = "PM" ∨ text = "P.M." then some (.half true)
  else
    named.map (·.2)
      |>.orElse fun () => zone? text
      |>.orElse fun () => if text = "DST" then some .summer else none
      |>.orElse fun () => measures.lookup text
      |>.orElse fun () => measures.lookup singular
      |>.orElse fun () => relatives.lookup text
      |>.orElse fun () => match upper with
        | ['T'] => some .separator
        | [letter] => (letterZone? letter).map fun hours => .zone (hours * 3600)
        | _ => none
      |>.orElse fun () => zone? (String.ofList (upper.filter (· != '.')))

/-- What stands behind a comment that has begun, which may hold others. -/
def behindComment : (depth : Nat) → List Char → List Char
  | 0, rest => rest
  | _, [] => []
  | depth + 1, '(' :: rest => behindComment (depth + 2) rest
  | depth + 1, ')' :: rest => behindComment depth rest
  | depth + 1, _ :: rest => behindComment (depth + 1) rest

/-- Read a number behind its sign, with the parts of one behind a point or a comma. -/
def readNumeral (negative? : Option Bool) (chars : List Char) : Token × List Char :=
  let digits := chars.takeWhile Char.isDigit
  let rest := chars.drop digits.length
  let parts := match rest with
    | c :: rest => if c = '.' ∨ c = ',' then rest.takeWhile Char.isDigit else []
    | [] => []
  let nanoseconds? := if parts.isEmpty then none
    else Decimal.readNatural (10 ^ 9) ((parts ++ List.replicate 9 '0').take 9)
  let rest := if parts.isEmpty then rest else rest.drop (parts.length + 1)
  match Decimal.readNatural (2 ^ 63 - 1) digits with
  | some value => (.number ⟨negative?, value, digits.length, nanoseconds?⟩, rest)
  | none => (.mark '?', rest)

/-- Divide a description into its pieces. -/
def tokens : (fuel : Nat) → List Char → List Token
  | 0, _ => []
  | _, [] => []
  | fuel + 1, c :: rest =>
    if c = ' ' ∨ ('\t' ≤ c ∧ c ≤ '\r') then tokens fuel rest
    else if c.isDigit then
      let (token, rest) := readNumeral none (c :: rest)
      token :: tokens fuel rest
    else if c = '-' ∨ c = '+' then
      let behind := rest.dropWhile fun c => c == ' ' || ('\t' ≤ c && c ≤ '\r')
      if behind.head?.any Char.isDigit then
        let (token, rest) := readNumeral (some (c == '-')) behind
        token :: tokens fuel rest
      else tokens fuel behind
    else if c.isAlpha then
      let letters := (c :: rest).takeWhile fun c => c.isAlpha || c == '.'
      let token := match wordOf? letters with
        | some word => Token.word word
        | none => .mark '?'
      token :: tokens fuel ((c :: rest).drop letters.length)
    else if c = '(' then tokens fuel (behindComment 1 rest)
    else .mark c :: tokens fuel rest

/-! ## Descriptions

A description names a day, a time of the day, and a zone, each at most once, and distances from
there. What it leaves out is as it is at present. -/

/-- What is read of a description. -/
structure Description where
  /-- The year, and how many digits it was written with. -/
  year? : Option (Int × Nat)
  month : Int
  day : Int
  hour : Int
  minute : Int
  second : Int
  nanoseconds : Nat
  /-- The half of the day that the hour is counted in. -/
  isSecondHalf? : Option Bool
  weekday : Nat
  /-- Which of the days with that name is meant. -/
  ordinal : Int
  ahead? : Option Int
  dates : Nat
  times : Nat
  weekdays : Nat
  zones : Nat
  isMoved : Bool
  months : Int
  days : Int
  seconds : Int
  parts : Int
deriving Inhabited

/-- A description of the present. -/
def Description.present (clock : Clock) : Description :=
  { year? := some (clock.date.year, 0)
    month := clock.date.month
    day := clock.date.day
    hour := clock.hour
    minute := clock.minute
    second := (clock.second % 60 : Nat)
    nanoseconds := clock.moment.nanoseconds
    isSecondHalf? := none
    weekday := 0
    ordinal := 0
    ahead? := none
    dates := 0
    times := 0
    weekdays := 0
    zones := 0
    isMoved := false
    months := 0
    days := 0
    seconds := 0
    parts := 0 }

namespace Description

/-- Add a date. -/
def addDate (description : Description) (year? : Option (Int × Nat)) (month day : Int) :
    Description :=
  { description with
    year? := year?.orElse fun () => description.year?
    month := month
    day := day
    dates := description.dates + 1 }

/-- Add a time of the day. -/
def addTime (description : Description) (hour minute : Int) (second : Numeral)
    (isSecondHalf? : Option Bool) : Description :=
  { description with
    hour := hour
    minute := minute
    second := second.value
    nanoseconds := second.nanoseconds?.getD 0
    isSecondHalf? := isSecondHalf?
    times := description.times + 1 }

/-- Add a zone. -/
def addZone (description : Description) (ahead : Int) : Description :=
  { description with ahead? := some ahead, zones := description.zones + 1 }

/-- Add a day of the week. -/
def addWeekday (description : Description) (ordinal : Int) (weekday : Nat) : Description :=
  { description with
    ordinal := ordinal
    weekday := weekday
    weekdays := description.weekdays + 1 }

/-- Add a distance. -/
def addDistance (description : Description) (measure : Measure) (count : Int) (parts : Int) :
    Description :=
  let moved := { description with isMoved := true }
  match measure with
  | .months => { moved with months := moved.months + count }
  | .days => { moved with days := moved.days + count }
  | .seconds => { moved with seconds := moved.seconds + count, parts := moved.parts + parts }

/-- Add a number that stands alone: a year, a date without marks in it, or a time. -/
def addNumber (description : Description) (numeral : Numeral) : Description :=
  let yearIsMissing := description.year?.all (·.2 == 0)
  let value : Int := numeral.value
  if description.dates != 0 && yearIsMissing && !description.isMoved
    && (description.times != 0 || 2 < numeral.digits) then
    { description with year? := some (value, numeral.digits) }
  else if 4 < numeral.digits then
    description.addDate (some (value / 10000, numeral.digits - 4)) (value / 100 % 100) (value % 100)
  else if numeral.digits ≤ 2 then description.addTime value 0 default none
  else description.addTime (value / 100) (value % 100) default none

end Description

/-- How far clocks are ahead that differ by hours and minutes, which may stand behind a colon. -/
def aheadOf? (hours : Numeral) (minutes? : Option Nat) : Option Int :=
  let minutes : Nat := match minutes? with
    | some minutes => hours.value * 60 + minutes
    | none =>
      let value := if hours.digits ≤ 2 then hours.value * 100 else hours.value
      value / 100 * 60 + value % 100
  if 24 * 60 < minutes then none
  else some ((if hours.negative? = some true then -1 else 1) * (minutes * 60 : Nat))

/-- The year that digits stand for. -/
def yearNumber (numeral : Numeral) : Int × Nat := (numeral.value, numeral.digits)

/-- A step of reading. -/
abbrev Step := Option (Description × List Token)

/-- Read a zone that is written as a difference, if there is one. -/
def readOffset (description : Description) : List Token → Step
  | .number ⟨some negative, value, digits, none⟩ :: .mark ':' :: .number ⟨none, minutes, _, none⟩
      :: rest => do
    return (description.addZone (← aheadOf? ⟨some negative, value, digits, none⟩ (some minutes)),
      rest)
  | .number ⟨some negative, value, digits, none⟩ :: rest => do
    return (description.addZone (← aheadOf? ⟨some negative, value, digits, none⟩ none), rest)
  | rest => some (description, rest)

/-- Read a distance behind its number, and the direction behind it. -/
def readDistance (description : Description) (count : Int) (parts : Int) (measure : Measure)
    (weight : Nat) : List Token → Step
  | .word (.direction sign) :: rest =>
    some (description.addDistance measure (count * weight * sign) (parts * sign), rest)
  | rest => some (description.addDistance measure (count * weight) parts, rest)

/-- Read what may stand behind the minutes and seconds of a time. -/
def readTimeEnd (description : Description) (hour minute : Nat) (second : Numeral) :
    List Token → Step
  | .word (.half isSecond) :: rest =>
    some (description.addTime hour minute second (some isSecond), rest)
  | rest => readOffset (description.addTime hour minute second none) rest

/-- Read what stands behind the hour and a colon. -/
def readTime (description : Description) (hour : Nat) : List Token → Step
  | .number ⟨none, minute, _, none⟩ :: .mark ':' :: .number ⟨none, value, digits, nanoseconds?⟩
      :: rest =>
    readTimeEnd description hour minute ⟨none, value, digits, nanoseconds?⟩ rest
  | .number ⟨none, minute, _, none⟩ :: rest => readTimeEnd description hour minute default rest
  | _ => none

/-- Read what stands behind a number without a sign. -/
def readNumbered (description : Description) (numeral : Numeral) : List Token → Step
  | .word (.half isSecond) :: rest =>
    some (description.addTime numeral.value 0 default (some isSecond), rest)
  | .mark ':' :: rest => readTime description numeral.value rest
  | .mark '/' :: .number ⟨none, second, _, none⟩ :: .mark '/' ::
      .number ⟨none, third, thirdDigits, none⟩ :: rest =>
    if 4 ≤ numeral.digits then
      some (description.addDate (some (yearNumber numeral)) second third, rest)
    else some (description.addDate (some (third, thirdDigits)) numeral.value second, rest)
  | .mark '/' :: .number ⟨none, second, _, none⟩ :: rest =>
    some (description.addDate none numeral.value second, rest)
  | .word (.month month) :: .number ⟨some true, year, digits, none⟩ :: rest =>
    some (description.addDate (some (year, digits)) month numeral.value, rest)
  | .word (.month month) :: .number ⟨none, year, digits, none⟩ :: rest =>
    some (description.addDate (some (year, digits)) month numeral.value, rest)
  | .word (.month month) :: rest => some (description.addDate none month numeral.value, rest)
  | .number ⟨some true, month, _, none⟩ :: .number ⟨some true, day, _, none⟩ :: rest =>
    let dated := description.addDate (some (yearNumber numeral)) month day
    match rest with
    | .word .separator :: .number ⟨none, hour, _, none⟩ :: .mark ':' :: rest =>
      readTime dated hour rest
    | .word .separator :: .number ⟨none, hour, _, none⟩ :: .number ⟨some negative, value, digits,
        none⟩ :: rest =>
      readOffset (dated.addTime hour 0 default none)
        (.number ⟨some negative, value, digits, none⟩ :: rest)
    | .word .separator :: _ => none
    | rest => some (dated, rest)
  | .number ⟨some negative, value, _, none⟩ :: .word (.measure measure weight) :: rest =>
    readDistance (description.addNumber numeral) (if negative then -value else value) 0 measure
      weight rest
  | .number ⟨some negative, value, digits, none⟩ :: rest =>
    readOffset (description.addTime numeral.value 0 default none)
      (.number ⟨some negative, value, digits, none⟩ :: rest)
  | .word (.measure measure weight) :: rest =>
    readDistance description numeral.value 0 measure weight rest
  | .word (.weekday weekday) :: rest =>
    some (description.addWeekday numeral.value weekday, rest)
  | rest => some (description.addNumber numeral, rest)

/-- Read what may stand behind the name of a zone. -/
def readZoned (description : Description) (ahead : Int) : List Token → Step
  | .number ⟨some negative, value, _, none⟩ :: .word (.measure measure weight) :: rest =>
    readDistance (description.addZone ahead) (if negative then -value else value) 0 measure weight
      rest
  | .number ⟨some negative, value, digits, none⟩ :: .mark ':' ::
      .number ⟨none, minutes, _, none⟩ :: rest => do
    let more ← aheadOf? ⟨some negative, value, digits, none⟩ (some minutes)
    return (description.addZone (ahead + more), rest)
  | .number ⟨some negative, value, digits, none⟩ :: rest => do
    let more ← aheadOf? ⟨some negative, value, digits, none⟩ none
    return (description.addZone (ahead + more), rest)
  | .word .summer :: rest => some (description.addZone (ahead + 3600), rest)
  | rest => some (description.addZone ahead, rest)

/-- Read one part of a description. -/
def readItem (description : Description) : List Token → Step
  | .number ⟨none, value, digits, none⟩ :: rest =>
    readNumbered description ⟨none, value, digits, none⟩ rest
  | .number numeral :: .word (.measure measure weight) :: rest =>
    let parts : Int := numeral.nanoseconds?.getD 0
    if numeral.nanoseconds?.isSome && (measure != .seconds || weight != 1) then none
    else
      readDistance description numeral.int (if numeral.negative? = some true then -parts else parts)
        measure weight rest
  | .word (.month month) :: .number ⟨some true, day, _, none⟩ ::
      .number ⟨some true, year, digits, none⟩ :: rest =>
    some (description.addDate (some (year, digits)) month day, rest)
  | .word (.month month) :: .number ⟨none, day, _, none⟩ :: .mark ',' ::
      .number ⟨none, year, digits, none⟩ :: rest =>
    some (description.addDate (some (year, digits)) month day, rest)
  | .word (.month month) :: .number ⟨none, day, _, none⟩ :: rest =>
    some (description.addDate none month day, rest)
  | .word (.weekday weekday) :: .mark ',' :: rest | .word (.weekday weekday) :: rest =>
    some (description.addWeekday 0 weekday, rest)
  | .word (.ordinal number) :: .word (.weekday weekday) :: rest =>
    some (description.addWeekday number weekday, rest)
  | .word (.ordinal number) :: .word (.measure measure weight) :: rest =>
    readDistance description number 0 measure weight rest
  | .word (.measure measure weight) :: rest => readDistance description 1 0 measure weight rest
  | .word (.shift days) :: rest => some (description.addDistance .days days 0, rest)
  | .word (.zone ahead) :: rest => readZoned description ahead rest
  | .word .separator :: rest => readZoned description (-25200) rest
  | _ => none

/-- Read all parts of a description. -/
def readItems : (fuel : Nat) → Description → List Token → Option Description
  | _, description, [] => some description
  | 0, _, _ => none
  | fuel + 1, description, rest => do
    let (description, rest) ← readItem description rest
    readItems fuel description rest

namespace Description

/-- The year. One of two digits lies near the present. -/
def year (description : Description) : Int :=
  match description.year? with
  | some (year, 2) => if year < 69 then year + 2000 else year + 1900
  | some (year, _) => year
  | none => 0

/-- The hour of the day, if there is such an hour. -/
def dayHour? (description : Description) : Option Int :=
  let hour := description.hour
  match description.isSecondHalf? with
  | none => if 0 ≤ hour ∧ hour < 24 then some hour else none
  | some isSecond =>
    if hour < 1 ∨ 12 < hour then none
    else some (hour % 12 + if isSecond then 12 else 0)

/-- The point in time that is described, if there is one. -/
def moment? (description : Description) (zone : Zone) : Option Moment :=
  let isTimed := description.times != 0
    || (description.isMoved && description.dates == 0 && description.weekdays == 0)
  let hour? := if isTimed then description.dayHour? else some 0
  match hour? with
  | none => none
  | some hour =>
    let (minute, second, nanoseconds) : Int × Int × Nat :=
      if isTimed then (description.minute, description.second, description.nanoseconds)
      else (0, 0, 0)
    let day := dayNumber description.year description.month description.day
    let date := Day.ofNumber day
    if 1 < description.times ∨ 1 < description.dates ∨ 1 < description.weekdays
      ∨ 1 < description.zones ∨ date.day ≠ description.day ∨ date.month ≠ description.month
      ∨ 59 < minute ∨ 59 < second then none
    else
      let named := description.weekdays != 0 && description.dates == 0
      let distance := ((description.weekday : Int) - Date.weekday day + 7) % 7
      let weeks := description.ordinal
        - if 0 < description.ordinal && distance != 0 then 1 else 0
      let day := if named then day + distance + 7 * weeks else day
      let date := Day.ofNumber day
      let day := dayNumber date.year (date.month + description.months) (date.day + description.days)
      let ahead := description.ahead?.getD zone.ahead
      let parts : Int := nanoseconds + description.parts
      some ⟨day * 86400 + hour * 3600 + minute * 60 + second - ahead + description.seconds
        + parts / 1000000000, (parts % 1000000000).toNat⟩

end Description

/-- The point in time that a text describes, at some present time in some zone. -/
def readMoment (now : Moment) (zone : Zone) (text : String) : Option Moment :=
  match tokens (text.length + 1) text.toList with
  | .mark '@' :: rest =>
    match rest with
    | [.number numeral] =>
      match numeral.nanoseconds? with
      | none | some 0 => some ⟨numeral.int, 0⟩
      | some parts =>
        if numeral.negative? = some true then some ⟨numeral.int - 1, 10 ^ 9 - parts⟩
        else some ⟨numeral.int, parts⟩
    | _ => none
  | rest => do
    let description ← readItems (rest.length + 1) (.present (.ofMoment now zone)) rest
    description.moment? zone

end Runbook.Program.Date
