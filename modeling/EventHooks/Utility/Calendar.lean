import EventHooks.Number.FloatText
import EventHooks.Text.CharClass

/-!
# The calendar

Points in time are counted in microseconds from the beginning of 1970. A format shows one, and a
text tells one by a date, a time of day and shifts.
-/
namespace EventHooks.Calendar

/-- A point in time in microseconds. -/
abbrev Time := Int

/-- When the clock of the computer starts, in seconds since the beginning of 1970. -/
def clockStart : Nat := 1735689600

/-- The names of the days of a week from Sunday on. -/
def dayNames : List String :=
  ["Sunday", "Monday", "Tuesday", "Wednesday", "Thursday", "Friday", "Saturday"]

/-- The names of the months. -/
def monthNames : List String :=
  ["January", "February", "March", "April", "May", "June", "July", "August", "September",
    "October", "November", "December"]

/-! ## Dates -/

/-- The year, month and day of a day counted from the beginning of 1970. -/
def dateOfDay (day : Int) : Int × Nat × Nat :=
  let shifted := day + 719468
  let era := shifted.fdiv 146097
  let inEra := (shifted.fmod 146097).toNat
  let year := (inEra - inEra / 1460 + inEra / 36524 - inEra / 146096) / 365
  let inYear := inEra - (365 * year + year / 4 - year / 100)
  let month := (5 * inYear + 2) / 153
  let dayOfMonth := inYear - (153 * month + 2) / 5 + 1
  let month := if month < 10 then month + 3 else month - 9
  (era * 400 + (year : Int) + (if month ≤ 2 then 1 else 0), month, dayOfMonth)

/-- The day of a date, counted from the beginning of 1970. -/
def dayOfDate (year : Int) (month day : Nat) : Int :=
  let year := if month ≤ 2 then year - 1 else year
  let era := year.fdiv 400
  let inEra := (year.fmod 400).toNat
  let inYear := (153 * (if 2 < month then month - 3 else month + 9) + 2) / 5 + day - 1
  era * 146097 + ((inEra * 365 + inEra / 4 - inEra / 100 + inYear : Nat) : Int) - 719468

/-- Whether there is a date. -/
def isDate (year : Int) (month day : Nat) : Bool :=
  1 ≤ month && month ≤ 12 && 1 ≤ day &&
    dateOfDay (dayOfDate year month day) == (year, month, day)

/-- The day of the week, from Sunday on. -/
def weekday (day : Int) : Nat :=
  ((day + 4).fmod 7).toNat

/-! ## Showing a point in time -/

/-- A field of a format: its text, and how it is filled up. -/
structure Field where
  text : String
  width : Nat := 0
  fill : Char := '0'

/-- A field with a number of some digits. -/
def numberField (width : Nat) (value : Int) (fill : Char := '0') : Field :=
  ⟨toString value, width, fill⟩

/-- A field of a format as its letter names it. -/
def field? (time : Time) (letter : Char) : Option Field :=
  let seconds := time.fdiv 1000000
  let day := seconds.fdiv 86400
  let (year, month, dayOfMonth) := dateOfDay day
  let ofDay := seconds.fmod 86400
  let hour := ofDay.fdiv 3600
  let hour12 := if hour.fmod 12 = 0 then 12 else hour.fmod 12
  let dayName := dayNames.getD (weekday day) ""
  let monthName := monthNames.getD (month - 1) ""
  let yearDay := day - dayOfDate year 1 1
  let thursday := day - ((weekday day + 6) % 7 : Nat) + 3
  let weekYear := (dateOfDay thursday).1
  let number (width : Nat) (value : Int) : Option Field := some (numberField width value)
  let blank (width : Nat) (value : Int) : Option Field := some (numberField width value ' ')
  let text (text : String) : Option Field := some { text := text, fill := ' ' }
  match letter with
  | 'Y' => some ⟨toString year, 0, '0'⟩
  | 'C' => number 2 (year.fdiv 100)
  | 'y' => number 2 (year.fmod 100)
  | 'G' => some ⟨toString weekYear, 0, '0'⟩
  | 'g' => number 2 (weekYear.fmod 100)
  | 'm' => number 2 month
  | 'q' => some ⟨toString ((month + 2) / 3), 0, '0'⟩
  | 'd' => number 2 dayOfMonth
  | 'e' => blank 2 dayOfMonth
  | 'H' => number 2 hour
  | 'k' => blank 2 hour
  | 'I' => number 2 hour12
  | 'l' => blank 2 hour12
  | 'M' => number 2 ((ofDay.fmod 3600).fdiv 60)
  | 'S' => number 2 (ofDay.fmod 60)
  | 's' => some ⟨toString seconds, 0, '0'⟩
  | 'j' => number 3 (yearDay + 1)
  | 'U' => number 2 ((yearDay + 7 - weekday day).fdiv 7)
  | 'W' => number 2 ((yearDay + 7 - ((weekday day + 6) % 7 : Nat)).fdiv 7)
  | 'V' => number 2 ((thursday - dayOfDate weekYear 1 1).fdiv 7 + 1)
  | 'u' => some ⟨toString (if weekday day = 0 then 7 else weekday day), 0, '0'⟩
  | 'w' => some ⟨toString (weekday day), 0, '0'⟩
  | 'a' => text (String.ofList (dayName.toList.take 3))
  | 'A' => text dayName
  | 'b' | 'h' => text (String.ofList (monthName.toList.take 3))
  | 'B' => text monthName
  | 'p' => text (if hour < 12 then "AM" else "PM")
  | 'P' => text (if hour < 12 then "am" else "pm")
  | 'Z' => text "UTC"
  | 'z' => text "+0000"
  | 'n' => text "\n"
  | 't' => text "\t"
  | '%' => text "%"
  | _ => none

/-- The format that a letter stands for. -/
def shorthand? (letter : Char) : Option String :=
  match letter with
  | 'F' => some "%Y-%m-%d"
  | 'T' | 'X' => some "%H:%M:%S"
  | 'R' => some "%H:%M"
  | 'D' | 'x' => some "%m/%d/%y"
  | 'r' => some "%I:%M:%S %p"
  | 'c' => some "%a %b %e %H:%M:%S %Y"
  | _ => none

/-- The fractions of a second, in some digits. -/
def fractionText (time : Time) (width : Nat) : String :=
  let micros := (time.fmod 1000000).toNat
  let digits := Nat.toDigits 10 (micros * 1000)
  let all := List.replicate (9 - digits.length) '0' ++ digits
  String.ofList (all.take (if width = 0 then 9 else width))

/-- A field as the flags and the width before its letter say. -/
def flagged (flags : List Char) (width : Nat) (field : Field) : String :=
  let text := if flags.contains '^' then field.text.map Char.toUpper else field.text
  let fill := match (flags.filter fun c => c == '_' || c == '0').getLast? with
    | some '_' => ' '
    | some _ => '0'
    | none => field.fill
  let width := if flags.contains '-' then 0 else if width = 0 then field.width else width
  String.ofList (List.replicate (width - text.length) fill) ++ text

/-- A point in time as a format shows it. -/
def shown (time : Time) : Nat → List Char → String
  | 0, _ | _, [] => ""
  | fuel + 1, '%' :: rest =>
    let flags := rest.takeWhile "-_0^#+".toList.contains
    let behind := rest.drop flags.length
    let digits := behind.takeWhile (·.isDigit)
    let width := FloatText.digitsValue 10 digits
    match behind.drop digits.length with
    | [] => "%" ++ String.ofList rest
    | ':' :: 'z' :: rest => "+00:00" ++ shown time fuel rest
    | letter :: rest =>
      let piece := match letter, shorthand? letter, field? time letter with
        | 'N', _, _ => fractionText time width
        | _, some format, _ =>
          flagged flags width ⟨shown time fuel format.toList, 0, ' '⟩
        | _, none, some field => flagged flags width field
        | _, none, none => String.ofList ('%' :: flags ++ digits ++ [letter])
      piece ++ shown time fuel rest
  | fuel + 1, c :: rest => String.singleton c ++ shown time fuel rest

/-- A point in time as a format shows it. -/
def text (time : Time) (format : String) : String :=
  shown time (2 * format.length + 40) format.toList

/-! ## Reading a point in time -/

/-- A token of a text that tells a point in time. -/
inductive Token
  | number (digits : List Char)
  | word (word : String)
  | mark (c : Char)

/-- The tokens of a text. -/
def tokens (chars : List Char) : List Token :=
  let kind (c : Char) : Nat := if c.isDigit then 0 else if c.isAlpha then 1 else 2
  let runs := chars.splitBy fun first second => kind first == kind second && kind first != 2
  runs.flatMap fun run =>
    match run with
    | c :: _ =>
      if c.isDigit then [.number run]
      else if c.isAlpha then [.word (String.ofList (run.map Char.toLower))]
      else if CharClass.isSpace c || c == ',' then []
      else [.mark c]
    | [] => []

/-- What a text tells: a date, a time of day in microseconds, a day of the week, and shifts by
months, days and microseconds. -/
structure Reading where
  date? : Option (Int × Nat × Nat) := none
  clock? : Option Int := none
  weekday? : Option Nat := none
  months : Int := 0
  days : Int := 0
  micros : Int := 0

/-- The shift by some number of units. -/
def Reading.shift (reading : Reading) (count : Int) (unit : String) : Option Reading :=
  let unit := if unit.endsWith "s" then (unit.dropEnd 1).toString else unit
  let micros (seconds : Int) : Option Reading :=
    some { reading with micros := reading.micros + count * seconds * 1000000 }
  match unit with
  | "year" => some { reading with months := reading.months + 12 * count }
  | "month" => some { reading with months := reading.months + count }
  | "fortnight" => some { reading with days := reading.days + 14 * count }
  | "week" => some { reading with days := reading.days + 7 * count }
  | "day" => some { reading with days := reading.days + count }
  | "hour" => micros 3600
  | "minute" | "min" => micros 60
  | "second" | "sec" => micros 1
  | _ => none

/-- The place of a name in a list, of which three letters are enough. -/
def nameIndex? (names : List String) (word : String) : Option Nat :=
  let word := word.toList
  if word.length < 3 then none
  else names.findIdx? fun name =>
    let name := name.toList.map Char.toLower
    name == word || name.take 3 == word

/-- A number that digits write. -/
def valueOf (digits : List Char) : Nat :=
  FloatText.digitsValue 10 digits

/-- The hour that one of a half of the day is. -/
def hourOf? (hour : Nat) (half : String) : Option Nat :=
  if hour = 0 || 12 < hour then none
  else if half == "am" then some (hour % 12)
  else if half == "pm" then some (hour % 12 + 12)
  else none

/-- The microseconds that digits behind a point write. -/
def fractionOf (digits : List Char) : Nat :=
  valueOf ((digits ++ List.replicate 6 '0').take 6)

/-- A reading with a time of day. -/
def Reading.withClock? (reading : Reading) (hour minute second micros : Nat) : Option Reading :=
  if reading.clock?.isSome || 23 < hour || 59 < minute || 60 < second then none
  else
    let seconds := hour * 3600 + minute * 60 + second
    some { reading with clock? := some ((seconds * 1000000 + micros : Nat) : Int) }

/-- A reading with a date. -/
def Reading.withDate? (reading : Reading) (year : Int) (month day : Nat) : Option Reading :=
  if reading.date?.isSome || !isDate year month day then none
  else some { reading with date? := some (year, month, day) }

/-- The year that digits write: two of them stand for one near the present. -/
def yearOf (digits : List Char) : Int :=
  let value := valueOf digits
  if digits.length ≤ 2 then if value < 69 then value + 2000 else value + 1900 else value

/-- Takes in the shift of a time zone, in hours and minutes. -/
def Reading.withZone (reading : Reading) (isEast : Bool) (digits minutes : List Char) : Reading :=
  let value := valueOf digits
  let minutes := if digits.length ≤ 2 then value * 60 + valueOf minutes
    else value / 100 * 60 + value % 100
  let shift : Int := (minutes * 60000000 : Nat)
  { reading with micros := if isEast then reading.micros - shift else reading.micros + shift }

/-- Takes in what stands behind a time of day: the half of the day, or a time zone. -/
def afterClock (reading : Reading) (hour minute second micros : Nat) :
    List Token → Option (Reading × List Token)
  | .word half :: rest =>
    match hourOf? hour half with
    | some hour => (reading.withClock? hour minute second micros).map (·, rest)
    | none => (reading.withClock? hour minute second micros).map (·, .word half :: rest)
  | .mark sign :: .number digits :: .mark ':' :: .number minutes :: rest =>
    (reading.withClock? hour minute second micros).map fun reading =>
      (reading.withZone (sign == '+') digits minutes, rest)
  | .mark sign :: .number digits :: .word unit :: rest =>
    (reading.withClock? hour minute second micros).map
      (·, .mark sign :: .number digits :: .word unit :: rest)
  | .mark sign :: .number digits :: rest =>
    (reading.withClock? hour minute second micros).map fun reading =>
      (reading.withZone (sign == '+') digits [], rest)
  | rest => (reading.withClock? hour minute second micros).map (·, rest)

/-- Takes in a shift, which the word "ago" turns back. -/
def shifted (reading : Reading) (count : Int) (unit : String) (rest : List Token) :
    Option (Reading × List Token) :=
  match rest with
  | .word "ago" :: rest => (reading.shift (-count) unit).map (·, rest)
  | rest => (reading.shift count unit).map (·, rest)

/-- Takes in what a word starts. -/
def readWord (present : Int) (reading : Reading) (word : String) (rest : List Token) :
    Option (Reading × List Token) :=
  match word, rest with
  | "now", rest | "today", rest | "z", rest | "utc", rest | "gmt", rest | "t", rest =>
    some (reading, rest)
  | "yesterday", rest => (reading.shift (-1) "day").map (·, rest)
  | "tomorrow", rest => (reading.shift 1 "day").map (·, rest)
  | "next", .word unit :: rest => (reading.shift 1 unit).map (·, rest)
  | "last", .word unit :: rest => (reading.shift (-1) unit).map (·, rest)
  | "this", .word unit :: rest => (reading.shift 0 unit).map (·, rest)
  | word, rest =>
    match nameIndex? monthNames word, nameIndex? dayNames word, rest with
    | some month, _, .number day :: .number year :: rest =>
      if year.length = 4 then
        (reading.withDate? (yearOf year) (month + 1) (valueOf day)).map (·, rest)
      else (reading.withDate? present (month + 1) (valueOf day)).map (·, .number year :: rest)
    | some month, _, .number day :: rest =>
      (reading.withDate? present (month + 1) (valueOf day)).map (·, rest)
    | none, some weekday, rest => some ({ reading with weekday? := some weekday }, rest)
    | _, _, rest => shifted reading 1 word rest

/-- Takes in the tokens of a text. `present` is the year in which it is read. -/
def readTokens (present : Int) : Nat → Reading → List Token → Option Reading
  | 0, _, _ => none
  | _, reading, [] => some reading
  | fuel + 1, reading, found => do
    let date (year : Int) (month day : List Char) (rest : List Token) :
        Option (Reading × List Token) :=
      (reading.withDate? year (valueOf month) (valueOf day)).map (·, rest)
    let (reading, rest) ← match found with
      | .number year :: .mark '-' :: .number month :: .mark '-' :: .number day :: rest =>
        date (yearOf year) month day rest
      | .number month :: .mark '/' :: .number day :: .mark '/' :: .number year :: rest =>
        if 4 ≤ month.length then date (yearOf month) day year rest
        else date (yearOf year) month day rest
      | .number month :: .mark '/' :: .number day :: rest => date present month day rest
      | .number hour :: .mark ':' :: .number minute :: .mark ':' :: .number second ::
          .mark '.' :: .number digits :: rest =>
        afterClock reading (valueOf hour) (valueOf minute) (valueOf second) (fractionOf digits) rest
      | .number hour :: .mark ':' :: .number minute :: .mark ':' :: .number second :: rest =>
        afterClock reading (valueOf hour) (valueOf minute) (valueOf second) 0 rest
      | .number hour :: .mark ':' :: .number minute :: rest =>
        afterClock reading (valueOf hour) (valueOf minute) 0 0 rest
      | .number first :: .word word :: rest =>
        match nameIndex? monthNames word, hourOf? (valueOf first) word, rest with
        | some month, _, .number year :: rest =>
          (reading.withDate? (yearOf year) (month + 1) (valueOf first)).map (·, rest)
        | some month, _, rest =>
          (reading.withDate? present (month + 1) (valueOf first)).map (·, rest)
        | none, some hour, rest => (reading.withClock? hour 0 0 0).map (·, rest)
        | none, none, rest => shifted reading (valueOf first) word rest
      | .number digits :: rest =>
        if digits.length = 8 then
          date (valueOf (digits.take 4)) ((digits.drop 4).take 2) (digits.drop 6) rest
        else if digits.length ≤ 2 then (reading.withClock? (valueOf digits) 0 0 0).map (·, rest)
        else if digits.length = 4 then
          (reading.withClock? (valueOf (digits.take 2)) (valueOf (digits.drop 2)) 0 0).map (·, rest)
        else none
      | .mark sign :: .number digits :: .word unit :: rest =>
        let count : Int := valueOf digits
        if sign == '+' then shifted reading count unit rest
        else if sign == '-' then shifted reading (-count) unit rest
        else none
      | .word word :: rest => readWord present reading word rest
      | _ => none
    readTokens present fuel reading rest

/-- The point in time that is read at another one. -/
def Reading.resolve (reading : Reading) (now : Time) : Time :=
  let today := now.fdiv 86400000000
  let (year, month, day) := reading.date?.getD (dateOfDay today)
  let count := year * 12 + ((month : Int) - 1) + reading.months
  let first := dayOfDate (count.fdiv 12) ((count.fmod 12).toNat + 1) 1
  let start := first + (day : Int) - 1 + reading.days
  let days := match reading.weekday? with
    | some wanted => start + ((wanted + 7 - weekday start) % 7 : Nat)
    | none => start
  let isDated := reading.date?.isSome || reading.weekday?.isSome
  let clock := reading.clock?.getD (if isDated then 0 else now.fmod 86400000000)
  days * 86400000000 + clock + reading.micros

/-- The seconds since the beginning of 1970 that digits write, in microseconds. -/
def countOf? (chars : List Char) : Option Time := do
  let (isBefore, chars) := match chars with
    | '-' :: chars => (true, chars)
    | chars => (false, chars)
  let whole := chars.takeWhile (·.isDigit)
  let behind := chars.drop whole.length
  if whole.isEmpty || (behind != [] && (behind.head? != some '.' || behind.length < 2)) then none
  if !(behind.drop 1).all (·.isDigit) then none
  let micros : Int := (valueOf whole * 1000000 + fractionOf (behind.drop 1) : Nat)
  return if isBefore then -micros else micros

/-- The point in time that a text tells when it is read at another one. -/
def read? (now : Time) (text : String) : Option Time :=
  match text.toList with
  | '@' :: rest => countOf? rest
  | chars =>
    if chars.all CharClass.isSpace then some (now - now.fmod 86400000000)
    else
      let present := (dateOfDay (now.fdiv 86400000000)).1
      let found := tokens chars
      (readTokens present (found.length + 1) {} found).map (·.resolve now)

end EventHooks.Calendar
