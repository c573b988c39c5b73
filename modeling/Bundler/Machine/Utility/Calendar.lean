/-! Days and hours of instants, which are counted in seconds since the first of 1970. -/

namespace Bundler.Machine.Utility

def daysOf (year month day : Nat) : Int :=
  let y : Int := if month ≤ 2 then year - 1 else year
  let era := y / 400
  let yearOfEra := y - era * 400
  let shifted : Int := if 2 < month then month - 3 else month + 9
  let dayOfYear := (153 * shifted + 2) / 5 + day - 1
  let dayOfEra := yearOfEra * 365 + yearOfEra / 4 - yearOfEra / 100 + dayOfYear
  era * 146097 + dayOfEra - 719468

structure Moment where
  year : Int
  month : Nat
  day : Nat
  hour : Nat
  minute : Nat
  second : Nat
  deriving DecidableEq, Repr

namespace Moment

def ofSeconds (seconds : Int) : Moment :=
  let days := seconds / 86400
  let rest := (seconds % 86400).toNat
  let shifted := days + 719468
  let era := shifted / 146097
  let dayOfEra := shifted % 146097
  let yearOfEra := (dayOfEra - dayOfEra / 1460 + dayOfEra / 36524 - dayOfEra / 146096) / 365
  let dayOfYear := dayOfEra - (365 * yearOfEra + yearOfEra / 4 - yearOfEra / 100)
  let part := (5 * dayOfYear + 2) / 153
  let day := dayOfYear - (153 * part + 2) / 5 + 1
  let month := if part < 10 then part + 3 else part - 9
  { year := yearOfEra + era * 400 + (if month ≤ 2 then 1 else 0)
    month := month.toNat
    day := day.toNat
    hour := rest / 3600
    minute := rest / 60 % 60
    second := rest % 60 }

def days (moment : Moment) : Int :=
  daysOf moment.year.toNat moment.month moment.day

def weekday (moment : Moment) : Nat :=
  ((moment.days + 4) % 7).toNat

def dayOfYear (moment : Moment) : Nat :=
  (moment.days - daysOf moment.year.toNat 1 1).toNat + 1

end Moment

def monthNames : List String :=
  ["January", "February", "March", "April", "May", "June", "July", "August", "September",
    "October", "November", "December"]

def weekdayNames : List String :=
  ["Sunday", "Monday", "Tuesday", "Wednesday", "Thursday", "Friday", "Saturday"]

def shortName (name : String) : String :=
  String.ofList (name.toList.take 3)

def padded (width : Nat) (c : Char) (n : Nat) : String :=
  let digits := toString n
  String.ofList (List.replicate (width - digits.length) c) ++ digits

namespace Moment

def monthName (moment : Moment) : String :=
  (monthNames[moment.month - 1]?).getD ""

def weekdayName (moment : Moment) : String :=
  (weekdayNames[moment.weekday]?).getD ""

def dateText (moment : Moment) : String :=
  padded 4 '0' moment.year.toNat ++ "-" ++ padded 2 '0' moment.month ++ "-" ++
    padded 2 '0' moment.day

def clockText (moment : Moment) : String :=
  padded 2 '0' moment.hour ++ ":" ++ padded 2 '0' moment.minute ++ ":" ++
    padded 2 '0' moment.second

/-- A moment as a format shows it. `nanoseconds` counts from 1970. -/
def text (moment : Moment) (nanoseconds : Nat) : (fuel : Nat) → List Char → String
  | 0, _ => ""
  | fuel + 1, chars =>
      match chars with
      | '%' :: c :: rest =>
          let (flag?, c, rest) := match c, rest with
            | '-', c :: rest => (some '-', c, rest)
            | '_', c :: rest => (some '_', c, rest)
            | '^', c :: rest => (some '^', c, rest)
            | c, rest => (none, c, rest)
          let number (width : Nat) (blank : Char) (n : Nat) : String :=
            match flag? with
            | some '-' => toString n
            | some '_' => padded width ' ' n
            | _ => padded width blank n
          let short (name : String) : String :=
            if flag? = some '^' then (shortName name).toUpper else shortName name
          let twelve := (moment.hour + 11) % 12 + 1
          let nested (format : String) : String := text moment nanoseconds fuel format.toList
          let shown : String := match c with
            | 'Y' => number 4 '0' moment.year.toNat
            | 'y' => number 2 '0' (moment.year.toNat % 100)
            | 'C' => number 2 '0' (moment.year.toNat / 100)
            | 'm' => number 2 '0' moment.month
            | 'd' => number 2 '0' moment.day
            | 'e' => number 2 ' ' moment.day
            | 'j' => number 3 '0' moment.dayOfYear
            | 'H' => number 2 '0' moment.hour
            | 'k' => number 2 ' ' moment.hour
            | 'I' => number 2 '0' twelve
            | 'l' => number 2 ' ' twelve
            | 'M' => number 2 '0' moment.minute
            | 'S' => number 2 '0' moment.second
            | 'N' => padded 9 '0' (nanoseconds % 1000000000)
            | 's' => toString (nanoseconds / 1000000000)
            | 'p' => if moment.hour < 12 then "AM" else "PM"
            | 'P' => if moment.hour < 12 then "am" else "pm"
            | 'a' => short moment.weekdayName
            | 'A' => moment.weekdayName
            | 'b' | 'h' => short moment.monthName
            | 'B' => moment.monthName
            | 'u' => toString ((moment.weekday + 6) % 7 + 1)
            | 'w' => toString moment.weekday
            | 'q' => toString ((moment.month + 2) / 3)
            | 'F' => moment.dateText
            | 'T' => moment.clockText
            | 'R' => nested "%H:%M"
            | 'r' => nested "%I:%M:%S %p"
            | 'D' | 'x' => nested "%m/%d/%y"
            | 'X' => nested "%H:%M:%S"
            | 'c' => nested "%a %b %e %H:%M:%S %Y"
            | 'Z' => "UTC"
            | 'z' => "+0000"
            | 'n' => "\n"
            | 't' => "\t"
            | '%' => "%"
            | c => "%" ++ c.toString
          shown ++ text moment nanoseconds fuel rest
      | c :: rest => c.toString ++ text moment nanoseconds fuel rest
      | [] => ""

end Moment

/-! Reading. -/

def digits? (text : String) : Option Nat :=
  if !text.isEmpty && text.toList.all Char.isDigit then text.toNat? else none

def billion : Nat :=
  1000000000

def instant (year month day hour minute second : Nat) : Option Nat :=
  let days := daysOf year month day
  if 1 ≤ month && month ≤ 12 && (Moment.ofSeconds (days * 86400)).day = day && hour < 24 &&
      minute < 60 && second < 61 then
    some ((days * 86400 + hour * 3600 + minute * 60 + second).toNat * billion)
  else none

def unitSeconds? (name : String) : Option Int :=
  let singular := if name.toList.getLast? = some 's' then String.ofList name.toList.dropLast
    else name
  match singular with
  | "sec" | "second" => some 1
  | "min" | "minute" => some 60
  | "hour" => some 3600
  | "day" => some 86400
  | "week" => some 604800
  | "fortnight" => some 1209600
  | _ => none

/-- What is known of a date while it is read: the day and the second of the day, if they were given,
and how many seconds are to be added. -/
structure DateReading where
  day? : Option Nat := none
  clock? : Option Nat := none
  added : Int := 0

def DateReading.read (reading : DateReading) : List String → Option DateReading
  | [] => some reading
  | "now" :: rest | "today" :: rest | "utc" :: rest | "z" :: rest | "gmt" :: rest =>
      reading.read rest
  | "yesterday" :: rest => { reading with added := reading.added - 86400 }.read rest
  | "tomorrow" :: rest => { reading with added := reading.added + 86400 }.read rest
  | "midnight" :: rest => { reading with clock? := some 0 }.read rest
  | word :: unit :: "ago" :: rest => do
      let count ← signed? word
      let seconds ← unitSeconds? unit
      { reading with added := reading.added - count * seconds }.read rest
  | word :: unit :: rest =>
      match signed? word, unitSeconds? unit with
      | some count, some seconds =>
          { reading with added := reading.added + count * seconds }.read rest
      | _, _ => do (← single reading word).read (unit :: rest)
  | [word] => single reading word
where
  signed? (word : String) : Option Int :=
    match word.toList with
    | '+' :: digits => (digits? (String.ofList digits)).map Int.ofNat
    | '-' :: digits => (digits? (String.ofList digits)).map fun n => -(n : Int)
    | digits => (digits? (String.ofList digits)).map Int.ofNat
  single (reading : DateReading) (word : String) : Option DateReading := do
    if word.toList.contains ':' then
      let clock ← (word.splitOn ":").mapM digits?
      let (hour, minute, second) ← match clock with
        | [hour, minute] => some (hour, minute, 0)
        | [hour, minute, second] => some (hour, minute, second)
        | _ => none
      let time ← instant 1970 1 1 hour minute second
      return { reading with clock? := some (time / billion) }
    else
      let numbers ← match word.splitOn "-", word.splitOn "/" with
        | [year, month, day], _ => [year, month, day].mapM digits?
        | _, [month, day, year] => [year, month, day].mapM digits?
        | _, _ =>
            if word.length = 8 then
              let part (start count : Nat) : String :=
                String.ofList ((word.toList.drop start).take count)
              [part 0 4, part 4 2, part 6 2].mapM digits?
            else none
      match numbers with
      | [year, month, day] =>
          let time ← instant year month day 0 0 0
          return { reading with day? := some (time / billion) }
      | _ => none

def wordsOf : List String → List String
  | "+" :: number :: rest => ("+" ++ number) :: wordsOf rest
  | "-" :: number :: rest => ("-" ++ number) :: wordsOf rest
  | word :: rest =>
      match word.splitOn "T" with
      | [day, clock] =>
          if day.toList.head?.any Char.isDigit then
            let chars := clock.toList
            let clock := if chars.getLast? = some 'Z' then String.ofList chars.dropLast else clock
            day :: clock :: wordsOf rest
          else word.toLower :: wordsOf rest
      | _ => word.toLower :: wordsOf rest
  | [] => []

def readDate? (now : Nat) (text : String) : Option Nat :=
  match text.toList with
  | '@' :: rest => (digits? (String.ofList rest)).map (· * billion)
  | chars => do
      let words := wordsOf (((String.ofList chars).splitOn " ").filter (· ≠ ""))
      let reading ← DateReading.read {} words
      let isBare := words.isEmpty
      let seconds := now / billion
      let day := reading.day?.getD (seconds / 86400 * 86400)
      let clock := match reading.clock? with
        | some clock => clock
        | none => if reading.day?.isSome || isBare then 0 else seconds % 86400
      return (((day + clock : Nat) : Int) + reading.added).toNat * billion

end Bundler.Machine.Utility
