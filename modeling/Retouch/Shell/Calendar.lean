/-
  Days of the calendar, and texts of moments.

  A moment is a number of seconds from the start of the year 1970 on, all in universal time.  Years
  have 365 or 366 days, so a cycle of four hundred years has 146097; a year is taken to start in
  March, so that the day that is left out in most of them is its last one.
-/
import Retouch.Text.Octets

namespace Retouch.Shell.Calendar

/-- A day of the calendar. -/
structure Date where
  year : Int
  month : Nat
  day : Nat
deriving Repr, DecidableEq

/-- The number of a day, from the first one of the year 1970 on. -/
def Date.number (d : Date) : Int :=
  let y := if d.month ≤ 2 then d.year - 1 else d.year
  let cycle := y.fdiv 400
  let yearOfCycle := (y - cycle * 400).toNat
  let dayOfYear := (153 * ((d.month + 9) % 12) + 2) / 5 + d.day - 1
  let dayOfCycle := yearOfCycle * 365 + yearOfCycle / 4 - yearOfCycle / 100 + dayOfYear
  cycle * 146097 + dayOfCycle - 719468

/-- The day with a number. -/
def dateOf (n : Int) : Date :=
  let n := n + 719468
  let cycle := n.fdiv 146097
  let dayOfCycle := (n - cycle * 146097).toNat
  let yearOfCycle := (dayOfCycle - dayOfCycle / 1460 + dayOfCycle / 36524 - dayOfCycle / 146096) / 365
  let dayOfYear := dayOfCycle - (365 * yearOfCycle + yearOfCycle / 4 - yearOfCycle / 100)
  let m := (5 * dayOfYear + 2) / 153
  let month := if m < 10 then m + 3 else m - 9
  { year := cycle * 400 + yearOfCycle + (if month ≤ 2 then 1 else 0)
    month := month
    day := dayOfYear - (153 * m + 2) / 5 + 1 }

/-- The number of days in a month. -/
def daysIn (year : Int) (month : Nat) : Nat :=
  if month = 2 then
    if year % 4 = 0 && (year % 100 != 0 || year % 400 = 0) then 29 else 28
  else if [4, 6, 9, 11].contains month then 30
  else 31

/-- A moment in its parts. -/
structure Moment where
  seconds : Int
  nanos : Nat := 0

namespace Moment

/-- The number of the day. -/
def dayNumber (m : Moment) : Int := m.seconds.fdiv 86400

/-- The day. -/
def date (m : Moment) : Date := dateOf m.dayNumber

/-- The second of the day. -/
def second (m : Moment) : Nat := (m.seconds - m.dayNumber * 86400).toNat

/-- The day of the week, Sunday being the first, from zero on. -/
def weekday (m : Moment) : Nat := ((m.dayNumber + 4) % 7).toNat

/-- The day of the year, from zero on. -/
def yearDay (m : Moment) : Nat := (m.dayNumber - (Date.mk m.date.year 1 1).number).toNat

/-- The week of the year that weeks with a Monday count, and that year. -/
def week (m : Moment) : Int × Nat :=
  let monday := (m.weekday + 6) % 7
  let thursday := dateOf (m.dayNumber - monday + 3)
  let day := (thursday.number - (Date.mk thursday.year 1 1).number).toNat
  (thursday.year, day / 7 + 1)

end Moment

/-- The names of days. -/
def dayNames : List String :=
  ["Sunday", "Monday", "Tuesday", "Wednesday", "Thursday", "Friday", "Saturday"]

/-- The names of months. -/
def monthNames : List String :=
  ["January", "February", "March", "April", "May", "June", "July", "August", "September", "October",
    "November", "December"]

/-! ## Texts of moments -/

/-- How a part of a text is filled and changed. -/
structure Filling where
  flag : Option Char := none
  width : Option Nat := none
  upper : Bool := false
  swap : Bool := false

namespace Filling

/-- A text without digits. -/
def text (f : Filling) (t : Octets) : Octets :=
  let t := if f.upper then t.map Char.toUpper else t
  let pad := if f.flag = some '0' then '0' else ' '
  List.replicate (f.width.getD 0 - t.length) pad ++ t

/-- A number, which is filled to a width by `pad` as long as no flag says otherwise. -/
def number (f : Filling) (pad : Char) (width : Nat) (n : Int) : Octets :=
  let digits := Text.ofNat n.natAbs
  let sign : Octets := if n < 0 then ['-'] else []
  match f.flag with
  | some '-' => sign ++ digits
  | flag =>
    let pad := match flag with | some '_' => ' ' | some '0' | some '+' => '0' | _ => pad
    let fill := List.replicate (max width (f.width.getD 0) - digits.length - sign.length) pad
    if pad = ' ' then fill ++ sign ++ digits else sign ++ fill ++ digits

end Filling

/-- The parts into which some letters are taken apart. -/
def composed (c : Char) : Option String :=
  match c with
  | 'c' => some "%a %b %e %H:%M:%S %Y"
  | 'D' | 'x' => some "%m/%d/%y"
  | 'F' => some "%Y-%m-%d"
  | 'r' => some "%I:%M:%S %p"
  | 'R' => some "%H:%M"
  | 'T' | 'X' => some "%H:%M:%S"
  | _ => none

/-- The text of a part of a moment. -/
def part? (m : Moment) (f : Filling) (c : Char) : Option Octets :=
  let d := m.date
  let hour := m.second / 3600
  let hour12 := if hour % 12 = 0 then 12 else hour % 12
  let number (pad : Char) (width : Nat) (n : Int) : Option Octets := some (f.number pad width n)
  let name (names : List String) (i : Nat) (short : Bool) : Option Octets :=
    let t := (names[i]?.getD "").toList
    let f := if f.swap then { f with upper := true } else f
    some (f.text (if short then t.take 3 else t))
  match c with
  | 'a' => name dayNames m.weekday true
  | 'A' => name dayNames m.weekday false
  | 'b' | 'h' => name monthNames (d.month - 1) true
  | 'B' => name monthNames (d.month - 1) false
  | 'C' => number '0' 2 (d.year.fdiv 100)
  | 'd' => number '0' 2 d.day
  | 'e' => number ' ' 2 d.day
  | 'g' => number '0' 2 (m.week.1 % 100)
  | 'G' => number '0' 4 m.week.1
  | 'H' => number '0' 2 hour
  | 'I' => number '0' 2 hour12
  | 'j' => number '0' 3 (m.yearDay + 1)
  | 'k' => number ' ' 2 hour
  | 'l' => number ' ' 2 hour12
  | 'm' => number '0' 2 d.month
  | 'M' => number '0' 2 (m.second / 60 % 60)
  | 'n' => some ['\n']
  | 'N' =>
    let digits := Text.ofNat m.nanos
    let all := List.replicate (9 - digits.length) '0' ++ digits
    some (match f.width with
      | some w => all.take w ++ List.replicate (w - 9) '0'
      | none => if f.flag = some '-' then Text.dropEndWhile (· == '0') all else all)
  | 'p' =>
    let t := (if hour < 12 then "AM" else "PM").toList
    some (f.text (if f.swap then t.map Char.toLower else t))
  | 'P' => some (f.text (if hour < 12 then "am" else "pm").toList)
  | 'q' => number '0' 1 ((d.month - 1) / 3 + 1)
  | 's' => number '0' 1 m.seconds
  | 'S' => number '0' 2 (m.second % 60)
  | 't' => some ['\t']
  | 'u' => number '0' 1 (if m.weekday = 0 then 7 else m.weekday)
  | 'U' => number '0' 2 ((m.yearDay + 7 - m.weekday) / 7)
  | 'V' => number '0' 2 m.week.2
  | 'w' => number '0' 1 m.weekday
  | 'W' => number '0' 2 ((m.yearDay + 7 - (m.weekday + 6) % 7) / 7)
  | 'y' => number '0' 2 (d.year % 100)
  | 'Y' => number '0' 4 d.year
  | 'z' => some "+0000".toList
  | 'Z' => some (f.text (if f.swap then "utc" else "UTC").toList)
  | '%' => some ['%']
  | _ => none

/-- The flags and the width in front of a letter, and what follows. -/
def readFilling : (fuel : Nat) → Filling → Octets → Filling × Octets
  | 0, f, t => (f, t)
  | fuel + 1, f, t =>
    match t with
    | c :: r =>
      if "-_0+".toList.contains c then readFilling fuel { f with flag := some c } r
      else if c = '^' then readFilling fuel { f with upper := true } r
      else if c = '#' then readFilling fuel { f with swap := true } r
      else
        let digits := t.takeWhile Char.isDigit
        if digits.isEmpty then (f, t)
        else ({ f with width := some (Text.digitsValue digits) }, t.drop digits.length)
    | [] => (f, t)

/-- A moment by a format; `depth` bounds formats in formats, `fuel` the length. -/
def format (m : Moment) : (depth : Nat) → Octets → Octets
  | 0, t => t
  | depth + 1, t => go depth (t.length + 1) t
where
  /-- Goes over the format. -/
  go (depth : Nat) : (fuel : Nat) → Octets → Octets
    | 0, _ => []
    | _, [] => []
    | fuel + 1, '%' :: t =>
      let (f, r) := readFilling (t.length + 1) {} t
      match r with
      | ':' :: 'z' :: r => "+00:00".toList ++ go depth fuel r
      | ':' :: ':' :: 'z' :: r => "+00:00:00".toList ++ go depth fuel r
      | c :: r =>
        match composed c, part? m f c with
        | some inner, _ => f.text (format m depth inner.toList) ++ go depth fuel r
        | none, some s => s ++ go depth fuel r
        | none, none => '%' :: t.take (t.length - r.length) ++ go depth fuel r
      | [] => '%' :: t
    | fuel + 1, c :: t => c :: go depth fuel t

/-- A moment by a format. -/
def strftime (m : Moment) (t : Octets) : Octets := format m 3 t

/-! ## Moments of texts -/

/-- What is known of a moment so far: a day, a second of the day, what is added in days, months and
    seconds, and how far the clock of a place is ahead. -/
structure Draft where
  date : Option Date := none
  second : Option Nat := none
  months : Int := 0
  days : Int := 0
  seconds : Int := 0
  ahead : Int := 0

/-- The hours, minutes and seconds of a text such as `12:30:05`. -/
def readClock? (t : Octets) : Option Nat := do
  let parts := ((t.takeWhile (· != '.')).splitOnP (· == ':')).map (Text.natBelow? 100)
  match parts with
  | [some h, some m] => if h < 24 ∧ m < 60 then some (h * 3600 + m * 60) else none
  | [some h, some m, some s] => if h < 24 ∧ m < 60 ∧ s < 61 then some (h * 3600 + m * 60 + s) else none
  | _ => none

/-- A day, if there is such a one. -/
def checked? (year : Int) (month day : Nat) : Option Date :=
  if 1 ≤ month ∧ month ≤ 12 ∧ 1 ≤ day ∧ day ≤ daysIn year month then some ⟨year, month, day⟩ else none

/-- The month that a text names. -/
def month? (t : Octets) : Option Nat :=
  let low := Text.toAsciiLower t
  (monthNames.findIdx? fun n =>
    let n := Text.toAsciiLower n.toList
    n == low || (low.length = 3 && low.isPrefixOf n)).map (· + 1)

/-- The day of a text such as `2020-02-29`, `02/29/2020` or `20200229`. -/
def readDay? (t : Octets) : Option Date :=
  match t.splitOnP (· == '-') with
  | [y, m, d] => do
    checked? (← Text.natBelow? 1000000 y) (← Text.natBelow? 100 m) (← Text.natBelow? 100 d)
  | _ =>
    match t.splitOnP (· == '/') with
    | [m, d, y] => do
      checked? (← Text.natBelow? 1000000 y) (← Text.natBelow? 100 m) (← Text.natBelow? 100 d)
    | _ =>
      if t.length = 8 ∧ t.all Char.isDigit then
        checked? (Text.digitsValue (t.take 4)) (Text.digitsValue ((t.drop 4).take 2))
          (Text.digitsValue (t.drop 6))
      else none

/-- How far ahead the clock of a place is, from a text such as `+0100` or `-05:30`. -/
def readAhead? (t : Octets) : Option Int :=
  match t with
  | sign :: r =>
    if sign ≠ '+' ∧ sign ≠ '-' then none
    else
      let digits := r.filter (· != ':')
      if !digits.all Char.isDigit then none
      else
        let n : Option Nat :=
          match digits.length with
          | 2 => some (Text.digitsValue digits * 3600)
          | 4 => some (Text.digitsValue (digits.take 2) * 3600 + Text.digitsValue (digits.drop 2) * 60)
          | _ => none
        n.map fun n => if sign = '-' then -(n : Int) else n
  | [] => none

/-- A whole number with a sign. -/
def signed? (t : Octets) : Option Int :=
  match t with
  | '+' :: r => (Text.natBelow? (Nat.pow 2 62) r).map Int.ofNat
  | '-' :: r => (Text.natBelow? (Nat.pow 2 62) r).map fun n => -(n : Int)
  | _ => (Text.natBelow? (Nat.pow 2 62) t).map Int.ofNat

/-- The draft with a number of units added. -/
def Draft.add? (d : Draft) (n : Int) (unit : Octets) : Option Draft :=
  let low := Text.toAsciiLower unit
  let one := (Text.dropSuffix? ['s'] low).getD low
  match String.ofList one with
  | "sec" | "second" => some { d with seconds := d.seconds + n }
  | "min" | "minute" => some { d with seconds := d.seconds + 60 * n }
  | "hour" => some { d with seconds := d.seconds + 3600 * n }
  | "day" => some { d with days := d.days + n }
  | "week" => some { d with days := d.days + 7 * n }
  | "fortnight" => some { d with days := d.days + 14 * n }
  | "month" => some { d with months := d.months + n }
  | "year" => some { d with months := d.months + 12 * n }
  | _ => none

/-- Reads the words of a text into a draft; `fuel` bounds their number. -/
def readWords (today : Date) : (fuel : Nat) → List Octets → Draft → Option Draft
  | 0, _, d => some d
  | _, [], d => some d
  | fuel + 1, w :: ws, d =>
    let low := String.ofList (Text.toAsciiLower w)
    match low, ws with
    | "now", _ | "today", _ => readWords today fuel ws d
    | "utc", _ | "gmt", _ | "z", _ => readWords today fuel ws d
    | "tomorrow", _ => readWords today fuel ws { d with days := d.days + 1 }
    | "yesterday", _ => readWords today fuel ws { d with days := d.days - 1 }
    | "ago", _ =>
      readWords today fuel ws { d with months := -d.months, days := -d.days, seconds := -d.seconds }
    | "next", unit :: rest => do readWords today fuel rest (← d.add? 1 unit)
    | "last", unit :: rest => do readWords today fuel rest (← d.add? (-1) unit)
    | "+", n :: rest => readWords today fuel (('+' :: n) :: rest) d
    | "-", n :: rest => readWords today fuel (('-' :: n) :: rest) d
    | _, _ =>
      if (dayNames.any fun n => low.toList.take 3 == Text.toAsciiLower (n.toList.take 3)) &&
          !d.date.isNone then readWords today fuel ws d
      else
        match readDay? w, readClock? w, month? w with
        | some date, _, _ => readWords today fuel ws { d with date := some date }
        | none, some s, _ => readWords today fuel ws { d with second := some s }
        | none, none, some m =>
          match ws with
          | day :: year :: rest => do
            let day := (Text.dropSuffix? [','] day).getD day
            match Text.natBelow? 32 day, Text.natBelow? 10000 year with
            | some n, some y => readWords today fuel rest { d with date := ← checked? y m n }
            | some n, none =>
              readWords today fuel (year :: rest) { d with date := ← checked? today.year m n }
            | _, _ => none
          | [day] => do
            let n ← Text.natBelow? 32 day
            readWords today fuel [] { d with date := ← checked? today.year m n }
          | [] => none
        | none, none, none =>
          match readAhead? w, signed? w, ws with
          | ahead, some n, unit :: rest =>
            match d.add? n unit, month? unit, ahead with
            | some d, _, _ => readWords today fuel rest d
            | none, some m, _ => do
              let year := (rest.head?.bind (Text.natBelow? 10000)).map Int.ofNat
              let date ← checked? (year.getD today.year) m n.toNat
              readWords today fuel (if year.isSome then rest.drop 1 else rest) { d with date := date }
            | none, none, some a =>
              if d.second.isSome then readWords today fuel (unit :: rest) { d with ahead := a } else none
            | none, none, none => none
          | some a, _, [] => if d.second.isSome then some { d with ahead := a } else none
          | _, some n, [] =>
            if n = 0 ∧ d.second.isNone then some { d with second := some 0 } else none
          | _, none, _ =>
            -- A unit alone counts once.
            match d.add? 1 w with
            | some d => readWords today fuel ws d
            | none => none

/-- A day some months later; days beyond the end of a month run into the next one. -/
def Date.addMonths (d : Date) (n : Int) : Int :=
  let count := d.year * 12 + (d.month - 1 : Nat) + n
  (Date.mk (count.fdiv 12) ((count % 12).toNat + 1) 1).number + d.day - 1

/-- Parts the day from the time in a text such as `2020-01-01T10:00:00Z`. -/
def partWords (w : Octets) : List Octets :=
  let day := w.takeWhile (· != 'T')
  match w.drop day.length with
  | 'T' :: time =>
    if (readDay? day).isSome then
      let clock := time.takeWhile fun c => c.isDigit || c == ':' || c == '.'
      let zone := time.drop clock.length
      [day, clock] ++ if zone.isEmpty then [] else [zone]
    else [w]
  | _ =>
    let clock := w.takeWhile fun c => c.isDigit || c == ':' || c == '.'
    let zone := w.drop clock.length
    if (readClock? clock).isSome && !zone.isEmpty then [clock, zone] else [w]

/-- The moment that a text describes at some time. -/
def parse? (now : Moment) (t : Octets) : Option Moment :=
  match Text.trim t with
  | '@' :: n => do
    let whole := n.takeWhile (· != '.')
    let places := (n.drop (whole.length + 1)).take 9
    if !places.all Char.isDigit then none
    else
      return { seconds := ← signed? whole
               nanos := Text.digitsValue (places ++ List.replicate (9 - places.length) '0') }
  | t => do
    let words := (t.splitOnP fun c => c == ' ' || c == '\t' || c == '\n').filter (!·.isEmpty)
    let words := words.flatMap partWords
    let today := now.date
    let d ← readWords today (4 * words.length + 8) words {}
    let relative := d.months ≠ 0 ∨ d.days ≠ 0 ∨ d.seconds ≠ 0
    let second : Nat :=
      match d.second, d.date with
      | some s, _ => s
      | none, some _ => 0
      | none, none =>
        if words.isEmpty then 0 else if relative ∨ words.length > 0 then now.second else 0
    let day := (d.date.getD today).addMonths d.months + d.days
    return { seconds := day * 86400 + second - d.ahead + d.seconds }

end Retouch.Shell.Calendar
