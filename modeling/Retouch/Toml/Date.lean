/-
  Dates and times of TOML documents.

  A date has a year, a month and a day that the calendar knows.  A time may follow it behind the
  letter `T` or a blank, and then its distance from universal time; a time may also stand alone.
-/
import Retouch.Text.Basic

namespace Retouch.Toml

/-- The number of `n` digits at the start of a text, and what follows them. -/
def readFixed? (n : Nat) (t : Text) : Option (Nat × Text) :=
  let digits := t.take n
  if digits.length = n ∧ digits.all Char.isDigit then some (Text.digitsValue digits, t.drop n)
  else none

/-- A number of two digits within bounds, and what follows it. -/
def readTwo? (low high : Nat) (t : Text) : Option (Nat × Text) := do
  let (n, t) ← readFixed? 2 t
  if low ≤ n ∧ n ≤ high then some (n, t) else none

/-- What follows a character that has to come next. -/
def after? (c : Char) : Text → Option Text
  | d :: t => if c = d then some t else none
  | [] => none

/-- The number of days in a month. -/
def daysIn (year month : Nat) : Nat :=
  if month = 2 then
    if year % 4 = 0 ∧ (year % 100 ≠ 0 ∨ year % 400 = 0) then 29 else 28
  else if [4, 6, 9, 11].contains month then 30
  else 31

/-- What follows a day of the calendar. -/
def readDay? (t : Text) : Option Text := do
  let (year, t) ← readFixed? 4 t
  let (month, t) ← readTwo? 1 12 (← after? '-' t)
  let (_, t) ← readTwo? 1 (daysIn year month) (← after? '-' t)
  return t

/-- What follows a time of day; the seconds may have decimal places, and a leap second counts. -/
def readTime? (t : Text) : Option Text := do
  let (_, t) ← readTwo? 0 23 t
  let (_, t) ← readTwo? 0 59 (← after? ':' t)
  let (_, t) ← readTwo? 0 60 (← after? ':' t)
  match t with
  | '.' :: r =>
    let places := r.takeWhile Char.isDigit
    if places.isEmpty then none else return r.drop places.length
  | _ => return t

/-- What follows the distance of a time from universal time; there may be none. -/
def readOffset? (t : Text) : Option Text :=
  match t with
  | 'Z' :: r => some r
  | 'z' :: r => some r
  | c :: r =>
    if c = '+' ∨ c = '-' then do
      let (_, r) ← readTwo? 0 23 r
      let (_, r) ← readTwo? 0 59 (← after? ':' r)
      return r
    else some t
  | [] => some t

/-- What follows a date, a time or both.  A blank after a date belongs to it only if a time comes
    next. -/
def readDate? (t : Text) : Option Text :=
  match readDay? t with
  | none => readTime? t
  | some r =>
    match r with
    | c :: s =>
      if c = 'T' ∨ c = 't' ∨ c = ' ' then
        match readTime? s with
        | some s => readOffset? s
        | none => some r
      else some r
    | [] => some r

end Retouch.Toml
