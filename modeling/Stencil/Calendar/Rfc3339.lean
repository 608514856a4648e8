import Stencil.Calendar.DateTime

/-!
# RFC 3339 date-times

Reading date-times such as `2024-03-05T13:07:09.5+02:00`. The separator of date and time may be
`T`, `t` or a space, a fraction of any length is kept to nanoseconds, second 60 is the leap
second after second 59, and the offset is `Z`, `z` or hours and minutes after a plus sign, a
hyphen or a minus sign.

## Main definitions

* `Stencil.DateTime.ofRfc3339?`: reading a whole text.
-/

namespace Stencil.DateTime

/-! ### Parts -/

/-- The number written by exactly `count` digits at the start of a text. -/
def digits? (count : Nat) (t : Text) : Option (Nat × Text) :=
  let digits := t.take count
  if digits.length = count then (Numeral.natural? digits).map fun n => (n, t.drop count)
  else none

/-- A text after the character that it starts with, if it is one of a class. -/
def expect? (p : Char → Bool) : Text → Option Text
  | [] => none
  | c :: rest => if p c then some rest else none

/-- A date as year, month and day. -/
def date? (t : Text) : Option (Date × Text) := do
  let (year, t) ← digits? 4 t
  let (month, t) ← digits? 2 (← expect? (· == '-') t)
  let (day, t) ← digits? 2 (← expect? (· == '-') t)
  let date ← Date.ofFields? year month day
  pure (date, t)

/-- The nanoseconds of an optional fraction: a point and at least one digit, of which the first
nine count. -/
def fraction? : Text → Option (Nat × Text)
  | '.' :: rest =>
    let digits := (rest.takeWhile Char.isDigit).take 9
    if digits = [] then none
    else
      (Numeral.natural? (digits ++ List.replicate (9 - digits.length) '0')).map fun n =>
        (n, rest.dropWhile Char.isDigit)
  | t => some (0, t)

/-- An offset: UTC, or hours and minutes after a sign. -/
def offset? : Text → Option (UtcOffset × Text)
  | [] => none
  | c :: rest =>
    if c = 'Z' ∨ c = 'z' then some (UtcOffset.utc, rest)
    else if c = '+' ∨ c = '-' ∨ c = '\u2212' then do
      let (hours, t) ← digits? 2 rest
      let (minutes, t) ← digits? 2 (← expect? (· == ':') t)
      let seconds : Int := hours * 3600 + minutes * 60
      let offset ← UtcOffset.ofSeconds? (if c = '+' then seconds else -seconds)
      if minutes < 60 then pure (offset, t) else none
    else none

/-! ### The whole text -/

/-- The date-time that a text writes, all of it. -/
def ofRfc3339? (t : Text) : Option DateTime := do
  let (date, t) ← date? t
  let (hour, t) ← digits? 2 (← expect? (fun c => c == 'T' || c == 't' || c == ' ') t)
  let (minute, t) ← digits? 2 (← expect? (· == ':') t)
  let (second, t) ← digits? 2 (← expect? (· == ':') t)
  let (nano, t) ← fraction? t
  let (offset, t) ← offset? t
  if t ≠ [] then none
  else if second = 60 then ofClock? date hour minute 59 (nano + 1000000000) offset
  else ofClock? date hour minute second nano offset

end Stencil.DateTime
