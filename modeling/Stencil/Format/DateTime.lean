import Stencil.Calendar.DateTime
import Stencil.Error

/-!
# Date-times by format text

A format text for a date-time is one letter, which stands for a standard pattern, or else a
custom pattern such as `yyyy-MM-dd HH:mm:ss`. A pattern is first read into parts; whether that
succeeds depends on its text alone. The parts are then written one after the other.

## Main definitions

* `Stencil.DatePart`: a part of a pattern.
* `Stencil.DatePart.ofPattern?`: the parts of a pattern.
* `Stencil.DatePart.render`: the text of a sequence of parts.
* `Stencil.formatDateTime`: a date-time written by a format text.
-/

namespace Stencil

/-! ### Parts of a pattern -/

/-- What a run of one letter in a pattern stands for. -/
inductive DateField where
  | year
  | month
  | day
  | hour12
  | hour24
  | minute
  | second
  /-- Digits of the fraction of the second. -/
  | fraction
  /-- The same without zeros at the end; where none is left, a point before it goes too. -/
  | shortFraction
  /-- `AM` or `PM`. -/
  | halfDay
  | era
  /-- The offset from UTC. -/
  | offset
  /-- The offset from UTC, or `Z` for a clock that shows UTC. -/
  | zone
  deriving DecidableEq

/-- The field of a letter. -/
def DateField.ofLetter? : Char → Option DateField
  | 'y' => some year
  | 'M' => some month
  | 'd' => some day
  | 'h' => some hour12
  | 'H' => some hour24
  | 'm' => some minute
  | 's' => some second
  | 'f' => some fraction
  | 'F' => some shortFraction
  | 't' => some halfDay
  | 'g' => some era
  | 'z' => some offset
  | 'K' => some zone
  | _ => none

/-- The longest run of a field's letter that a pattern may hold, if there is a limit. -/
def DateField.longestRun? : DateField → Option Nat
  | fraction | shortFraction => some 7
  | _ => none

/-- Whether a pattern may hold a run of a field's letter. -/
def DateField.allows (field : DateField) (run : Nat) : Bool :=
  match field.longestRun? with
  | none => true
  | some longest => run ≤ longest

/-- A part of a pattern. -/
inductive DatePart where
  /-- Text that is copied. -/
  | literal (text : Text)
  /-- A run of a field's letter. -/
  | field (field : DateField) (run : Nat)
  deriving DecidableEq

namespace DatePart

/-- The parts of a pattern. Quotes of either kind enclose literal text, a backslash makes the
next character literal, a percent sign stands for nothing, and every character that is no
field's letter is literal. There are none where a quote is not closed, a backslash ends the
pattern or a run is too long. -/
def ofPattern? (pattern : Text) : Option (List DatePart) :=
  match pattern with
  | [] => some []
  | c :: rest =>
    if c = '\'' ∨ c = '"' then
      match _h : Text.cutAt c rest with
      | none => none
      | some (text, after) => (ofPattern? after).map (literal text :: ·)
    else if c = '\\' then
      match rest with
      | [] => none
      | next :: after => (ofPattern? after).map (literal [next] :: ·)
    else if c = '%' then ofPattern? rest
    else
      match DateField.ofLetter? c with
      | none => (ofPattern? rest).map (literal [c] :: ·)
      | some f =>
        let run := (rest.takeWhile (· == c)).length + 1
        if f.allows run then (ofPattern? (rest.dropWhile (· == c))).map (field f run :: ·)
        else none
termination_by pattern.length
decreasing_by
  · have := congrArg List.length (Text.cutAt_eq_some _h).1
    simp only [List.length_append, List.length_cons] at this ⊢
    omega
  · simp only [List.length_cons]; omega
  · simp only [List.length_cons]; omega
  · simp only [List.length_cons]; omega
  · have := (List.dropWhile_suffix (l := rest) (· == c)).length_le
    simp only [List.length_cons]
    omega

end DatePart

/-! ### Texts of the fields -/

/-- The names of the months. -/
def monthName : Nat → Text
  | 1 => "January".toList
  | 2 => "February".toList
  | 3 => "March".toList
  | 4 => "April".toList
  | 5 => "May".toList
  | 6 => "June".toList
  | 7 => "July".toList
  | 8 => "August".toList
  | 9 => "September".toList
  | 10 => "October".toList
  | 11 => "November".toList
  | _ => "December".toList

/-- The names of the weekdays, Sunday first. -/
def weekdayName : Nat → Text
  | 0 => "Sunday".toList
  | 1 => "Monday".toList
  | 2 => "Tuesday".toList
  | 3 => "Wednesday".toList
  | 4 => "Thursday".toList
  | 5 => "Friday".toList
  | _ => "Saturday".toList

namespace DateField

/-- A number in a run of one letter as it is, and in a longer run with at least two digits. -/
def clockNumber (run n : Nat) : Text := Numeral.fixed 10 (if run = 1 then 1 else 2) n

/-- An integer in a field of a width, zeros between the sign and the digits. -/
def signedFixed (width : Nat) (n : Int) : Text :=
  let sign := Numeral.sign (n < 0)
  sign ++ Numeral.fixed 10 (width - sign.length) n.natAbs

/-- The year in a run of letters: the last two digits, or all of them. -/
def yearInRun (year : Int) (run : Nat) : Text :=
  if run = 1 then Numeral.signed (Int.tmod year 100)
  else if run = 2 then signedFixed 2 (Int.tmod year 100)
  else signedFixed run year

/-- A number in a short run, the first three letters of a name in a run of three, and the name
in a longer one. -/
def namedNumber (run n : Nat) (name : Text) : Text :=
  if run ≤ 2 then clockNumber run n else if run = 3 then name.take 3 else name

/-- An offset: its hours, in two digits, or with its minutes. -/
def offsetInRun (o : UtcOffset) (run : Nat) : Text :=
  if run = 1 then o.sign :: Numeral.decimal o.hours
  else if run = 2 then o.sign :: Numeral.fixed 10 2 o.hours
  else o.sign :: Numeral.fixed 10 2 o.hours ++ ':' :: Numeral.fixed 10 2 o.minutes

/-- The first digits of the fraction of the second. -/
def fractionDigits (d : DateTime) (run : Nat) : Text :=
  (Numeral.fixed 10 9 (d.nano % 1000000000)).take run

/-- The text of a field in a run of its letter; `utc` says whether the clock shows UTC. -/
def text (d : DateTime) (utc : Bool) (run : Nat) : DateField → Text
  | year => yearInRun d.date.year run
  | month => namedNumber run d.date.month (monthName d.date.month)
  | day => namedNumber run d.date.day (weekdayName d.date.weekday)
  | hour12 => clockNumber run d.hour12
  | hour24 => clockNumber run d.hour
  | minute => clockNumber run d.minute
  | second => clockNumber run d.secondOfMinute
  | fraction => fractionDigits d run
  | shortFraction => Text.trimRight (· == '0') (fractionDigits d run)
  | halfDay =>
    let marker := if d.hour < 12 then "AM".toList else "PM".toList
    if run = 1 then marker.take 1 else marker
  | era => "A.D.".toList
  | offset => offsetInRun d.offset run
  | zone => if utc then ['Z'] else offsetInRun d.offset 3

end DateField

namespace DatePart

/-- A text without a point at its end. -/
def dropPoint (t : Text) : Text := if t.getLast? = some '.' then t.dropLast else t

/-- A text with a part written after it. -/
def append (d : DateTime) (utc : Bool) (written : Text) : DatePart → Text
  | literal text => written ++ text
  | field f run =>
    let text := f.text d utc run
    if f = .shortFraction ∧ text = [] then dropPoint written else written ++ text

/-- The text of a sequence of parts, written from left to right. -/
def render (d : DateTime) (utc : Bool) (parts : List DatePart) : Text :=
  parts.foldl (append d utc) []

end DatePart

/-! ### Format texts -/

/-- The pattern of a date-time that is formatted without a format text. -/
def defaultDatePattern : Text := "yyyy-MM-dd HH:mm:ss".toList

/-- The pattern that a single letter stands for, and whether it is always written in UTC. -/
def standardDatePattern? : Char → Option (Text × Bool)
  | 'd' => some ("MM/dd/yyyy".toList, false)
  | 'D' => some ("dddd, dd MMMM yyyy".toList, false)
  | 'f' => some ("dddd, dd MMMM yyyy HH:mm".toList, false)
  | 'F' => some ("dddd, dd MMMM yyyy HH:mm:ss".toList, false)
  | 'g' => some ("MM/dd/yyyy HH:mm".toList, false)
  | 'G' => some ("MM/dd/yyyy HH:mm:ss".toList, false)
  | 'M' | 'm' => some ("MMMM dd".toList, false)
  | 'o' | 'O' => some ("yyyy'-'MM'-'dd'T'HH':'mm':'ss'.'fffffffK".toList, false)
  | 'R' | 'r' => some ("ddd, dd MMM yyyy HH':'mm':'ss 'GMT'".toList, true)
  | 's' => some ("yyyy'-'MM'-'dd'T'HH':'mm':'ss".toList, false)
  | 't' => some ("HH:mm".toList, false)
  | 'T' => some ("HH:mm:ss".toList, false)
  | 'u' => some ("yyyy'-'MM'-'dd HH':'mm':'ss'Z'".toList, true)
  | 'Y' | 'y' => some ("yyyy MMMM".toList, false)
  | _ => none

/-- The pattern that a format text stands for, and whether it is always written in UTC. -/
def datePattern? : Text → Option (Text × Bool)
  | [] => some (defaultDatePattern, false)
  | [letter] => standardDatePattern? letter
  | pattern => some (pattern, false)

/-- The text of a date-time by a format text, if the format text is well-formed. -/
def renderDateTime? (d : DateTime) (utc : Bool) (spec : Text) : Option Text := do
  let (pattern, inUtc) ← datePattern? spec
  let parts ← DatePart.ofPattern? pattern
  pure (if inUtc then DatePart.render (d.withOffset .utc) true parts
    else DatePart.render d utc parts)

/-- A date-time written by a format text; `utc` says whether its clock counts as showing
UTC. -/
def formatDateTime (d : DateTime) (utc : Bool) (spec : Text) : ExpandResult Text :=
  match renderDateTime? d utc spec with
  | some text => .ok text
  | none => .error (.invalidFormat spec .dateTime)

end Stencil
