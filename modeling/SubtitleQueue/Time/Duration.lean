import SubtitleQueue.Text.Pattern

/-!
Spans of time and instants as the queue writes them. A span is written in the largest unit
among seconds, milliseconds, microseconds and nanoseconds in which it is at least one, with
the exact fraction and no trailing zeros (`1.5s`, `100ms`). An instant on the wall clock is
written in RFC 3339 form, counted in milliseconds from the start of 1970 in UTC.
-/

namespace SubtitleQueue.Time

/-- Nanoseconds in a millisecond. -/
def nanosPerMilli : Nat := 1000000

/-- The digits of a fraction `f / (10 * unit)`, written one by one until nothing is left,
at most as many as `unit` has places. -/
def fractionDigits (f unit : Nat) : List Char :=
  go (toString unit).length f unit
where
  go : Nat → Nat → Nat → List Char
    | 0, _, _ => []
    | fuel + 1, f, unit =>
      if f == 0 || unit == 0 then []
      else Char.ofNat (48 + f / unit) :: go fuel (f % unit) (unit / 10)

/-- A whole part and a fraction of `10 * unit` parts, with a unit name. -/
def decimal (whole frac unit : Nat) (name : String) : String :=
  let digits := fractionDigits frac unit
  toString whole ++ (if digits.isEmpty then "" else "." ++ String.ofList digits) ++ name

/-- A span of nanoseconds in the largest fitting unit. -/
def spanText (nanos : Nat) : String :=
  let secs := nanos / 1000000000
  let sub := nanos % 1000000000
  if secs > 0 then decimal secs sub 100000000 "s"
  else if sub ≥ 1000000 then decimal (sub / 1000000) (sub % 1000000) 100000 "ms"
  else if sub ≥ 1000 then decimal (sub / 1000) (sub % 1000) 100 "µs"
  else decimal sub 0 1 "ns"

/-- A span of milliseconds in the largest fitting unit. -/
def millisText (ms : Nat) : String := spanText (ms * nanosPerMilli)

/-- A number with at least `width` digits. -/
def padded (width n : Nat) : String :=
  let s := toString n
  String.ofList (List.replicate (width - s.length) '0') ++ s

/-- The calendar date of a day counted from 1970-01-01, as year, month and day. -/
def civilDate (days : Nat) : Nat × Nat × Nat :=
  let z := days + 719468
  let era := z / 146097
  let doe := z - era * 146097
  let yoe := (doe - doe / 1460 + doe / 36524 - doe / 146096) / 365
  let doy := doe - (365 * yoe + yoe / 4 - yoe / 100)
  let mp := (5 * doy + 2) / 153
  let d := doy - (153 * mp + 2) / 5 + 1
  let m := if mp < 10 then mp + 3 else mp - 9
  let y := yoe + era * 400 + (if m ≤ 2 then 1 else 0)
  (y, m, d)

/-- An instant, in milliseconds from the start of 1970, in RFC 3339 form. -/
def stamp (ms : Nat) : String :=
  let secs := ms / 1000
  let (y, m, d) := civilDate (secs / 86400)
  let t := secs % 86400
  let frac := if ms % 1000 == 0 then "" else "." ++ padded 3 (ms % 1000)
  padded 4 y ++ "-" ++ padded 2 m ++ "-" ++ padded 2 d ++ "T" ++ padded 2 (t / 3600) ++ ":" ++
    padded 2 (t / 60 % 60) ++ ":" ++ padded 2 (t % 60) ++ frac ++ "+00:00"

/-- An instant given to the microsecond, in RFC 3339 form with six decimals. -/
def preciseStamp (ms micros : Nat) : String :=
  let secs := ms / 1000
  let (y, m, d) := civilDate (secs / 86400)
  let t := secs % 86400
  padded 4 y ++ "-" ++ padded 2 m ++ "-" ++ padded 2 d ++ "T" ++ padded 2 (t / 3600) ++ ":" ++
    padded 2 (t / 60 % 60) ++ ":" ++ padded 2 (t % 60) ++ "." ++ padded 3 (ms % 1000) ++
    padded 3 (micros % 1000) ++ "+00:00"

/-- The rest after exactly `n` ASCII digits. -/
def digitsThen : Nat → List Char → Option (List Char)
  | 0, cs => some cs
  | n + 1, c :: cs => if c.isDigit then digitsThen n cs else none
  | _ + 1, [] => none

/-- The rest after a given character. -/
def charThen (c : Char) : List Char → Option (List Char)
  | d :: cs => if c == d then some cs else none
  | [] => none

/-- An RFC 3339 time stamp at the front: date, `T`, time, an optional fraction, and `Z` or
an offset. -/
def stampPattern : Text.Pattern := fun cs => do
  let cs ← digitsThen 4 cs
  let cs ← charThen '-' cs
  let cs ← digitsThen 2 cs
  let cs ← charThen '-' cs
  let cs ← digitsThen 2 cs
  let cs ← charThen 'T' cs
  let cs ← digitsThen 2 cs
  let cs ← charThen ':' cs
  let cs ← digitsThen 2 cs
  let cs ← charThen ':' cs
  let cs ← digitsThen 2 cs
  let cs := match cs with
    | '.' :: d :: rest => if d.isDigit then rest.dropWhile Char.isDigit else cs
    | _ => cs
  match cs with
  | 'Z' :: rest => some rest
  | s :: rest =>
    if s == '+' || s == '-' then do
      let r ← digitsThen 2 rest
      let r ← charThen ':' r
      digitsThen 2 r
    else none
  | [] => none

/-- A text with every time stamp replaced by `<time>`, so that it does not depend on when
it was made. -/
def hideStamps (s : String) : String :=
  String.ofList (Text.replaceAll stampPattern "<time>".toList s.toList)

end SubtitleQueue.Time
