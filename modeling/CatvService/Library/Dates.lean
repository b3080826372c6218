import CatvService.Library.Value

/-!
# Dates and their texts

The part of Python's `datetime` that works on naive dates: `strptime` for the two formats
`%Y-%m-%d` and `%Y-%m-%d %H:%M:%S` with the digits of ASCII, adding less than a minute, and
`strftime`.  A `DateTime` is always one that the constructor accepts.
-/

namespace Dates

open PyValue PyText

/-- A leap year of the proleptic Gregorian calendar. -/
def isLeap (year : ℕ) : Bool :=
  decide (year % 4 = 0) && (decide (year % 100 ≠ 0) || decide (year % 400 = 0))

/-- The number of days of a month. -/
def daysInMonth (year month : ℕ) : ℕ :=
  if month = 2 then if isLeap year then 29 else 28
  else if month ∈ [4, 6, 9, 11] then 30 else 31

/-- What `datetime.datetime(year, month, day, hour, minute, second)` accepts. -/
def InRange (year month day hour minute second : ℕ) : Prop :=
  (1 ≤ year ∧ year ≤ 9999) ∧ (1 ≤ month ∧ month ≤ 12) ∧ (1 ≤ day ∧ day ≤ daysInMonth year month) ∧
    hour < 24 ∧ minute < 60 ∧ second < 60

instance (year month day hour minute second : ℕ) :
    Decidable (InRange year month day hour minute second) :=
  inferInstanceAs (Decidable ((_ ∧ _) ∧ (_ ∧ _) ∧ (_ ∧ _) ∧ _ ∧ _ ∧ _))

/-- A naive `datetime` without microseconds. -/
structure DateTime where
  year : ℕ
  month : ℕ
  day : ℕ
  hour : ℕ
  minute : ℕ
  second : ℕ
  inRange : InRange year month day hour minute second

/-- `datetime.datetime(year, month, day, hour, minute, second)`. -/
def DateTime.new (year month day hour minute second : ℕ) : Except PyErr DateTime :=
  if hrange : InRange year month day hour minute second then
    .ok ⟨year, month, day, hour, minute, second, hrange⟩
  else .error .valueError

/-- A number that grows with the date. -/
def DateTime.rank (t : DateTime) : ℕ :=
  ((((t.year * 13 + t.month) * 32 + t.day) * 24 + t.hour) * 60 + t.minute) * 60 + t.second

instance : LE DateTime :=
  ⟨fun s t => s.rank ≤ t.rank⟩

instance (s t : DateTime) : Decidable (s ≤ t) :=
  inferInstanceAs (Decidable (s.rank ≤ t.rank))

/-! ## Reading -/

/-- The number that a run of digits denotes. -/
def numberOf (digits : List Char) : ℕ :=
  digits.foldl (fun n c => 10 * n + (c.toNat - '0'.toNat)) 0

/-- A field of `lo` to `hi` digits at the head of the text. -/
def field (lo hi : ℕ) (cs : List Char) : Option (ℕ × List Char) :=
  let digits := cs.takeWhile Char.isDigit
  if lo ≤ digits.length ∧ digits.length ≤ hi then
    some (numberOf digits, cs.dropWhile Char.isDigit)
  else none

/-- A literal character of the format. -/
def literal (c : Char) : List Char → Option (List Char)
  | [] => none
  | d :: rest => if d = c then some rest else none

/-- `%d`, which may be padded with a blank. -/
def dayField (cs : List Char) : Option (ℕ × List Char) :=
  match cs with
  | ' ' :: rest => field 1 1 rest
  | _ => field 1 2 cs

/-- `%Y-%m-%d`, and what follows it. -/
def dateField (cs : List Char) : Option ((ℕ × ℕ × ℕ) × List Char) := do
  let (year, cs) ← field 4 4 cs
  let (month, cs) ← field 1 2 (← literal '-' cs)
  let (day, cs) ← dayField (← literal '-' cs)
  return ((year, month, day), cs)

/-- `%H:%M:%S`, and what follows it. -/
def timeField (cs : List Char) : Option ((ℕ × ℕ × ℕ) × List Char) := do
  let (hour, cs) ← field 1 2 cs
  let (minute, cs) ← field 1 2 (← literal ':' cs)
  let (second, cs) ← field 1 2 (← literal ':' cs)
  return ((hour, minute, second), cs)

/-- A blank of the format, which stands for one blank or more. -/
def blanks : List Char → Option (List Char)
  | [] => none
  | c :: rest => if isPySpace c then some (rest.dropWhile isPySpace) else none

/-- `datetime.strptime(s, '%Y-%m-%d %H:%M:%S')`. -/
def strptimeSeconds (s : String) : Except PyErr DateTime :=
  match (do
    let ((year, month, day), cs) ← dateField s.toList
    let ((hour, minute, second), cs) ← timeField (← blanks cs)
    if cs.isEmpty then some (year, month, day, hour, minute, second) else none) with
  | some (year, month, day, hour, minute, second) =>
      DateTime.new year month day hour minute second
  | none => .error .valueError

/-- `datetime.strptime(s, '%Y-%m-%d')`. -/
def strptimeDay (s : String) : Except PyErr DateTime :=
  match dateField s.toList with
  | some ((year, month, day), []) => DateTime.new year month day 0 0 0
  | _ => .error .valueError

/-! ## Adding and writing -/

/-- Midnight of the next day. -/
def DateTime.nextDay (t : DateTime) : Except PyErr DateTime :=
  if t.day < daysInMonth t.year t.month then DateTime.new t.year t.month (t.day + 1) 0 0 0
  else if t.month < 12 then DateTime.new t.year (t.month + 1) 1 0 0 0
  else if t.year < 9999 then DateTime.new (t.year + 1) 1 1 0 0 0
  else .error .overflowError

/-- The beginning of the next minute. -/
def DateTime.nextMinute (t : DateTime) : Except PyErr DateTime :=
  if t.minute < 59 then DateTime.new t.year t.month t.day t.hour (t.minute + 1) 0
  else if t.hour < 23 then DateTime.new t.year t.month t.day (t.hour + 1) 0 0
  else t.nextDay

/-- `t + timedelta(seconds=n)` for less than a minute. -/
def DateTime.addSeconds (t : DateTime) (n : ℕ) : Except PyErr DateTime :=
  if t.second + n < 60 then
    DateTime.new t.year t.month t.day t.hour t.minute (t.second + n)
  else do
    let next ← t.nextMinute
    DateTime.new next.year next.month next.day next.hour next.minute (t.second + n - 60)

/-- A number of at least two digits. -/
def twoDigits (n : ℕ) : String :=
  if n < 10 then "0" ++ toString n else toString n

/-- `t.strftime('%Y-%m-%dT%H:%M:%S')`. -/
def DateTime.strftime (t : DateTime) : String :=
  toString t.year ++ "-" ++ twoDigits t.month ++ "-" ++ twoDigits t.day ++ "T" ++
    twoDigits t.hour ++ ":" ++ twoDigits t.minute ++ ":" ++ twoDigits t.second

example : (strptimeSeconds "2024-02-29  7:05:00").map DateTime.strftime =
    .ok "2024-02-29T07:05:00" := by decide

end Dates
