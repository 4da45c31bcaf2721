import DocLint.Text.Natural

/-!
# Dates and times in TOML

A moment is a date, a time of the day, or both; a date with a time may also have a distance from universal
time. Seconds may be left out. `Moment.text` is the one form in which a moment is told, however it was
written.
-/

namespace DocLint.Toml

open DocLint.Text

/-- A day of the calendar. -/
structure Date where
  /-- The year. -/
  year : Nat
  /-- The month, from one. -/
  month : Nat
  /-- The day of the month, from one. -/
  day : Nat
  deriving DecidableEq, Repr

/-- A time of the day. -/
structure Time where
  /-- The hour. -/
  hour : Nat
  /-- The minute. -/
  minute : Nat
  /-- The second and the digits of its fraction, each if there is one. -/
  second : Option (Nat × Option (List Char))
  deriving DecidableEq, Repr

/-- A distance from universal time. -/
inductive Offset where
  /-- Universal time itself. -/
  | zero
  /-- Hours and minutes, ahead or behind. -/
  | custom (behind : Bool) (hour minute : Nat)
  deriving DecidableEq, Repr

/-- A date, a time or both. -/
inductive Moment where
  /-- A date alone. -/
  | date (d : Date)
  /-- A time alone. -/
  | time (t : Time)
  /-- A date with a time and perhaps a distance from universal time. -/
  | dateTime (d : Date) (t : Time) (o : Option Offset)
  deriving DecidableEq, Repr

/-- The value of a fixed number of digits, which must be all of the text. -/
def fixed? (count : Nat) (cs : List Char) : Option Nat :=
  if cs.length = count && cs.all isDigit then some (digitsValue cs) else none

/-- The number of days of a month. -/
def daysOfMonth (year month : Nat) : Nat :=
  if month = 2 then
    (if year % 4 = 0 ∧ (year % 100 ≠ 0 ∨ year % 400 = 0) then 29 else 28)
  else if month = 4 ∨ month = 6 ∨ month = 9 ∨ month = 11 then 30
  else 31

/-- The date that a text is. -/
def Date.read? (cs : List Char) : Option Date := do
  let year ← fixed? 4 (cs.take 4)
  let month ← fixed? 2 ((cs.drop 5).take 2)
  let day ← fixed? 2 (cs.drop 8)
  if cs[4]? = some '-' && cs[7]? = some '-' && 1 ≤ month && month ≤ 12 && 1 ≤ day &&
      day ≤ daysOfMonth year month then
    some ⟨year, month, day⟩
  else none

/-- The hour and the minute that a text is. -/
def hourMinute? (cs : List Char) : Option (Nat × Nat) := do
  let hour ← fixed? 2 (cs.take 2)
  let minute ← fixed? 2 (cs.drop 3)
  if cs[2]? = some ':' && hour ≤ 23 && minute ≤ 59 then some (hour, minute) else none

/-- The second, perhaps with a fraction, that a text is. -/
def second? (cs : List Char) : Option (Nat × Option (List Char)) := do
  let second ← fixed? 2 (cs.take 2)
  if 60 < second then none
  else
    match cs.drop 2 with
    | [] => some (second, none)
    | c :: f => if c = '.' && !f.isEmpty && f.all isDigit then some (second, some f) else none

/-- The time of the day that a text is. -/
def Time.read? (cs : List Char) : Option Time := do
  let (hour, minute) ← hourMinute? (cs.take 5)
  match cs.drop 5 with
  | [] => some ⟨hour, minute, none⟩
  | c :: r => if c = ':' then (second? r).map fun s => ⟨hour, minute, some s⟩ else none

/-- The distance from universal time that a text is. -/
def Offset.read? : List Char → Option Offset
  | [] => none
  | c :: r =>
    if c = 'Z' ∨ c = 'z' then (if r.isEmpty then some .zero else none)
    else if c = '+' ∨ c = '-' then
      (hourMinute? r).map fun p => .custom (c = '-' && (p.1, p.2) ≠ (0, 0)) p.1 p.2
    else none

/-- The moment that a text is. -/
def Moment.read? (cs : List Char) : Option Moment :=
  match Date.read? cs with
  | some d => some (.date d)
  | none =>
    match Time.read? cs with
    | some t => some (.time t)
    | none => do
      let d ← Date.read? (cs.take 10)
      let mark ← cs[10]?
      if mark ≠ 'T' ∧ mark ≠ 't' ∧ mark ≠ ' ' then none
      else
        let isTimeChar : Char → Bool := fun c => isDigit c || c = ':' || c = '.'
        let t ← Time.read? ((cs.drop 11).takeWhile isTimeChar)
        match (cs.drop 11).dropWhile isTimeChar with
        | [] => some (.dateTime d t none)
        | offset => (Offset.read? offset).map fun o => .dateTime d t (some o)

/-- A number with at least `width` digits. -/
def padded (width n : Nat) : List Char :=
  let ds := decimal n
  List.replicate (width - ds.length) '0' ++ ds

/-- The digits of a fraction: at most nine, without zeros at the end, but at least one. -/
def fractionText (f : List Char) : List Char :=
  let ds := ((f.take 9).reverse.dropWhile (· = '0')).reverse
  if ds.isEmpty then ['0'] else ds

/-- The text of a date. -/
def Date.chars (d : Date) : List Char :=
  padded 4 d.year ++ '-' :: padded 2 d.month ++ '-' :: padded 2 d.day

/-- The text of a time of the day. -/
def Time.chars (t : Time) : List Char :=
  padded 2 t.hour ++ ':' :: padded 2 t.minute ++
    match t.second with
    | none => []
    | some (s, none) => ':' :: padded 2 s
    | some (s, some f) => ':' :: padded 2 s ++ '.' :: fractionText f

/-- The text of a distance from universal time. -/
def Offset.chars : Offset → List Char
  | zero => ['Z']
  | custom behind hour minute =>
    (if behind then '-' else '+') :: padded 2 hour ++ ':' :: padded 2 minute

/-- The text of a moment. -/
def Moment.text : Moment → String
  | date d => String.ofList d.chars
  | time t => String.ofList t.chars
  | dateTime d t o => String.ofList (d.chars ++ 'T' :: t.chars ++ (o.map (·.chars)).getD [])

end DocLint.Toml
