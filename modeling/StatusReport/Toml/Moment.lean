import StatusReport.Number.Decimal

/-! # Dates and times of a TOML document

A moment is a date, a time of day, or both, and with both it may have an offset from universal time.
A day exists in its month, a leap second may end a minute, and the seconds may be left out.

* `Moment.read?`: the moment that characters spell.
* `Moment.text`: its text, with a `T` between date and time and no zeros at the end of a fraction.
-/

namespace StatusReport.Toml

open Number

structure Date where
  year : Nat
  month : Nat
  day : Nat
deriving DecidableEq, Repr

structure TimeOfDay where
  hour : Nat
  minute : Nat
  second : Option Nat
  nanosecond : Nat
deriving DecidableEq, Repr

inductive Offset where
  | universal
  | ahead (hours minutes : Nat)
  | behind (hours minutes : Nat)
deriving DecidableEq, Repr

/-- A date, a time of day, or both. -/
inductive Moment where
  | date (d : Date)
  | time (t : TimeOfDay)
  | both (d : Date) (t : TimeOfDay) (offset : Option Offset)
deriving DecidableEq, Repr

namespace Moment

/-! ## Reading -/

def digits? (count : Nat) (cs : List Char) : Option (Nat × List Char) :=
  let ds := cs.take count
  if ds.length = count ∧ ds.all (fun c => (digit? c).isSome) then
    some (valueOfDigits ds, cs.drop count)
  else none

def expect? (c : Char) : List Char → Option (List Char)
  | [] => none
  | d :: rest => if d = c then some rest else none

def isLeap (year : Nat) : Bool := year % 4 = 0 && (year % 100 ≠ 0 || year % 400 = 0)

def daysIn (year month : Nat) : Nat :=
  if month = 2 then if isLeap year then 29 else 28
  else if month = 4 ∨ month = 6 ∨ month = 9 ∨ month = 11 then 30
  else 31

def readDate? (cs : List Char) : Option (Date × List Char) := do
  let (year, cs) ← digits? 4 cs
  let (month, cs) ← digits? 2 (← expect? '-' cs)
  let (day, cs) ← digits? 2 (← expect? '-' cs)
  if 1 ≤ month ∧ month ≤ 12 ∧ 1 ≤ day ∧ day ≤ daysIn year month then
    return (⟨year, month, day⟩, cs)
  else none

/-- The fraction of a second, of which nine digits count. -/
def readFraction? (cs : List Char) : Option (Nat × List Char) :=
  match expect? '.' cs with
  | none => some (0, cs)
  | some cs =>
    let (ds, rest) := spanDigits cs
    if ds.isEmpty then none
    else
      let ds := ds.take 9
      some (valueOfDigits ds * Nat.pow 10 (9 - ds.length), rest)

def readSecond? (cs : List Char) : Option (Option Nat × Nat × List Char) :=
  match expect? ':' cs with
  | none => some (none, 0, cs)
  | some cs => do
    let (second, cs) ← digits? 2 cs
    let (nanosecond, cs) ← readFraction? cs
    if second ≤ 60 then return (some second, nanosecond, cs) else none

def readHourMinute? (cs : List Char) : Option (Nat × Nat × List Char) := do
  let (hour, cs) ← digits? 2 cs
  let (minute, cs) ← digits? 2 (← expect? ':' cs)
  if hour ≤ 23 ∧ minute ≤ 59 then return (hour, minute, cs) else none

def readTime? (cs : List Char) : Option (TimeOfDay × List Char) := do
  let (hour, minute, cs) ← readHourMinute? cs
  let (second, nanosecond, cs) ← readSecond? cs
  return (⟨hour, minute, second, nanosecond⟩, cs)

def readOffset? : List Char → Option (Option Offset)
  | [] => some none
  | ['Z'] | ['z'] => some (some .universal)
  | c :: cs =>
    match readHourMinute? cs with
    | some (hours, minutes, []) =>
      if c = '+' then some (some (.ahead hours minutes))
      else if c = '-' then some (some (.behind hours minutes))
      else none
    | _ => none

/-- What may stand between a date and a time. -/
def isDelimiter (c : Char) : Bool := c = 'T' || c = 't' || c = ' '

/-- The moment that characters spell. -/
def read? (cs : List Char) : Option Moment :=
  match readDate? cs with
  | none =>
    match readTime? cs with
    | some (t, []) => some (.time t)
    | _ => none
  | some (d, []) => some (.date d)
  | some (d, c :: cs) =>
    if isDelimiter c then do
      let (t, cs) ← readTime? cs
      return .both d t (← readOffset? cs)
    else none

/-! ## Writing -/

def dateText (d : Date) : List Char :=
  paddedDigits 4 d.year ++ '-' :: paddedDigits 2 d.month ++ '-' :: paddedDigits 2 d.day

def hourMinuteText (hours minutes : Nat) : List Char :=
  paddedDigits 2 hours ++ ':' :: paddedDigits 2 minutes

/-- The digits of a fraction of a second, without zeros at its end. -/
def fractionDigits (nanosecond : Nat) : List Char :=
  ((paddedDigits 9 nanosecond).reverse.dropWhile (· = '0')).reverse

def timeText (t : TimeOfDay) : List Char :=
  let second := match t.second with
    | none => []
    | some s => ':' :: paddedDigits 2 s
  hourMinuteText t.hour t.minute ++ second ++
    if t.nanosecond = 0 then [] else '.' :: fractionDigits t.nanosecond

def offsetText : Offset → List Char
  | .universal => ['Z']
  | .ahead hours minutes => '+' :: hourMinuteText hours minutes
  | .behind hours minutes => '-' :: hourMinuteText hours minutes

def text : Moment → String
  | .date d => .ofList (dateText d)
  | .time t => .ofList (timeText t)
  | .both d t offset =>
    let offset := match offset with
      | none => []
      | some o => offsetText o
    .ofList (dateText d ++ 'T' :: timeText t ++ offset)

end Moment

end StatusReport.Toml
