import ContentModels.Toml.Quoted

/-!
# Dates and times

A date, a time, or both; a time behind a date may have an offset. Seconds may be left out.

## Main definitions

* `Toml.Moment.check` — whether a text is a date or a time, and if not, why.
-/

namespace ContentModels.Toml.Moment

/-- A piece of a date or a time: digits, or one other character. -/
inductive Piece where
  | digits (cs : List Char)
  | sign (c : Char)
  deriving DecidableEq, Repr

/-- The pieces of a text. -/
def pieces : List Char → List Piece
  | [] => []
  | c :: rest =>
    if c.isDigit then
      match pieces rest with
      | .digits cs :: more => .digits (c :: cs) :: more
      | more => .digits [c] :: more
    else .sign c :: pieces rest

/-- What is wrong: with which part, and what could be there. -/
structure Defect where
  part : Option String := none
  wanted : Option String := none
  deriving DecidableEq, Repr

/-- A reader of the pieces that are left, for a part that has a name. -/
abbrev Reader := StateT (List Piece) (Except Defect)

/-- Fails because something else is wanted. -/
def fail {α : Type} (part : Option String) (wanted : String) : Reader α :=
  throw ⟨part, some wanted⟩

/-- Reads digits. -/
def digits (part : Option String) (wanted : String) : Reader (List Char) := do
  match ← get with
  | .digits cs :: rest => do
    set rest
    return cs
  | _ => fail part wanted

/-- Reads one of some characters. -/
def sign (part : Option String) (allowed : List Char) (wanted : String) : Reader Char := do
  match ← get with
  | .sign c :: rest =>
    if allowed.contains c then do
      set rest
      return c
    else fail part wanted
  | _ => fail part wanted

/-- Whether a character comes next. -/
def comes (c : Char) : Reader Bool := return (← get).head? == some (.sign c)

def number (cs : List Char) : Nat := Text.valueIn 10 cs

/-- Refuses digits of the wrong number. -/
def checkLength (part : String) (count : Nat) (wanted : String) (cs : List Char) : Reader Unit :=
  if cs.length = count then return else fail (some part) wanted

/-- Refuses a number out of range. -/
def checkRange (part : String) (low high : Nat) (wanted : String) (cs : List Char) : Reader Unit :=
  if low ≤ number cs ∧ number cs ≤ high then return else fail (some part) wanted

def isLeapYear (year : Nat) : Bool := year % 4 == 0 && (year % 100 != 0 || year % 400 == 0)

/-- The number of days of a month. -/
def daysOf (year month : Nat) : Nat :=
  if month = 2 then (if isLeapYear year then 29 else 28)
  else if [4, 6, 9, 11].contains month then 30
  else 31

def secondField : String := "`-` (YYYY-MM) or `:` (HH:MM)"

/-- Reads a date. -/
def date : Reader Unit := do
  let part := "date"
  let year ← digits none "year or hour"
  discard <| sign none ['-'] secondField
  let month ← digits (some part) "month"
  discard <| sign (some part) ['-'] "`-` (MM-DD)"
  let day ← digits (some part) "day"
  checkLength part 4 "a four-digit year (YYYY)" year
  checkLength part 2 "a two-digit month (MM)" month
  checkLength part 2 "a two-digit day (DD)" day
  checkRange part 1 12 "month between 01 and 12" month
  let days := daysOf (number year) (number month)
  checkRange part 1 days s!"day between 01 and {days}" day

/-- Reads a time. -/
def time : Reader Unit := do
  let part := "time"
  let hour ← digits (some part) "hour"
  discard <| sign (some part) [':'] "`:` (HH:MM)"
  let minute ← digits (some part) "minute"
  let second ← if ← comes ':' then do
      discard <| sign (some part) [':'] "`:` (MM:SS)"
      some <$> digits (some part) "second"
    else pure none
  if second.isSome && (← comes '.') then
    discard <| sign (some part) ['.'] "`.`"
    discard <| digits (some part) "nanosecond"
  checkLength part 2 "a two-digit hour (HH)" hour
  checkLength part 2 "a two-digit minute (MM)" minute
  if let some second := second then checkLength part 2 "a two-digit second (SS)" second
  checkRange part 0 23 "hour between 00 and 23" hour
  checkRange part 0 59 "minute between 00 and 59" minute
  if let some second := second then checkRange part 0 60 "second between 00 and 60" second

/-- Reads the offset of a time. -/
def offset : Reader Unit := do
  let part := "offset"
  if (← get).isEmpty then return
  let c ← sign (some part) ['Z', 'z', '+', '-'] "`Z`, +OFFSET, -OFFSET"
  if c = '+' ∨ c = '-' then
    let hour ← digits (some part) "hour"
    discard <| sign (some part) [':'] "`:` (HH:MM)"
    let minute ← digits (some part) "minute"
    checkLength part 2 "a two-digit hour (HH)" hour
    checkLength part 2 "a two-digit minute (MM)" minute
    checkRange part 0 23 "hours between 00 and 23" hour
    checkRange part 0 59 "minutes between 00 and 59" minute

/-- Reads a date, a time, or both. -/
def moment : Reader Unit := do
  match ← get with
  | .digits _ :: .sign ':' :: _ => time
  | _ =>
    date
    if !(← get).isEmpty then
      discard <| sign (some "date-time") ['T', 't', ' '] "`T` between date and time"
      time
      offset
  if !(← get).isEmpty then throw {}

/-- Why a text is no date or time, if it is none. -/
def check (cs : List Char) : Except Defect Unit := (moment.run (pieces cs)).map fun _ => ()

end ContentModels.Toml.Moment
