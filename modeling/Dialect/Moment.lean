import Dialect.Text.Digit

namespace Dialect

structure Date where
  year : Nat
  month : Nat
  day : Nat
deriving Repr, DecidableEq, Inhabited

structure Clock where
  hour : Nat
  minute : Nat
  second : Nat
  micro : Nat
deriving Repr, DecidableEq, Inhabited

namespace Date

def isLeap (year : Nat) : Bool := year % 4 == 0 && (year % 100 != 0 || year % 400 == 0)

def daysIn (year month : Nat) : Nat :=
  match month with
  | 2 => if isLeap year then 29 else 28
  | 4 | 6 | 9 | 11 => 30
  | _ => 31

-- Days before the first of January of `year`, counted from year one.
def daysBefore (year : Nat) : Nat :=
  let y := year - 1
  y * 365 + y / 4 - y / 100 + y / 400

def ordinal (d : Date) : Nat :=
  (List.range (d.month - 1)).foldl (fun n m => n + daysIn d.year (m + 1))
    (daysBefore d.year + d.day)

end Date

-- A number of the given width, filled with zeros.
def padded (width n : Nat) : String :=
  let t := Text.ofNat 10 n
  String.ofList (List.replicate (width - t.length) '0') ++ t

def Date.text (d : Date) : String :=
  padded 4 d.year ++ "-" ++ padded 2 d.month ++ "-" ++ padded 2 d.day

def Clock.text (c : Clock) : String :=
  padded 2 c.hour ++ ":" ++ padded 2 c.minute ++ ":" ++ padded 2 c.second
    ++ (if c.micro = 0 then "" else "." ++ padded 6 c.micro)

-- The offset from universal time, with seconds only if there are any.
def offsetText (seconds : Int) : String :=
  let n := seconds.natAbs
  (if seconds < 0 then "-" else "+") ++ padded 2 (n / 3600) ++ ":" ++ padded 2 (n / 60 % 60)
    ++ (if n % 60 = 0 then "" else ":" ++ padded 2 (n % 60))

-- The microseconds since the start of year one in universal time.
def instant (d : Date) (c : Clock) (offset : Int) : Int :=
  ((((d.ordinal : Int) * 24 + c.hour) * 60 + c.minute) * 60 + c.second - offset) * 1000000 + c.micro

-- Why a date or a time does not exist.
inductive MomentFault where
  | year (n : Nat)
  | month
  | day
  | hour
  | minute
  | second
  | offset (seconds : Int)
deriving Repr, DecidableEq, Inhabited

def Date.check (d : Date) : Except MomentFault Unit :=
  if d.year < 1 ∨ 9999 < d.year then .error (.year d.year)
  else if d.month < 1 ∨ 12 < d.month then .error .month
  else if d.day < 1 ∨ Date.daysIn d.year d.month < d.day then .error .day
  else .ok ()

def Clock.check (c : Clock) : Except MomentFault Unit :=
  if 23 < c.hour then .error .hour
  else if 59 < c.minute then .error .minute
  else if 59 < c.second then .error .second
  else .ok ()

-- Offsets stay below one day on either side.
def checkOffset (seconds : Int) : Except MomentFault Unit :=
  if seconds.natAbs < 86400 then .ok () else .error (.offset seconds)

end Dialect
