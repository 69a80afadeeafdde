import RuleReview.Toml.Reader

/-!
# Dates and times

A date, a time of day, or a date with a time of day that may have an offset.  All their numbers have
fixed widths and ranges; a month has the days it has in its year.

## What is here

* `Toml.looksLikeDate`, `Toml.looksLikeTime` — whether a date or a time comes next.
* `Toml.date` — the date or time that comes next, in its standard form: a `T` before the time of
  day, no zeros at the end of the fraction, of which at most nine digits count, and capital letters.
-/

set_option autoImplicit false

namespace RuleReview
namespace Toml

open Text Reader

/-- The number that is written in the first `width` characters, if these are digits. -/
def fixedNumber? (width : Nat) (t : Text) : Option Nat :=
  let ds := t.take width
  if ds.length = width ∧ ds.all Char.isDigit then
    some (ofDigits 10 (ds.map fun c => c.toNat - 48))
  else none

/-- Whether a date comes next, or at least something that can only be one: a year with a hyphen. -/
def looksLikeDate (t : Text) : Bool :=
  (fixedNumber? 4 t).isSome && (t.drop 4).head? = some '-'

/-- Whether a time of day comes next, or at least something that can only be one: an hour with a
colon. -/
def looksLikeTime (t : Text) : Bool :=
  (fixedNumber? 2 t).any (· ≤ 23) && (t.drop 2).head? = some ':'

/-- A number of a fixed width in a range. -/
def fixed (width low high : Nat) : Reader Nat := fun t =>
  match fixedNumber? width t with
  | none => fail {} t
  | some n => if low ≤ n ∧ n ≤ high then .ok (n, t.drop width) else refuse .outOfRange t

/-- Whether a year has a 29th of February. -/
def isLeap (year : Nat) : Bool := year % 4 == 0 && (year % 100 != 0 || year % 400 == 0)

/-- The number of days of a month. -/
def daysIn (year month : Nat) : Nat :=
  if month = 2 then (if isLeap year then 29 else 28)
  else if month = 4 ∨ month = 6 ∨ month = 9 ∨ month = 11 then 30
  else 31

/-- A date without a time. -/
def day : Reader Text := do
  let year ← fixed 4 0 9999
  expect "-" {}
  let month ← fixed 2 1 12
  expect "-" {}
  let day ← fixed 2 1 (daysIn year month)
  return padded 4 year ++ "-" ++ padded 2 month ++ "-" ++ padded 2 day

/-- The fraction of a second, if one comes next. -/
def secondFraction : Reader Text := do
  match ← get with
  | '.' :: rest =>
    if rest.head?.any Char.isDigit then
      skip 1
      let ds ← takeWhile Char.isDigit
      let places := dropEndWhile (· == '0') (ds.take 9)
      return if places.isEmpty then [] else '.' :: places
    else return []
  | _ => return []

/-- A time of day. -/
def timeOfDay : Reader Text := do
  let hour ← fixed 2 0 23
  expect ":" {}
  let minute ← fixed 2 0 59
  expect ":" {}
  let second ← fixed 2 0 60
  return padded 2 hour ++ ":" ++ padded 2 minute ++ ":" ++ padded 2 second ++ (← secondFraction)

/-- The offset of a time, if one comes next. -/
def offset : Reader Text := within "time offset" do
  match ← peek? with
  | some 'Z' | some 'z' =>
    skip 1
    return "Z"
  | some '+' | some '-' =>
    let negative := (← peek?) = some '-'
    skip 1
    let hour ← fixed 2 0 23
    expect ":" {}
    let minute ← fixed 2 0 59
    let sign := if negative ∧ 0 < hour + minute then '-' else '+'
    return sign :: padded 2 hour ++ ":" ++ padded 2 minute
  | _ => return []

/-- A date that may have a time of day, which may have an offset. -/
def dateTime : Reader Text := within "date-time" do
  let first ← day
  let separated := match ← get with
    | 'T' :: rest | 't' :: rest | ' ' :: rest => looksLikeTime rest
    | _ => false
  if separated then
    skip 1
    let time ← timeOfDay
    return first ++ "T" ++ time ++ (← offset)
  else return first

/-- The date or time that comes next. -/
def date : Reader Text := do
  if looksLikeDate (← get) then dateTime else within "time" timeOfDay

end Toml
end RuleReview
