import MaskedPath.Calendar
import MaskedPath.Yaml.Error

namespace MaskedPath.Yaml

def isDigit (c : Char) : Bool := '0' ≤ c && c ≤ '9'

structure Timestamp where
  year : Nat
  month : Nat
  day : Nat
  time : Option (Nat × Nat × Nat × Nat)
  offset : Option Int
deriving DecidableEq, Repr

namespace Timestamp

inductive Zone
  | zero
  | offset (negative : Bool) (hours minutes : Text)
deriving DecidableEq, Repr

structure Clock where
  hour : Text
  minute : Text
  second : Text
  fraction : Text
  zone : Option Zone
deriving DecidableEq, Repr

structure Digits where
  year : Text
  month : Text
  day : Text
  clock : Option Clock
deriving DecidableEq, Repr

def takeDigits (least most : Nat) (t : Text) : Option (Text × Text) :=
  let digits := (t.takeWhile isDigit).take most
  if least ≤ digits.length then some (digits, t.drop digits.length) else none

def after? (c : Char) : Text → Option Text
  | d :: rest => if d = c then some rest else none
  | [] => none

def afterGap? (t : Text) : Option Text :=
  match t with
  | 'T' :: rest => some rest
  | 't' :: rest => some rest
  | c :: rest =>
    if c = ' ' ∨ c = '\t' then some (rest.dropWhile fun c => c = ' ' ∨ c = '\t') else none
  | [] => none

def zone? (t : Text) : Option (Option Zone) :=
  if t = [] then some none
  else match t.dropWhile fun c => c = ' ' ∨ c = '\t' with
    | ['Z'] => some (some .zero)
    | sign :: rest => do
      if sign ≠ '+' ∧ sign ≠ '-' then none
      else
        let (hours, rest) ← takeDigits 1 2 rest
        if rest = [] then return some (.offset (sign = '-') hours [])
        else
          let (minutes, rest) ← takeDigits 2 2 (← after? ':' rest)
          if rest = [] then return some (.offset (sign = '-') hours minutes) else none
    | [] => none

def clock? (t : Text) : Option Clock := do
  let (hour, t) ← takeDigits 1 2 t
  let (minute, t) ← takeDigits 2 2 (← after? ':' t)
  let (second, t) ← takeDigits 2 2 (← after? ':' t)
  let (fraction, t) := match t with
    | '.' :: rest => (rest.takeWhile isDigit, rest.dropWhile isDigit)
    | rest => ([], rest)
  return ⟨hour, minute, second, fraction, ← zone? t⟩

def digits? (t : Text) : Option Digits := do
  let (year, t) ← takeDigits 4 4 t
  let (month, t) ← takeDigits 1 2 (← after? '-' t)
  let (day, t) ← takeDigits 1 2 (← after? '-' t)
  if t = [] then return ⟨year, month, day, none⟩
  else return ⟨year, month, day, some (← clock? (← afterGap? t))⟩

def looksImplicit (t : Text) : Bool :=
  match digits? t with
  | none => false
  | some d => d.clock.isSome || (d.month.length = 2 && d.day.length = 2)

/-! ## Values -/

def value (digits : Text) : Nat := digits.foldl (fun n c => n * 10 + (c.toNat - 48)) 0

def checkDate (year month day : Nat) : Except ScalarError Unit :=
  if year = 0 then .error (.year year)
  else if month = 0 ∨ 12 < month then .error (.unit .month)
  else if day = 0 ∨ Calendar.daysIn year month < day then .error .day
  else .ok ()

def checkTime (hour minute second : Nat) : Except ScalarError Unit :=
  if 23 < hour then .error (.unit .hour)
  else if 59 < minute then .error (.unit .minute)
  else if 59 < second then .error (.unit .second)
  else .ok ()

def daySeconds : Int := 86400

def offsetOf : Zone → Except ScalarError Int
  | .zero => .ok 0
  | .offset negative hours minutes =>
    let magnitude : Int := value hours * 3600 + value minutes * 60
    let seconds := if negative then -magnitude else magnitude
    if -daySeconds < seconds ∧ seconds < daySeconds then .ok seconds
    else .error (.offset (seconds.fdiv daySeconds) (seconds.fmod daySeconds))

def millionths (fraction : Text) : Nat := value ((fraction ++ List.replicate 6 '0').take 6)

def ofDigits (d : Digits) : Except ScalarError Timestamp := do
  let year := value d.year
  let month := value d.month
  let day := value d.day
  match d.clock with
  | none =>
    checkDate year month day
    return ⟨year, month, day, none, none⟩
  | some clock =>
    let offset ← match clock.zone with
      | none => pure none
      | some zone => some <$> offsetOf zone
    let hour := value clock.hour
    let minute := value clock.minute
    let second := value clock.second
    checkDate year month day
    checkTime hour minute second
    return ⟨year, month, day, some (hour, minute, second, millionths clock.fraction), offset⟩

end Timestamp

end MaskedPath.Yaml
