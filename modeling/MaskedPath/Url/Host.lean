import MaskedPath.Text.Numeral

namespace MaskedPath.Host

def isOctet (t : Text) : Bool :=
  t ≠ [] && t.all (fun c => 48 ≤ c.toNat && c.toNat ≤ 57) && t.length ≤ 3 &&
    (t = ['0'] || t.head? ≠ some '0') && (Numeral.digits? 10 t).any (· ≤ 255)

def isIPv4 (t : Text) : Bool :=
  let octets := splitWhere (· = '.') t
  octets.length = 4 && octets.all isOctet

def isGroup (t : Text) : Bool := t.length ≤ 4 && t.all fun c => (Numeral.digit? 16 c).isSome

def groupsOf? (t : Text) : Option (List Text) :=
  let parts := splitWhere (· = ':') t
  if parts.length < 3 then none
  else match parts.getLast? with
    | some last =>
      if '.' ∈ last then
        if isIPv4 last then some (parts.dropLast ++ [['0'], ['0']]) else none
      else some parts
    | none => none

def emptyAt (parts : List Text) : List Nat :=
  (parts.zipIdx.filter (·.1 = [])).map (·.2)

/-- Whether the parts of an address fit: eight groups, or fewer around one empty part that stands
for the zeros left out. -/
def fits (parts : List Text) : Bool :=
  let inner := parts.tail.dropLast
  match emptyAt inner with
  | [] => parts.length = 8 && parts.all fun p => p ≠ [] && isGroup p
  | [skip] =>
    let before := parts.take (skip + 1)
    let after := parts.drop (skip + 2)
    let high := if before.head? = some [] then before.tail else before
    let low := if after.getLast? = some [] then after.dropLast else after
    let edges := (before.head? ≠ some [] || before.length = 1) &&
      (after.getLast? ≠ some [] || after.length = 1)
    edges && high.length + low.length < 8 && high.all isGroup && low.all isGroup
  | _ => false

def isIPv6 (t : Text) : Bool :=
  if '/' ∈ t then false
  else
    let (address, zoned) := match cutAt? (· = '%') t with
      | none => (t, true)
      | some (address, zone) => (address, zone ≠ [] && '%' ∉ zone)
    zoned && match groupsOf? address with
      | none => false
      | some parts => parts.length ≤ 9 && fits parts

def isFuture (t : Text) : Bool :=
  match t with
  | 'v' :: rest =>
    match cutAt? (· = '.') rest with
    | some (version, address) =>
      version ≠ [] && version.all (fun c => (Numeral.digit? 16 c).isSome) && address ≠ []
    | none => false
  | _ => false

end MaskedPath.Host
