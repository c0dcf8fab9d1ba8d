import MaskedPath.Url.Host
import MaskedPath.Text.Quoted

namespace MaskedPath

namespace Url

inductive Error
  | unpairedBracket
  | badFutureAddress
  | notAnAddress (host : Text)
  | bracketedIPv4
  | hiddenDelimiter (authority : Text)
deriving DecidableEq, Repr

def Error.message : Error → String
  | .unpairedBracket => "Invalid IPv6 URL"
  | .badFutureAddress => "IPvFuture address is invalid"
  | .notAnAddress host =>
    String.ofList (Quoted.ofText host) ++ " does not appear to be an IPv4 or IPv6 address"
  | .bracketedIPv4 => "An IPv4 address cannot be in brackets"
  | .hiddenDelimiter authority =>
    "netloc '" ++ String.ofList authority ++
      "' contains invalid characters under NFKC normalization"

/-- The characters outside ASCII whose compatibility form holds one of `/ ? # @ :`. -/
def hidesDelimiter (n : Nat) : Bool :=
  [0x2047, 0x2048, 0x2049, 0x2100, 0x2101, 0x2105, 0x2106, 0x2a74, 0xfe13, 0xfe16, 0xfe55, 0xfe56,
    0xfe5f, 0xfe6b, 0xff03, 0xff0f, 0xff1a, 0xff1f, 0xff20].contains n

def isSchemeChar (c : Char) : Bool := c.isAlphanum || c == '+' || c == '-' || c == '.'

def cutScheme (t : Text) : Text × Text :=
  match cutAt? (· = ':') t with
  | some (c :: scheme, rest) =>
    if c.isAlpha && (c :: scheme).all isSchemeChar then (lowerAscii (c :: scheme), rest)
    else ([], t)
  | _ => ([], t)

def cutAuthority (t : Text) : Text × Text :=
  match t with
  | '/' :: '/' :: rest =>
    let ends (c : Char) : Bool := c = '/' ∨ c = '?' ∨ c = '#'
    (rest.takeWhile (!ends ·), rest.dropWhile (!ends ·))
  | _ => ([], t)

def checkAddress (host : Text) : Except Error Unit :=
  if host.head? = some 'v' then
    if Host.isFuture host then .ok () else .error .badFutureAddress
  else if Host.isIPv4 host then .error .bracketedIPv4
  else if Host.isIPv6 host then .ok ()
  else .error (.notAnAddress host)

def hostAndPort (authority : Text) : Text :=
  (authority.reverse.takeWhile (· ≠ '@')).reverse

def checkBrackets (authority : Text) : Except Error Unit :=
  if '[' ∈ authority ∧ ']' ∈ authority then
    match cutAt? (· = '[') (hostAndPort authority) with
    | some (before, inside) =>
      let port := (inside.dropWhile (· ≠ ']')).drop 1
      if before ≠ [] ∨ (port ≠ [] ∧ port.head? ≠ some ':') then .error .unpairedBracket
      else checkAddress (inside.takeWhile (· ≠ ']'))
    | none => checkAddress ((hostAndPort authority).takeWhile (· ≠ ':'))
  else if '[' ∈ authority ∨ ']' ∈ authority then .error .unpairedBracket
  else .ok ()

def checkDelimiters (authority : Text) : Except Error Unit :=
  if authority.any fun c => hidesDelimiter c.toNat then .error (.hiddenDelimiter authority)
  else .ok ()

def before (c : Char) (t : Text) : Text := t.takeWhile (· ≠ c)

def significant (t : Text) : Text :=
  (t.dropWhile (·.toNat ≤ 0x20)).filter fun c => c ≠ '\t' ∧ c ≠ '\r' ∧ c ≠ '\n'

end Url

structure Url where
  scheme : Text
  path : Text
deriving DecidableEq, Repr

def Url.parse (t : Text) : Except Url.Error Url := do
  let (scheme, rest) := Url.cutScheme (Url.significant t)
  let (authority, rest) := Url.cutAuthority rest
  Url.checkBrackets authority
  Url.checkDelimiters authority
  return ⟨scheme, Url.before '?' (Url.before '#' rest)⟩

end MaskedPath
