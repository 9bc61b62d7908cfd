import Autoscaler.Net.Ip
import Autoscaler.Text.Blank

/-!
# Addresses to listen on

An internet address with a port. The text form that is printed is read back first; other forms
name a host and a port, of which the host is a number in one of its customary spellings.
-/

namespace Autoscaler.Net

inductive SocketAddress where
  | v4 (ip : Ipv4) (port : UInt16)
  | v6 (ip : Ipv6) (port : UInt16) (scope : UInt32)
deriving DecidableEq, Repr

inductive AddressError where
  | noPort
  | badPort
  | nulInHost
  /-- The host is no number; names are not looked up. -/
  | unknownHost
deriving DecidableEq, Repr

def AddressError.message : AddressError → String
  | noPort => "invalid socket address"
  | badPort => "invalid port value"
  | nulInHost => "file name contained an unexpected NUL byte"
  | unknownHost => "failed to lookup address information: Name or service not known"

namespace SocketAddress

def port : SocketAddress → UInt16
  | v4 _ port => port
  | v6 _ port _ => port

/-- Whether the address is one of version 6. -/
def isV6 : SocketAddress → Bool
  | v4 _ _ => false
  | v6 _ _ _ => true

/-- The host part without a scope. -/
def ipText : SocketAddress → String
  | v4 ip _ => String.ofList ip.chars
  | v6 ip _ _ => String.ofList ip.chars

def chars : SocketAddress → List Char
  | v4 ip port => ip.chars ++ ':' :: Text.natDigits port.toNat
  | v6 ip port scope =>
    let scopeChars := if scope = 0 then [] else '%' :: Text.natDigits scope.toNat
    '[' :: ip.chars ++ scopeChars ++ ']' :: ':' :: Text.natDigits port.toNat

def render (a : SocketAddress) : String := String.ofList a.chars

def readPort (s : List Char) : Option UInt16 := do
  let (n, rest) ← readBelow 0x10000 (← readChar ':' s)
  if rest.isEmpty then some n.toUInt16 else none

/-- Reads a scope, if a percent sign is ahead. -/
def readScope (s : List Char) : Option (UInt32 × List Char) :=
  match s with
  | '%' :: rest => (readBelow 0x100000000 rest).map fun (n, rest) => (n.toUInt32, rest)
  | _ => some (0, s)

def readV4 (s : List Char) : Option SocketAddress := do
  let (ip, rest) ← Ipv4.read s
  return v4 ip (← readPort rest)

def readV6 (s : List Char) : Option SocketAddress := do
  let (ip, rest) ← Ipv6.read (← readChar '[' s)
  let (scope, rest) ← readScope rest
  return v6 ip (← readPort (← readChar ']' rest)) scope

/-- Reads the strict form of an address. -/
def read? (s : List Char) : Option SocketAddress := (readV4 s).orElse fun _ => readV6 s

/-- Reads a number in the notation of its first digits: hexadecimal after `0x`, octal after a zero,
else decimal. -/
def readHostNumber (s : List Char) : Option (Nat × List Char) :=
  let digits (base : Nat) (s : List Char) := s.takeWhile fun c => Text.digitValue c < base
  let number (base : Nat) (s : List Char) :=
    (Text.readNat base (digits base s)).map fun n => (n, s.drop (digits base s).length)
  match s with
  | '0' :: x :: rest =>
    if (x = 'x' ∨ x = 'X') ∧ !(digits 16 rest).isEmpty then number 16 rest
    else number 8 s
  | c :: _ => if c.isDigit then number 10 s else none
  | [] => none

/-- Reads the parts of a host number, on from those in `parts`. Only the last may exceed a byte. -/
def readHostParts : Nat → List Nat → List Char → Option (List Nat)
  | 0, _, _ => none
  | fuel + 1, parts, s => do
    let (n, rest) ← readHostNumber s
    match rest with
    | [] => some (parts ++ [n])
    | '.' :: rest => if n < 256 then readHostParts fuel (parts ++ [n]) rest else none
    | _ => none

/-- Reads a host of version 4 in up to four parts; the last part fills the bytes that remain. -/
def readHostV4 (s : List Char) : Option Ipv4 := do
  let parts ← readHostParts 4 [] s
  let last := parts.getLastD 0
  let before := parts.dropLast
  if Nat.pow 256 (4 - before.length) ≤ last then none
  else
    let high := before.foldl (fun n part => n * 256 + part) 0
    some (Ipv4.ofNat (high * Nat.pow 256 (4 - before.length) + last))

/-- Reads a host of version 6 with an optional scope, without brackets. -/
def readHostV6 (s : List Char) : Option (Ipv6 × UInt32) := do
  let (ip, rest) ← Ipv6.read s
  let (scope, rest) ← readScope rest
  if rest.isEmpty then some (ip, scope) else none

def readHost (s : List Char) (port : UInt16) : Option SocketAddress :=
  match readHostV4 s with
  | some ip => some (v4 ip port)
  | none => (readHostV6 s).map fun (ip, scope) => v6 ip port scope

def splitLastColon (s : List Char) : Option (List Char × List Char) :=
  let port := (s.reverse.takeWhile (· != ':')).reverse
  if port.length < s.length then some (s.take (s.length - port.length - 1), port) else none

/-- A port by itself, with an optional plus sign. -/
def readPortText (s : List Char) : Option UInt16 :=
  (Text.readUnsigned 10 s).bind fun n => if n < 0x10000 then some n.toUInt16 else none

def readHostPort (s : List Char) : Except AddressError SocketAddress :=
  match splitLastColon s with
  | none => .error .noPort
  | some (host, port) =>
    match readPortText port with
    | none => .error .badPort
    | some port =>
      if host.contains '\x00' then .error .nulInHost
      else (readHost host port).elim (.error .unknownHost) .ok

/-- Reads an address to listen on. A port alone stands for all interfaces. -/
def parse (text : String) : Except AddressError SocketAddress :=
  let trimmed := Text.trimBlanks text.toList
  let s := if trimmed.head? == some ':' then "0.0.0.0".toList ++ trimmed else trimmed
  match read? s with
  | some a => .ok a
  | none => readHostPort s

end SocketAddress
end Autoscaler.Net
