/-!
# Locations on the network

Which texts are the address of a server: an absolute location with a scheme and an authority, an
authority alone, or a path alone.
-/

namespace Autoscaler.Net.Uri

inductive Fault where
  | empty
  | tooLong
  | schemeTooLong
  | invalidAuthority
  | invalidChar
  | invalidFormat
deriving DecidableEq, Repr

def Fault.message : Fault → String
  | empty => "empty string"
  | tooLong => "uri too long"
  | schemeTooLong => "scheme too long"
  | invalidAuthority => "invalid authority"
  | invalidChar => "invalid uri character"
  | invalidFormat => "invalid format"

/-- A location has at most so many bytes. -/
def maxBytes : Nat := 65534

/-- A scheme has at most so many characters. -/
def maxScheme : Nat := 64

def isSchemeChar (c : Char) : Bool := c.isAlphanum || c == '+' || c == '-' || c == '.'

def isAuthorityChar (c : Char) : Bool :=
  c.isAlphanum || ['!', '$', '&', '\'', '(', ')', '*', '+', ',', '-', '.', ';', '=', '_', '~',
    ':', '@', '[', ']'].contains c

def endsAuthority (c : Char) : Bool := c == '/' || c == '?' || c == '#'

/-- A path has none of these. -/
def isBarredInPath (c : Char) : Bool :=
  c.toNat ≤ 0x20 || c == '<' || c == '>' || c == '\x60'

/-- A query has none of these. -/
def isBarredInQuery (c : Char) : Bool := c.toNat ≤ 0x20 || c == '"' || c == '<' || c == '>'

def afterScheme (s : List Char) : Except Fault (Option (List Char)) :=
  let scheme := s.takeWhile isSchemeChar
  match s.dropWhile isSchemeChar with
  | ':' :: '/' :: '/' :: rest =>
    if scheme.length ≤ maxScheme then .ok (some rest) else .error .schemeTooLong
  | _ => .ok none

structure AuthorityScan where
  colons : Nat := 0
  opened : Bool := false
  closed : Bool := false
  /-- Whether a percent sign stands outside the user's part. -/
  percent : Bool := false
  endsInAt : Bool := false

def maxColons : Nat := 8

def AuthorityScan.add (a : AuthorityScan) (c : Char) : Except Fault AuthorityScan :=
  let a := { a with endsInAt := false }
  if c = ':' then
    if maxColons ≤ a.colons then .error .invalidAuthority
    else .ok { a with colons := a.colons + 1 }
  else if c = '[' then
    if a.percent || a.opened then .error .invalidAuthority else .ok { a with opened := true }
  else if c = ']' then
    if !a.opened || a.closed then .error .invalidAuthority
    else .ok { a with closed := true, colons := 0, percent := false }
  else if c = '@' then .ok { a with colons := 0, percent := false, endsInAt := true }
  else if c = '%' then .ok { a with percent := true }
  else if isAuthorityChar c then .ok a
  else .error .invalidChar

def checkAuthority (s : List Char) : Except Fault Unit := do
  let a ← s.foldlM AuthorityScan.add {}
  if a.opened != a.closed || 1 < a.colons || a.endsInAt || a.percent then
    throw .invalidAuthority

/-- Checks a path with an optional query; a fragment is dropped unseen. -/
def checkPath (s : List Char) : Except Fault Unit :=
  let path := s.takeWhile fun c => c != '?' && c != '#'
  if path.any isBarredInPath then .error .invalidChar
  else match s.dropWhile fun c => c != '?' && c != '#' with
    | '?' :: rest =>
      if (rest.takeWhile (· != '#')).any isBarredInQuery then .error .invalidChar else .ok ()
    | _ => .ok ()

def check (text : String) : Except Fault Unit := do
  let s := text.toList
  if maxBytes < text.utf8ByteSize then throw .tooLong
  match s with
  | [] => throw .empty
  | ['*'] => return
  | '/' :: _ => checkPath s
  | _ =>
    let rest ← afterScheme s
    let body := rest.getD s
    let authority := body.takeWhile (!endsAuthority ·)
    checkAuthority authority
    let path := body.dropWhile (!endsAuthority ·)
    match rest with
    | none => if !path.isEmpty then throw .invalidFormat
    | some _ =>
      if authority.isEmpty then throw .invalidFormat
      checkPath path

end Autoscaler.Net.Uri
