import PhaseScript.Text.Encoding
/-
Addresses in their normal form, and what is escaped in which part of one.
-/
set_option autoImplicit false

namespace PhaseScript

/-- An address in its normal form. -/
structure Url where
  scheme : Text
  /-- The user and the password, with the marks around them; empty without either. -/
  credentials : Text
  /-- The host, which may be empty; an address need not have one. -/
  host : Option Text
  /-- The port, if it is not the usual one of the scheme. -/
  port : Option Nat
  path : Text
  query : Option Text
  fragment : Option Text
  deriving DecidableEq, Repr, Inhabited

namespace Url

/-- Why a text is no address. -/
inductive Fault where
  | empty
  | noScheme
  | emptyHost
  | hostName
  | hostCharacter
  | ipv4
  | ipv6
  | port
  deriving DecidableEq, Repr

/-- The fault in words. -/
def Fault.words : Fault → Text
  | .empty => "input is empty"
  | .noScheme => "relative URL without a base"
  | .emptyHost => "empty host"
  | .hostName => "invalid international domain name"
  | .hostCharacter => "invalid domain character"
  | .ipv4 => "invalid IPv4 address"
  | .ipv6 => "invalid IPv6 address"
  | .port => "invalid port number"

/-- A part with a mark before it, if there is the part. -/
def marked (mark : Text) : Option Text → Text
  | some t => mark ++ t
  | none => []

/-- The text of an address. A path that could be taken for a host is kept apart from the scheme. -/
def text (url : Url) : Text :=
  let place := match url.host with
    | some host => "//" ++ url.credentials ++ host ++ marked ":" (url.port.map Text.ofNat)
    | none => if Text.startsWith url.path "//" then "/." else []
  url.scheme ++ ":" ++ place ++ url.path ++ marked "?" url.query ++ marked "#" url.fragment

/-- The octet as an escape. -/
def escapedOctet (octet : UInt8) : Text := "%" ++ Text.asciiUpper (Text.hex 2 octet.toNat)

/-- Escapes the octets of what may not stand as it is; only printable ASCII ever may. -/
def escape (isKept : Point → Bool) (t : Text) : Text :=
  t.flatMap fun p =>
    if 32 ≤ p.val && p.val < 127 && isKept p then [p] else (Utf8.encodePoint p).flatMap escapedOctet

/-- The value of a digit in a base. -/
def digitIn? (base : Nat) (p : Point) : Option Nat := p.asciiDigit?.filter (· < base)

/-- Text with its escapes resolved. -/
def resolvedOctets : Text → Bytes
  | p :: a :: b :: rest =>
    match digitIn? 16 a, digitIn? 16 b with
    | some high, some low =>
      if p.is '%' then UInt8.ofNat (high * 16 + low) :: resolvedOctets rest
      else Utf8.encodePoint p ++ resolvedOctets (a :: b :: rest)
    | _, _ => Utf8.encodePoint p ++ resolvedOctets (a :: b :: rest)
  | p :: rest => Utf8.encodePoint p ++ resolvedOctets rest
  | [] => []

/-- A text read with its escapes resolved. -/
def resolved (t : Text) : Text := if t.any (·.is '%') then Utf8.decodeLossy (resolvedOctets t) else t

/-- Whether a character is none of some. -/
def isNoneOf (chars : List Char) (p : Point) : Bool := !chars.any fun c => p.is c

def anyPrintable (_ : Point) : Bool := true

def inFragment : Point → Bool := isNoneOf [' ', '"', '<', '>', Char.ofNat 96]

def inQuery (isSpecial : Bool) : Point → Bool :=
  isNoneOf ([' ', '"', '#', '<', '>'] ++ if isSpecial then ['\''] else [])

def inPath (p : Point) : Bool := inFragment p && isNoneOf ['#', '?', '\x7b', '\x7d'] p

def inCredentials (p : Point) : Bool :=
  inPath p && isNoneOf ['/', ':', ';', '=', '@', '[', '\\', ']', '^', '|'] p

end Url

end PhaseScript
