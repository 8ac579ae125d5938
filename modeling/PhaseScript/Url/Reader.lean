import PhaseScript.Url.HostName
/-
Reading addresses. A few schemes are special: they always have a host, and take a backslash for a slash. What is read
is the normal form; two texts that mean the same address are read alike.
-/
set_option autoImplicit false

namespace PhaseScript.Url

/-- The special schemes and their usual ports. -/
def specialSchemes : List (Text × Option Nat) :=
  [("http", some 80), ("https", some 443), ("ws", some 80), ("wss", some 443), ("ftp", some 21), ("file", none)]

def isSpecialScheme (scheme : Text) : Bool := specialSchemes.any fun entry => entry.1 == scheme

def usualPort? (scheme : Text) : Option Nat := ((specialSchemes.find? fun entry => entry.1 == scheme).map (·.2)).join

def isSlash (isSpecial : Bool) (p : Point) : Bool := p.is '/' || (isSpecial && p.is '\\')

/-- Blanks around an address, and tabs and line ends within it, do not count. -/
def cleaned (t : Text) : Text :=
  (Text.stripBy (fun p => p.val ≤ 32) t).filter fun p => !(p.is '\t' || p.is '\n' || p.is '\r')

/-- The scheme in small letters, and what follows its colon. -/
def takeScheme (t : Text) : Option (Text × Text) :=
  let isOfScheme (p : Point) : Bool := p.isAsciiLetter || p.isAsciiDigit || p.is '+' || p.is '-' || p.is '.'
  match t.takeWhile isOfScheme, t.dropWhile isOfScheme with
  | first :: name, colon :: rest =>
    if first.isAsciiLetter && colon.is ':' then some (Text.asciiLower (first :: name), rest) else none
  | _, _ => none

/-- The user and the password as they are written, with the marks around them. -/
def readCredentials (t : Text) : Text :=
  let user := escape inCredentials (t.takeWhile fun p => !p.is ':')
  let password := escape inCredentials ((t.dropWhile fun p => !p.is ':').drop 1)
  if user.isEmpty && password.isEmpty then []
  else user ++ (if password.isEmpty then [] else Point.ofChar ':' :: password) ++ [Point.ofChar '@']

/-- The port, if it is not the usual one. -/
def readPort (usual : Option Nat) (digits : Text) : Except Fault (Option Nat) :=
  if digits.isEmpty then .ok none
  else if !digits.all Point.isAsciiDigit then .error .port
  else
    let port := valueIn 10 digits
    if 65535 < port then .error .port else .ok (if some port == usual then none else some port)

/-- Splits a text at its last mark. -/
def splitLastAt (c : Char) (t : Text) : Option (Text × Text) :=
  let after := (t.reverse.takeWhile fun p => !p.is c).reverse
  if after.length < t.length then some (t.take (t.length - after.length - 1), after) else none

/-- Splits a host from the colon and the port after it; a colon in brackets is part of the host. -/
def splitPort : Bool → Text → Text × Option Text
  | _, [] => ([], none)
  | inBrackets, p :: rest =>
    if p.is ':' && !inBrackets then ([], some rest)
    else
      let (host, port) := splitPort (p.is '[' || (inBrackets && !p.is ']')) rest
      (p :: host, port)

/-- A host with what stands before and after it. -/
structure Authority where
  credentials : Text
  host : Text
  port : Option Nat

/-- Reads what stands between the two slashes and the path. -/
def readAuthority (scheme : Text) (t : Text) : Except Fault Authority := do
  let isSpecial := isSpecialScheme scheme
  let (credentials, place) := match splitLastAt '@' t with
    | some (before, after) => (readCredentials before, after)
    | none => ([], t)
  let (host, port) := splitPort false place
  if host.isEmpty && (isSpecial || port.isSome || !credentials.isEmpty) then .error .emptyHost
  let host ← if isSpecial then readHost host else readOpaqueHost host
  return ⟨credentials, host, ← readPort (usualPort? scheme) (port.getD [])⟩

/-- A part of a path that stands for the directory itself. -/
def isSingleDot (t : Text) : Bool := t.is "." || (Text.asciiLower t).is "%2e"

/-- A part of a path that stands for the directory above. -/
def isDoubleDot (t : Text) : Bool :=
  let t := Text.asciiLower t
  t.is ".." || t.is ".%2e" || t.is "%2e." || t.is "%2e%2e"

/-- Whether a part of a path is the letter of a drive. -/
def isDrive (part : Text) : Bool :=
  match part with
  | [letter, mark] => letter.isAsciiLetter && (mark.is ':' || mark.is '|')
  | _ => false

/-- The directory above one, given by its parts, the last first. No path leads out of a drive. -/
def above : List Text → List Text
  | [] => []
  | part :: found => if isDrive part then part :: found else found

/-- A path that begins with a drive, if its first part does; the mark after the letter becomes a colon. What follows
the colon at once is a part of its own. -/
def driveParts? (part : Text) : Option (List Text) :=
  match part with
  | [letter, _] => if isDrive part then some [[letter, Point.ofChar ':']] else none
  | letter :: colon :: rest =>
    if letter.isAsciiLetter && colon.is ':' then some [escape inPath rest, [letter, colon]] else none
  | _ => none

/-- Goes one part further along a path, given by its parts, the last first. Only the path of a file begins with a
drive. -/
def enter (isFile : Bool) (found : List Text) (part : Text) : List Text :=
  if isDoubleDot part then above found
  else if isSingleDot part then found
  else match (if isFile && found.isEmpty then driveParts? part else none) with
    | some parts => parts
    | none => escape inPath part :: found

/-- Resolves the parts of a path. What stands for a directory at the end leaves an empty part. -/
def resolveParts (isFile : Bool) (parts : List Text) : List Text :=
  let found := parts.foldl (enter isFile) []
  let endsInDirectory := match parts.getLast? with
    | some part => isDoubleDot part || isSingleDot part
    | none => false
  (if endsInDirectory then [] :: found else found).reverse

/-- Splits a path at its slashes. -/
def splitPath (isSpecial : Bool) (t : Text) : List Text :=
  Text.splitAtPoint '/' (t.map fun p => if isSlash isSpecial p then Point.ofChar '/' else p)

/-- A path in its normal form; a slash at the beginning has been dropped. -/
def readPath (isSpecial : Bool) (t : Text) : Text :=
  "/" ++ Text.join "/" (resolveParts false (splitPath isSpecial t))

/-- The path that follows a host. -/
def pathAfterHost (isSpecial : Bool) (t : Text) : Text :=
  match t with
  | [] => if isSpecial then "/" else []
  | p :: rest => if isSlash isSpecial p then readPath isSpecial rest else readPath isSpecial t

/-- Whether some part of a path is the drive it begins with, as the path is walked. -/
def reachesDrive (parts : List Text) : Bool :=
  parts.zipIdx.any fun (part, place) => ((parts.take place).foldl (enter true) []).isEmpty && isDrive part

/-- The host and the path of a file. A drive is on no host, and stands where a host might. -/
def readFile (t : Text) : Except Fault (Text × Text) := do
  let slashes := t.takeWhile (isSlash true)
  let after := t.drop 2
  let place := after.takeWhile fun p => !isSlash true p
  let hasHost := 2 ≤ slashes.length && !isDrive place
  let path := if slashes.length < 2 then t.drop slashes.length
    else if hasHost then (after.drop place.length).drop 1 else after
  let host : Text ← if hasHost && !place.isEmpty then readHost place else .ok []
  let parts := splitPath true path
  let resolved := (resolveParts true parts).dropWhile List.isEmpty
  return (if Text.is host "localhost" || reachesDrive parts then [] else host, "/" ++ Text.join "/" resolved)

/-- Reads what follows the scheme, up to the question mark. -/
def readPlace (scheme t : Text) : Except Fault (Authority × Bool × Text) := do
  let isSpecial := isSpecialScheme scheme
  if scheme.is "file" then
    let (host, path) ← readFile t
    return (⟨[], host, none⟩, true, path)
  else if isSpecial || Text.startsWith t "//" then
    let after := if isSpecial then t.dropWhile (isSlash true) else t.drop 2
    let authority ← readAuthority scheme (after.takeWhile fun p => !isSlash isSpecial p)
    return (authority, true, pathAfterHost isSpecial (after.dropWhile fun p => !isSlash isSpecial p))
  else
    let path := if Text.startsWith t "/" then readPath false (t.drop 1) else escape anyPrintable t
    return (⟨[], [], none⟩, false, path)

/-- What stands before a mark and what stands after it. -/
def cutAt (c : Char) (t : Text) : Text × Option Text :=
  match t.dropWhile fun p => !p.is c with
  | [] => (t, none)
  | _ :: after => (t.takeWhile fun p => !p.is c, some after)

/-- Reads an address. -/
def ofText (t : Text) : Except Fault Url :=
  if t.isEmpty then .error .empty
  else match takeScheme (cleaned t) with
    | none => .error .noScheme
    | some (scheme, rest) => do
      let (rest, fragment) := cutAt '#' rest
      let (rest, query) := cutAt '?' rest
      let (authority, hasHost, path) ← readPlace scheme rest
      return {
        scheme, path, credentials := authority.credentials, port := authority.port
        host := if hasHost then some authority.host else none
        query := query.map (escape (inQuery (isSpecialScheme scheme)))
        fragment := fragment.map (escape inFragment) }

end PhaseScript.Url
