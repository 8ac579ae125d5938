import PhaseScript.Machine.TextMethods
import PhaseScript.Text.Octets
/-
The methods of octets. Most are those of texts, with letters and blanks of ASCII only.
-/
set_option autoImplicit false

namespace PhaseScript.Machine

namespace Run

def mustBeBytes (v : Value) : Run Bytes :=
  match v with
  | .bytes b => return b
  | _ => typeErrorOf "a bytes-like object is required, not '" v "'"

/-- What is looked for in octets: octets, or a single one as a number. -/
def soughtOctets (v : Value) : Run Bytes :=
  match v with
  | .bytes b => return b
  | _ => match v.int? with
    | some n => if 0 ≤ n && n ≤ 255 then return [UInt8.ofNat n.toNat] else valueError "byte must be in range(0, 256)"
    | none => typeErrorOf "argument should be integer or bytes-like object, not '" v "'"

/-- Looks for octets within bounds. -/
def searchOctets (name : String) (search : Bytes → Bytes → Option Nat) (b : Bytes) (args : List (Option Value)) :
    Run (Option Nat) := do
  checkSearch name args
  let part ← searchedPart b (argument args 1) (argument args 2)
  let needle ← soughtOctets (argument args 0)
  return part.bind fun (start, part) => (search needle part).map (· + start)

def octetPlaceOrRaise (place : Option Nat) : Run Value :=
  match place with
  | some n => return .int n
  | none => valueError "subsection not found"

/-- Whether octets begin or end with octets or with one of several. -/
def octetAffixTest (name : String) (test : Bytes → Bytes → Bool) (b : Bytes) (args : List (Option Value)) :
    Run Value := do
  checkSearch name args
  let part ← searchedPart b (argument args 1) (argument args 2)
  let holds (affix : Bytes) : Bool := part.any fun (_, part) => test affix part
  match argument args 0 with
  | .bytes affix => return .bool (holds affix)
  | .tuple items _ =>
    let found ← items.foldlM (fun found v => do
      if found then return true
      return holds (← mustBeBytes v)) false
    return .bool found
  | v => typeErrorOf (Text.ofString name ++ " first arg must be bytes or a tuple of bytes, not ") v []

/-- A number of octets that still fit into memory; a negative one is none. -/
def octetRoom (n : Int) : Run Nat :=
  if n > 2 ^ 63 - 34 then raise .overflowError "byte string is too large" else roomFor n

/-- Octets moved within a width. -/
def justifiedOctets (name : String) (place : Nat → Point → Text → Text) (b : Bytes) (args : List (Option Value)) :
    Run Value := do
  let width ← sizeIndex (argument args 0)
  let fill ← match given? args 1 with
    | none => pure (Point.ofChar ' ')
    | some (.bytes [o]) => pure (Point.ofNat o.toNat)
    | some v =>
      refuseArgument (Text.ofString name ++ "() argument 2 must be a byte string of length 1") v
  return .bytes (Bytes.ofPoints (place (← octetRoom width) fill (Bytes.toPoints b)))

def octetList (pieces : List Bytes) : Run Value := newList (pieces.map .bytes)

/-- The pieces of octets. -/
def splitOctets (byWords : Option Nat → Bytes → List Bytes) (bySeparator : Bytes → Option Nat → Bytes → List Bytes)
    (b : Bytes) (args : List (Option Value)) : Run Value := do
  let most ← cutBound (given? args 1)
  match argument args 0 with
  | .none => octetList (byWords most b)
  | v =>
    let separator ← mustBeBytes v
    if separator.isEmpty then valueError "empty separator" else octetList (bySeparator separator most b)

/-- Octets without what some are at their ends. -/
def strippedOctets (strip : (UInt8 → Bool) → Bytes → Bytes) (b : Bytes) (args : List (Option Value)) : Run Value := do
  match argument args 0 with
  | .none => return .bytes (strip Bytes.isBlank b)
  | v =>
    let octets ← mustBeBytes v
    return .bytes (strip (fun o => octets.contains o) b)

/-- The three parts of octets around an occurrence. -/
def partedOctets (cut : Bytes → Bytes → Option (Bytes × Bytes)) (whenAbsent : Bytes → List Bytes) (b : Bytes)
    (args : List (Option Value)) : Run Value := do
  let separator ← mustBeBytes (argument args 0)
  if separator.isEmpty then valueError "empty separator"
  match cut separator b with
  | some (before, after) => newTuple [.bytes before, .bytes separator, .bytes after]
  | none => newTuple ((whenAbsent b).map .bytes)

/-- The octets of a value's items, for joining. -/
def joinedOctets (m : Interp) (separator : Bytes) (v : Value) : Run Value := do
  let octets ← (← joinedItems m v).zipIdx.mapM fun (item, place) => match item with
    | .bytes b => return b
    | _ => typeErrorOf ("sequence item " ++ Text.ofNat place ++ ": expected a bytes-like object, ") item " found"
  return .bytes (Row.join separator octets)

/-- Octets as hexadecimal digits, perhaps in groups. -/
def octetDigits (b : Bytes) (args : List (Option Value)) : Run Value := do
  let size ← match given? args 1 with
    | none => pure 1
    | some v => wordIndex v
  let separator ← match given? args 0 with
    | none => pure []
    | some v => do
      let separator ← match v with
        | .text t => pure t
        | .bytes b => pure (Bytes.toPoints b)
        | _ => match ← length? v with
          | none => typeErrorOf "object of type '" v "' has no len()"
          | some 1 => typeError "sep must be str or bytes."
          | some _ => valueError "sep must be length 1."
      if separator.length != 1 then valueError "sep must be length 1."
      if separator.any fun p => 128 ≤ p.val then valueError "sep must be ASCII."
      pure separator
  return .text (Bytes.hexText separator size b)

/-- Octets with each replaced as a table says, after some are left out. -/
def translatedOctets (b : Bytes) (args : List (Option Value)) : Run Value := do
  let table ← match argument args 0 with
    | .none => pure none
    | v => do pure (some (← mustBeBytes v))
  if table.any fun t => t.length != 256 then valueError "translation table must be 256 characters long"
  let dropped ← match given? args 1 with
    | none => pure []
    | some v => mustBeBytes v
  let kept := b.filter fun o => !dropped.contains o
  match table with
  | none => return .bytes kept
  | some table => return .bytes (kept.map fun o => table.getD o.toNat o)

end Run

open Run

/-- A method that makes other octets of octets. -/
def mappedOctets (name : String) (f : Bytes → Bytes) : Method Bytes :=
  ⟨name, .nothing false, fun _ b _ => return .bytes (f b)⟩

/-- A method that tests octets. -/
def octetTest (name : String) (f : Bytes → Bool) : Method Bytes :=
  ⟨name, .nothing false, fun _ b _ => return .bool (f b)⟩

/-- The methods of octets. -/
def bytesMethods : List (Method Bytes) := [
  mappedOctets "upper" (·.map Bytes.toUpper),
  mappedOctets "lower" (·.map Bytes.toLower),
  mappedOctets "swapcase" (·.map Bytes.swapCase),
  mappedOctets "capitalize" Bytes.capitalize,
  mappedOctets "title" (Bytes.titleFrom false),
  octetTest "isalnum" (Bytes.allOf fun o => Bytes.isLetter o || Bytes.isDigit o),
  octetTest "isalpha" (Bytes.allOf Bytes.isLetter),
  octetTest "isascii" fun b => b.all (· < 128),
  octetTest "isdigit" (Bytes.allOf Bytes.isDigit),
  octetTest "islower" (Bytes.allCased Bytes.isLower),
  octetTest "isspace" (Bytes.allOf Bytes.isBlank),
  octetTest "istitle" (Bytes.isTitleFrom false false),
  octetTest "isupper" (Bytes.allCased Bytes.isUpper),
  ⟨"center", .span 1 2, fun _ b args => justifiedOctets "center" Text.center b args⟩,
  ⟨"ljust", .span 1 2, fun _ b args =>
    justifiedOctets "ljust" (fun w fill t => t ++ List.replicate (w - t.length) fill) b args⟩,
  ⟨"rjust", .span 1 2, fun _ b args =>
    justifiedOctets "rjust" (fun w fill t => List.replicate (w - t.length) fill ++ t) b args⟩,
  ⟨"zfill", .single, fun _ b args => do
    return .bytes (Bytes.ofPoints (Text.zeroFill (← octetRoom (← sizeIndex (argument args 0))) (Bytes.toPoints b)))⟩,
  ⟨"count", .any, fun _ b args => do
    checkSearch "count" args
    let part ← searchedPart b (argument args 1) (argument args 2)
    let needle ← soughtOctets (argument args 0)
    return .int (Int.ofNat ((part.map fun (_, part) => Row.count needle part).getD 0))⟩,
  ⟨"find", .any, fun _ b args => do return placeOrMinusOne (← searchOctets "find" Row.find? b args)⟩,
  ⟨"rfind", .any, fun _ b args => do return placeOrMinusOne (← searchOctets "rfind" Row.findLast? b args)⟩,
  ⟨"index", .any, fun _ b args => do octetPlaceOrRaise (← searchOctets "index" Row.find? b args)⟩,
  ⟨"rindex", .any, fun _ b args => do octetPlaceOrRaise (← searchOctets "rindex" Row.findLast? b args)⟩,
  ⟨"startswith", .any, fun _ b args => octetAffixTest "startswith" List.isPrefixOf b args⟩,
  ⟨"endswith", .any, fun _ b args => octetAffixTest "endswith" List.isSuffixOf b args⟩,
  ⟨"decode", .named ⟨["encoding", "errors"], 0, 0, 2⟩, fun _ b args => decodedBytes "decode" b args⟩,
  ⟨"hex", .named ⟨["sep", "bytes_per_sep"], 0, 0, 2⟩, fun _ b args => octetDigits b args⟩,
  ⟨"expandtabs", .named ⟨["tabsize"], 0, 0, 1⟩, fun _ b args => do
    let size ← match given? args 0 with
      | none => pure 8
      | some v => wordIndex v
    return .bytes (Bytes.ofPoints (Text.expandTabs (← roomFor size) 0 (Bytes.toPoints b)))⟩,
  ⟨"join", .single, fun m b args => joinedOctets m b (argument args 0)⟩,
  ⟨"partition", .single, fun _ b args => partedOctets Row.cut? (fun b => [b, [], []]) b args⟩,
  ⟨"rpartition", .single, fun _ b args => partedOctets Row.cutLast? (fun b => [[], [], b]) b args⟩,
  ⟨"removeprefix", .single, fun _ b args => do
    let lead ← mustBeBytes (argument args 0)
    return .bytes (if lead.isPrefixOf b then b.drop lead.length else b)⟩,
  ⟨"removesuffix", .single, fun _ b args => do
    let tail ← mustBeBytes (argument args 0)
    return .bytes (if tail.isSuffixOf b then b.take (b.length - tail.length) else b)⟩,
  ⟨"replace", .span 2 3, fun _ b args => do
    let most ← cutBound (given? args 2)
    return .bytes (Row.replace (← mustBeBytes (argument args 0)) (← mustBeBytes (argument args 1)) most b)⟩,
  ⟨"split", .named ⟨["sep", "maxsplit"], 0, 0, 2⟩, fun _ b args =>
    splitOctets (Row.words Bytes.isBlank) Row.split b args⟩,
  ⟨"rsplit", .named ⟨["sep", "maxsplit"], 0, 0, 2⟩, fun _ b args =>
    splitOctets (Row.wordsLast Bytes.isBlank) Row.splitLast b args⟩,
  ⟨"splitlines", .named ⟨["keepends"], 0, 0, 1⟩, fun _ b args => do
    octetList (Row.lines Bytes.lineEnds (← keepsEnds args) b)⟩,
  ⟨"strip", .span 0 1, fun _ b args => strippedOctets Row.strip b args⟩,
  ⟨"lstrip", .span 0 1, fun _ b args => strippedOctets List.dropWhile b args⟩,
  ⟨"rstrip", .span 0 1, fun _ b args => strippedOctets Row.stripEnd b args⟩,
  ⟨"translate", .named ⟨["", "delete"], 1, 1, 2⟩, fun _ b args => translatedOctets b args⟩]

end PhaseScript.Machine
