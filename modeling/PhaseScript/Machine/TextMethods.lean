import PhaseScript.Machine.Intake
import PhaseScript.Machine.Subscript
import PhaseScript.Text.Search
import PhaseScript.Codec.Catalog
/-
The methods of texts.
-/
set_option autoImplicit false

namespace PhaseScript.Machine

namespace Run

def mustBeText (v : Value) : Run Text :=
  match v with
  | .text t => return t
  | _ => typeErrorOf "must be str, not " v []

/-- The part of a row between two bounds as a search sees it, and where it begins; none where the beginning lies past
the end. -/
def searchedPart {α : Type} (row : List α) (start stop : Value) : Run (Option (Nat × List α)) := do
  let first ← sliceBound start
  let last ← sliceBound stop
  let length : Int := row.length
  let low := match first with
    | some n => if n < 0 then max 0 (n + length) else n
    | none => 0
  let high := match last with
    | some n => SlicePlaces.clamp row.length 0 length n
    | none => length
  if low > high then return none
  return some (low.toNat, (row.take high.toNat).drop low.toNat)

/-- Refuses a number of arguments of a search. -/
def checkSearch (name : String) (args : List (Option Value)) : Run Unit :=
  let n := args.length
  if n < 1 then typeError (Text.ofString name ++ "() takes at least 1 argument (" ++ Text.ofNat n ++ " given)")
  else if 3 < n then typeError (Text.ofString name ++ "() takes at most 3 arguments (" ++ Text.ofNat n ++ " given)")
  else return ()

/-- Looks for a text within bounds. -/
def searchText (name : String) (search : Text → Text → Option Nat) (t : Text) (args : List (Option Value)) :
    Run (Option Nat) := do
  checkSearch name args
  let part ← searchedPart t (argument args 1) (argument args 2)
  let needle ← mustBeText (argument args 0)
  return part.bind fun (start, part) => (search needle part).map (· + start)

def placeOrMinusOne (place : Option Nat) : Value :=
  match place with
  | some n => .int n
  | none => .int (-1)

def placeOrRaise (place : Option Nat) : Run Value :=
  match place with
  | some n => return .int n
  | none => valueError "substring not found"

/-- Whether a text begins or ends with a text or with one of several. -/
def affixTest (name : String) (test : Text → Text → Bool) (t : Text) (args : List (Option Value)) : Run Value := do
  checkSearch name args
  let part ← searchedPart t (argument args 1) (argument args 2)
  let holds (affix : Text) : Bool := match part with
    | some (_, part) => test affix part
    | none => false
  match argument args 0 with
  | .text affix => return .bool (holds affix)
  | .tuple items _ =>
    let found ← items.foldlM (fun found v => do
      if found then return true
      match v with
      | .text affix => return holds affix
      | _ => typeErrorOf ("tuple for " ++ Text.ofString name ++ " must only contain str, not ") v []) false
    return .bool found
  | v => typeErrorOf (Text.ofString name ++ " first arg must be str or a tuple of str, not ") v []

/-- The bound on cuts; a negative one is none. -/
def cutBound (v : Option Value) : Run (Option Nat) :=
  match v with
  | none => return none
  | some v => do
    let n ← sizeIndex v
    return if n < 0 then none else some n.toNat

def textList (items : List Text) : Run Value := newList (items.map .text)

/-- The pieces of a text. -/
def splitText (byWords : Option Nat → Text → List Text) (bySeparator : Text → Option Nat → Text → List Text)
    (t : Text) (args : List (Option Value)) : Run Value := do
  let most ← cutBound (given? args 1)
  match argument args 0 with
  | .none => textList (byWords most t)
  | .text separator =>
    if separator.isEmpty then valueError "empty separator" else textList (bySeparator separator most t)
  | v => typeErrorOf "must be str or None, not " v []

/-- Whether the ends of lines are kept. -/
def keepsEnds (args : List (Option Value)) : Run Bool := do
  match given? args 0 with
  | none => return false
  | some v => return (← wordIndex v) != 0

/-- The text without what some points are at its ends. -/
def stripped (name : String) (strip : (Point → Bool) → Text → Text) (t : Text) (args : List (Option Value)) :
    Run Value :=
  match argument args 0 with
  | .none => return .text (strip Point.isBlank t)
  | .text points => return .text (strip (fun p => points.contains p) t)
  | _ => typeError (Text.ofString name ++ " arg must be None or str")

/-- A text moved within a width. -/
def justified (place : Nat → Point → Text → Text) (t : Text) (args : List (Option Value)) :
    Run Value := do
  let width ← sizeIndex (argument args 0)
  match given? args 1 with
  | none => return .text (place (← roomFor width) (Point.ofChar ' ') t)
  | some (.text [fill]) => return .text (place (← roomFor width) fill t)
  | some (.text _) => typeError "The fill character must be exactly one character long"
  | some v => typeErrorOf "The fill character must be a unicode character, not " v []

def mustBeTextArgument (named : String) (v : Value) : Run Text :=
  match v with
  | .text t => return t
  | _ => refuseArgument (Text.ofString named ++ " must be str") v

/-- The three parts of a text around an occurrence. -/
def parted (cut : Text → Text → Option (Text × Text)) (whenAbsent : Text → List Text) (t : Text)
    (args : List (Option Value)) : Run Value := do
  let separator ← mustBeText (argument args 0)
  if separator.isEmpty then valueError "empty separator"
  match cut separator t with
  | some (before, after) => newTuple [.text before, .text separator, .text after]
  | none => newTuple ((whenAbsent t).map .text)

/-- The items that are to be joined. -/
def joinedItems (m : Interp) (v : Value) : Run (List Value) := do
  match ← catching (itemsOf m v) with
  | .ok items => return items
  | .error e =>
    match ← catching (iterator v) with
    | .ok _ => raiseValue e
    | .error _ => typeError "can only join an iterable"

/-- The texts of a value's items, for joining. -/
def joinedTexts (m : Interp) (separator : Text) (v : Value) : Run Value := do
  let texts ← (← joinedItems m v).zipIdx.mapM fun (item, place) => match item with
    | .text t => return t
    | _ => typeErrorOf ("sequence item " ++ Text.ofNat place ++ ": expected str instance, ") item " found"
  return .text (Text.join separator texts)

/-- What a table of replacements makes of a point. -/
def translatedPoint (get : Value → Value → Run Value) (table : Value) (p : Point) : Run Text := do
  match ← catching (get table (.int (Int.ofNat p.val))) with
  | .ok (.text t) => return t
  | .ok .none => return []
  | .ok v =>
    match v.int? with
    | some n =>
      if n < 0 || n > 0x10FFFF then valueError "character mapping must be in range(0x110000)"
      return [Point.ofNat n.toNat]
    | none => typeError "character mapping must return integer, None or str"
  | .error (.ref address) => do
    match ← cellAt address with
    | .exception kind _ _ => if kind.is .lookupError then return [p] else raiseValue (.ref address)
    | _ => raiseValue (.ref address)
  | .error e => raiseValue e

/-- A name as it is looked up. It is a text of characters without the character that ends names. -/
def lookedUp (name : Text) : Run Text := do
  if let .error fault := Utf8.encodeStrict name then
    raiseArgs .unicodeEncodeError [.text "utf-8", .text name, .int fault.start,
      .int (Int.ofNat (fault.start + fault.count)), .text "surrogates not allowed"]
  if name.any (·.val == 0) then valueError "embedded null character"
  return name

/-- The encoding and the policy that arguments name; what they are called in complaints is given. -/
def codecArguments (caller : String) (args : List (Option Value)) : Run (Text × Text) := do
  let named (place : Nat) (what otherwise : String) : Run Text :=
    match given? args place with
    | none => return Text.ofString otherwise
    | some v => do lookedUp (← mustBeTextArgument (caller ++ "() argument '" ++ what ++ "'") v)
  let encoding ← named 0 "encoding" "utf-8"
  return (encoding, ← named 1 "errors" "strict")

/-- The codec of a name, and whether it is a common one. What is to be done is told in a complaint. -/
def codecNamed (action : Text) (name : Text) : Run (Codec × Bool) :=
  match Codec.ofName? name with
  | some (.text codec isCommon) => return (codec, isCommon)
  | some .other =>
    raise .lookupError ("'" ++ name ++ "' is not a text encoding; use codecs." ++ action
      ++ "() to handle arbitrary codecs")
  | none => raise .lookupError ("unknown encoding: " ++ name)

/-- Raises an exception about a piece of a whole. Its arguments are about the first such piece, if that is another. -/
def raisePiece (kind : ExceptionKind) (codec : String) (whole : Value) (now first : Complaint) : Run Value := do
  let args (told : Complaint) : List Value := [.int told.start, .int told.stop, .text (Text.ofString told.reason)]
  let details := if now == first then [] else (["start", "end", "reason"].map Text.ofString).zip (args now)
  raiseValue (← alloc (.exception kind (.text (Text.ofString codec) :: whole :: args first) details))

/-- Raises the fault of a codec. A codec that is not a common one is named with what it says itself. -/
def raiseCodecFault (doing name : Text) (isCommon : Bool) (t : Text) (fault : CodecFault) : Run Value :=
  let complain (kind : ExceptionKind) (words : Text) : Run Value :=
    raise kind (if isCommon then words
      else doing ++ " with '" ++ name ++ "' codec failed (" ++ Text.ofString kind.name ++ ": " ++ words ++ ")")
  match fault with
  | .encoding codec now first => raisePiece .unicodeEncodeError codec (.text t) now first
  | .decoding fault first =>
    raisePiece .unicodeDecodeError fault.encoding (.bytes fault.octets) ⟨fault.start, fault.stop, fault.reason⟩ first
  | .unstable given written =>
    raiseArgs .unicodeError [.text "IDNA does not round-trip", .bytes given, .bytes written]
  | .refused words => complain .unicodeError words
  | .unknownPolicy policy => complain .lookupError ("unknown error handler name '" ++ policy ++ "'")
  | .noNames => raise .importError "PyCapsule_Import could not import module \"unicodedata\""
  | .unfitPolicy => complain .typeError "don't know how to handle UnicodeDecodeError in error callback"

/-- The octets of a text in a named encoding. -/
def encodedText (t : Text) (args : List (Option Value)) : Run Value := do
  let (name, errors) ← codecArguments "encode" args
  let (codec, isCommon) ← codecNamed "encode" name
  match codec.encode errors t with
  | .ok b => return .bytes b
  | .error fault => raiseCodecFault "encoding" name isCommon t fault

/-- The text of octets in a named encoding. Where there are none, the names are not looked up. -/
def decodedBytes (caller : String) (b : Bytes) (args : List (Option Value)) : Run Value := do
  let (name, errors) ← codecArguments caller args
  if b.isEmpty then return .text []
  let (codec, isCommon) ← codecNamed "decode" name
  match codec.decode errors b with
  | .ok t => return .text t
  | .error fault => raiseCodecFault "decoding" name isCommon [] fault

end Run

open Run

/-- A method that makes another text of a text. -/
def mappedText (name : String) (f : Text → Text) : Method Text :=
  ⟨name, .nothing true, fun _ t _ => return .text (f t)⟩

/-- A method that tests a text. -/
def textTest (name : String) (f : Text → Bool) : Method Text :=
  ⟨name, .nothing true, fun _ t _ => return .bool (f t)⟩

/-- The methods of texts. -/
def textMethods : List (Method Text) := [
  mappedText "upper" Text.upper,
  mappedText "lower" Text.lower,
  mappedText "title" Text.title,
  mappedText "capitalize" Text.capitalize,
  mappedText "casefold" Text.caseFold,
  mappedText "swapcase" Text.swapCase,
  textTest "isalnum" (Text.allOf Point.isAlphanumeric),
  textTest "isalpha" (Text.allOf Point.isAlpha),
  textTest "isascii" fun t => t.all fun p => p.val < 128,
  textTest "isdecimal" (Text.allOf Point.isDecimal),
  textTest "isdigit" (Text.allOf Point.isDigit),
  textTest "isidentifier" Text.isName,
  textTest "islower" (Text.allCased Point.isLower),
  textTest "isnumeric" (Text.allOf Point.isNumeric),
  textTest "isprintable" fun t => t.all Point.isPrintable,
  textTest "isspace" (Text.allOf Point.isBlank),
  textTest "istitle" Text.isTitle,
  textTest "isupper" (Text.allCased Point.isUpper),
  ⟨"center", .span 1 2, fun _ t args => justified Text.center t args⟩,
  ⟨"ljust", .span 1 2, fun _ t args => justified (fun w fill t => t ++ List.replicate (w - t.length) fill) t args⟩,
  ⟨"rjust", .span 1 2, fun _ t args => justified (fun w fill t => List.replicate (w - t.length) fill ++ t) t args⟩,
  ⟨"zfill", .single, fun _ t args => do return .text (Text.zeroFill (← roomFor (← sizeIndex (argument args 0))) t)⟩,
  ⟨"count", .any, fun _ t args => do
    checkSearch "count" args
    let part ← searchedPart t (argument args 1) (argument args 2)
    let needle ← mustBeText (argument args 0)
    return .int (Int.ofNat ((part.map fun (_, part) => Row.count needle part).getD 0))⟩,
  ⟨"find", .any, fun _ t args => do return placeOrMinusOne (← searchText "find" Row.find? t args)⟩,
  ⟨"rfind", .any, fun _ t args => do return placeOrMinusOne (← searchText "rfind" Row.findLast? t args)⟩,
  ⟨"index", .any, fun _ t args => do placeOrRaise (← searchText "index" Row.find? t args)⟩,
  ⟨"rindex", .any, fun _ t args => do placeOrRaise (← searchText "rindex" Row.findLast? t args)⟩,
  ⟨"startswith", .any, fun _ t args => affixTest "startswith" List.isPrefixOf t args⟩,
  ⟨"endswith", .any, fun _ t args => affixTest "endswith" List.isSuffixOf t args⟩,
  ⟨"encode", .named ⟨["encoding", "errors"], 0, 0, 2⟩, fun _ t args => encodedText t args⟩,
  ⟨"expandtabs", .named ⟨["tabsize"], 0, 0, 1⟩, fun _ t args => do
    let size ← match given? args 0 with
      | none => pure 8
      | some v => wordIndex v
    return .text (Text.expandTabs (← roomFor size) 0 t)⟩,
  ⟨"join", .single, fun m t args => joinedTexts m t (argument args 0)⟩,
  ⟨"partition", .single, fun _ t args => parted Row.cut? (fun t => [t, [], []]) t args⟩,
  ⟨"rpartition", .single, fun _ t args => parted Row.cutLast? (fun t => [[], [], t]) t args⟩,
  ⟨"removeprefix", .single, fun _ t args => do
    let lead ← mustBeTextArgument "removeprefix() argument" (argument args 0)
    return .text (if lead.isPrefixOf t then t.drop lead.length else t)⟩,
  ⟨"removesuffix", .single, fun _ t args => do
    let tail ← mustBeTextArgument "removesuffix() argument" (argument args 0)
    return .text (if tail.isSuffixOf t then t.take (t.length - tail.length) else t)⟩,
  ⟨"replace", .span 2 3, fun _ t args => do
    let old ← mustBeTextArgument "replace() argument 1" (argument args 0)
    let new ← mustBeTextArgument "replace() argument 2" (argument args 1)
    return .text (Row.replace old new (← cutBound (given? args 2)) t)⟩,
  ⟨"split", .named ⟨["sep", "maxsplit"], 0, 0, 2⟩, fun _ t args => splitText Text.words Row.split t args⟩,
  ⟨"rsplit", .named ⟨["sep", "maxsplit"], 0, 0, 2⟩, fun _ t args => splitText Text.wordsLast Row.splitLast t args⟩,
  ⟨"splitlines", .named ⟨["keepends"], 0, 0, 1⟩, fun _ t args => do
    textList (Text.lines (← keepsEnds args) t)⟩,
  ⟨"strip", .span 0 1, fun _ t args => stripped "strip" Text.stripBy t args⟩,
  ⟨"lstrip", .span 0 1, fun _ t args => stripped "lstrip" List.dropWhile t args⟩,
  ⟨"rstrip", .span 0 1, fun _ t args => stripped "rstrip" Text.dropEndWhile t args⟩,
  ⟨"translate", .single, fun _ t args => do
    return .text (← t.mapM (translatedPoint item (argument args 0))).flatten⟩]

end PhaseScript.Machine
