import PhaseScript.Datum.Basic
import PhaseScript.Text.Quoted
/-
The two texts of a datum: the quoted one, which shows what it is inside a container, and the plain one, which a
reader is shown. They differ for text itself and for what has a text of its own, such as an exception or a day.
-/
set_option autoImplicit false

namespace PhaseScript

/-- The shortest digits of a number without the point that an integral one ends with. -/
def Binary64.textBare (x : Binary64) : Text :=
  let t := x.text
  if Text.endsWith t ".0" then t.take (t.length - 2) else t

/-- A complex number: the imaginary part alone where the real one is a positive zero. -/
def complexText (re im : Binary64) : Text :=
  if re.isZero && !re.isNegative then im.textBare ++ "j"
  else
    let tail := im.textBare
    let signed := if im.isNegative && !im.isNaN then tail else "+" ++ tail
    "(" ++ re.textBare ++ signed ++ "j)"

/-- The five groups of hexadecimal digits of an identifier. -/
def uuidText (n : Nat) : Text :=
  let h := Text.hex 32 n
  Text.join "-" [h.take 8, (h.drop 8).take 4, (h.drop 12).take 4, (h.drop 16).take 4, h.drop 20]

namespace Datum

/-- The quoted form of a tuple from those of its items; a single one is followed by a comma. -/
def tupleText : List Text → Text
  | [item] => "(" ++ item ++ ",)"
  | items => "(" ++ Text.join ", " items ++ ")"

def setText (frozen : Bool) (items : List Text) : Text :=
  let body : Text := "\x7b" ++ Text.join ", " items ++ "\x7d"
  match frozen, items with
  | false, [] => "set()"
  | false, _ => body
  | true, [] => "frozenset()"
  | true, _ => "frozenset(" ++ body ++ ")"

mutual

/-- The quoted text. -/
def quoted : Datum → Text
  | .none => "None"
  | .bool true => "True"
  | .bool false => "False"
  | .int n => Text.ofInt n
  | .float x => x.text
  | .complex re im => complexText re im
  | .text t => Text.quoted t
  | .bytes b => Bytes.quoted b
  | .list items => "[" ++ Text.join ", " (quotedAll items) ++ "]"
  | .tuple items => tupleText (quotedAll items)
  | .set frozen items => setText frozen (quotedAll items)
  | .dict entries => "\x7b" ++ Text.join ", " (quotedEntries entries) ++ "\x7d"
  | .date d => d.constructorText
  | .week year number weekday =>
    "datetime.IsoCalendarDate(year=" ++ Text.ofInt year ++ ", week=" ++ Text.ofInt number ++ ", weekday="
      ++ Text.ofInt weekday ++ ")"
  | .clock t => t.constructorText
  | .moment m => m.constructorText
  | .duration d => d.constructorText
  | .decimal d => "Decimal('" ++ d.text ++ "')"
  | .uuid n => "UUID('" ++ uuidText n ++ "')"
  | .exception kind args _ =>
    Text.ofString kind.name ++ "(" ++ Text.join ", " (quotedAll args) ++ ")"
  | .promise false payload => "ResolvedPromise(" ++ quoted payload ++ ")"
  | .promise true payload => "RejectedPromise(" ++ quoted payload ++ ")"
  | .response _ _ => "<FetchResponse>"
  | .thing _ shown => shown
  | .object thenable attributes =>
    (if thenable then ("Thenable(" : Text) else "namespace(") ++ Text.join ", " (quotedMembers attributes)
      ++ ")"
  | .coroutine => "<coroutine>"
  | .awaitable => "<awaitable>"
  | .stub .. => "<function handler>"
  | .builtin name => "<built-in function " ++ name ++ ">"
  | .cycle shown => shown

def quotedAll : List Datum → List Text
  | [] => []
  | item :: items => quoted item :: quotedAll items

def quotedEntries : List (Datum × Datum) → List Text
  | [] => []
  | (key, value) :: entries => (quoted key ++ ": " ++ quoted value) :: quotedEntries entries

def quotedMembers : List (Text × Datum) → List Text
  | [] => []
  | (name, value) :: members => (name ++ "=" ++ quoted value) :: quotedMembers members

end

/-- How a complaint shows a character that it does not write as it is. -/
def shownPoint (p : Point) : Text :=
  if p.val < 0x100 then "\\x" ++ Text.hex 2 p.val
  else if p.val < 0x10000 then "\\u" ++ Text.hex 4 p.val else "\\U" ++ Text.hex 8 p.val

/-- The complaint about a piece of a whole: the one thing in it, or the places from which and up to which it goes. -/
def pieceComplaint (lead single noun : Text) (size : Nat) (start stop : Int) (reason : Text) : Text :=
  if start < Int.ofNat size && stop == start + 1 then
    lead ++ noun ++ " " ++ single ++ " in position " ++ Text.ofInt start ++ ": " ++ reason
  else
    lead ++ noun ++ "s in position " ++ Text.ofInt start ++ "-" ++ Text.ofInt (stop - 1) ++ ": " ++ reason

/-- The text of an error of syntax: its message, and the file and the line it is about. -/
def syntaxText (message : Text) (details : List (Text × Datum)) : Text :=
  let detail (name : String) : Option Datum := (details.find? fun e => e.1.is name).map (·.2)
  let file := match detail "filename" with
    | some (.text t) => some (t.reverse.takeWhile fun p => !p.is '/').reverse
    | _ => Option.none
  let line := match detail "lineno" with
    | some (.int n) => some (Text.ofInt (if n < 2 ^ 63 && -(2 ^ 63) ≤ n then n else -1))
    | _ => Option.none
  match file, line with
  | some f, some l => message ++ " (" ++ f ++ ", line " ++ l ++ ")"
  | some f, Option.none => message ++ " (" ++ f ++ ")"
  | Option.none, some l => message ++ " (line " ++ l ++ ")"
  | Option.none, Option.none => message

/-- The arguments of an exception about a piece of a whole, with what is known of the latest piece. -/
def latest (args : List Datum) (details : List (Text × Datum)) : List Datum :=
  match args, details with
  | [encoding, whole, _, _, _], [(_, start), (_, stop), (_, reason)] => [encoding, whole, start, stop, reason]
  | _, _ => args

/-- The text of an exception: nothing, its argument, or the tuple of them. A missing key is quoted; a system error
shows its number and the files it is about. -/
def exceptionText (kind : ExceptionKind) (args : List Datum) (details : List (Text × Datum))
    (plain quoted : List Text) : Text :=
  if kind.is .keyError && quoted.length == 1 then quoted.headD []
  else if kind.is .syntaxError then syntaxText (plain.headD "None") details
  else if kind.is .osError && 2 ≤ plain.length && plain.length ≤ 5 then
    let files := (details.filter fun e => e.1.is "filename" || e.1.is "filename2").map fun e => Datum.quoted e.2
    "[Errno " ++ plain.getD 0 [] ++ "] " ++ plain.getD 1 []
      ++ (if files.isEmpty then ([] : Text) else ": " ++ Text.join " -> " files)
  else match kind, latest args details with
    | .unicodeDecodeError, [.text encoding, .bytes octets, .int start, .int stop, .text reason] =>
      pieceComplaint ("'" ++ encoding ++ "' codec can't decode ")
        ("0x" ++ Text.hex 2 (octets.getD start.toNat 0).toNat) "byte" octets.length start stop reason
    | .unicodeEncodeError, [.text encoding, .text whole, .int start, .int stop, .text reason] =>
      pieceComplaint ("'" ++ encoding ++ "' codec can't encode ")
        ("'" ++ shownPoint (whole.getD start.toNat ⟨0, by decide⟩) ++ "'") "character" whole.length start stop reason
    | .unicodeTranslateError, [.text whole, .int start, .int stop, .text reason] =>
      pieceComplaint "can't translate " ("'" ++ shownPoint (whole.getD start.toNat ⟨0, by decide⟩) ++ "'") "character"
        whole.length start stop reason
    | _, _ => match plain with
      | [] => []
      | [t] => t
      | _ => tupleText quoted

mutual

/-- The plain text. -/
def plain : Datum → Text
  | .text t => t
  | .date d => d.isoText
  | .clock t => t.isoText
  | .moment m => m.isoText " "
  | .duration d => d.text
  | .decimal d => d.text
  | .uuid n => uuidText n
  | .exception kind args details => exceptionText kind args details (plainAll args) (quotedAll args)
  | d => quoted d

def plainAll : List Datum → List Text
  | [] => []
  | item :: items => plain item :: plainAll items

end

mutual

/-- Whether a datum holds an integer with more digits than may be written. -/
def hasHugeInt : Datum → Bool
  | .int n => 10 ^ 4300 ≤ n.natAbs
  | .list items | .tuple items | .set _ items | .exception _ items _ => anyHuge items
  | .dict entries => anyHugeEntry entries
  | .promise _ payload => hasHugeInt payload
  | .object _ attributes => anyHugeMember attributes
  | _ => false

def anyHuge : List Datum → Bool
  | [] => false
  | item :: items => hasHugeInt item || anyHuge items

def anyHugeEntry : List (Datum × Datum) → Bool
  | [] => false
  | (key, value) :: entries => hasHugeInt key || hasHugeInt value || anyHugeEntry entries

def anyHugeMember : List (Text × Datum) → Bool
  | [] => false
  | (_, value) :: members => hasHugeInt value || anyHugeMember members

end

mutual

/-- Whether a container is met again inside itself on the way through containers alone. Other data are gone through
for their texts only, in which that is shown. -/
def hasCycle : Datum → Bool
  | .cycle _ => true
  | .list items | .tuple items | .set _ items => anyCycle items
  | .dict entries => anyCycleEntry entries
  | _ => false

def anyCycle : List Datum → Bool
  | [] => false
  | item :: items => hasCycle item || anyCycle items

def anyCycleEntry : List (Datum × Datum) → Bool
  | [] => false
  | (key, value) :: entries => hasCycle key || hasCycle value || anyCycleEntry entries

end

mutual

/-- How many containers lie inside each other. -/
def depth : Datum → Nat
  | .list items | .tuple items | .set _ items | .exception _ items _ => depthOfAll items + 1
  | .dict entries => depthOfEntries entries + 1
  | .promise _ payload => depth payload + 1
  | .object _ attributes => depthOfMembers attributes + 1
  | _ => 0

def depthOfAll : List Datum → Nat
  | [] => 0
  | item :: items => max (depth item) (depthOfAll items)

def depthOfEntries : List (Datum × Datum) → Nat
  | [] => 0
  | (key, value) :: entries => max (max (depth key) (depth value)) (depthOfEntries entries)

def depthOfMembers : List (Text × Datum) → Nat
  | [] => 0
  | (_, value) :: members => max (depth value) (depthOfMembers members)

end

/-- How many containers inside each other can be gone through, each taking one call. -/
def depthLimit : Nat := 970

/-- Whether a datum is too deep for its JSON-safe form, in which each container takes two calls. -/
def isTooDeep (d : Datum) : Bool := d.hasCycle || depthLimit < 2 * d.depth

/-- The message of an error value: its text, and for an exception without any text the name of its kind. -/
def errorMessage : Datum → Text
  | .exception kind args details =>
    let t := plain (.exception kind args details)
    if t.isEmpty then Text.ofString kind.name else t
  | d => plain d

end Datum

end PhaseScript
