import PhaseScript.Text.Category
/-
Quoted text and quoted octets: the form a value has inside a container's text. Single quotes are used unless
the text holds one and no double quote; what cannot be printed is escaped.
-/
set_option autoImplicit false

namespace PhaseScript

namespace Text

/-- A point inside quotes. `ascii` escapes everything past ASCII as well. -/
def quotedPoint (quote : Char) (ascii : Bool) (p : Point) : Text :=
  if p.is quote || p.is '\\' then [Point.ofChar '\\', p]
  else if p.is '\t' then "\\t"
  else if p.is '\n' then "\\n"
  else if p.is '\r' then "\\r"
  else if p.val < 128 then
    if 32 ≤ p.val && p.val < 127 then [p] else "\\x" ++ hex 2 p.val
  else if !ascii && p.isPrintable then [p]
  else if p.val < 0x100 then "\\x" ++ hex 2 p.val
  else if p.val < 0x10000 then "\\u" ++ hex 4 p.val
  else "\\U" ++ hex 8 p.val

/-- The quote for a text: the double one only where it saves escapes. -/
def quoteFor (t : Text) : Char := if t.any (·.is '\'') && !t.any (·.is '"') then '"' else '\''

/-- The text in quotes. -/
def quoted (t : Text) : Text :=
  let quote := quoteFor t
  Point.ofChar quote :: t.flatMap (quotedPoint quote false) ++ [Point.ofChar quote]

/-- The text in quotes, in ASCII alone. -/
def quotedAscii (t : Text) : Text :=
  let quote := quoteFor t
  Point.ofChar quote :: t.flatMap (quotedPoint quote true) ++ [Point.ofChar quote]

/-- Escapes what is not ASCII in a text that is quoted already. -/
def escapeBeyondAscii (t : Text) : Text :=
  t.flatMap fun p =>
    if p.val < 128 then [p]
    else if p.val < 0x100 then "\\x" ++ hex 2 p.val
    else if p.val < 0x10000 then "\\u" ++ hex 4 p.val
    else "\\U" ++ hex 8 p.val

end Text

/-- Octets in quotes after a small b. -/
def Bytes.quoted (bytes : Bytes) : Text :=
  let points : Text := bytes.map fun b => Point.ofNat b.toNat
  let quote := Text.quoteFor points
  let escape := fun (p : Point) =>
    if p.is quote || p.is '\\' then [Point.ofChar '\\', p]
    else if p.is '\t' then Text.ofString "\\t"
    else if p.is '\n' then Text.ofString "\\n"
    else if p.is '\r' then Text.ofString "\\r"
    else if 32 ≤ p.val && p.val < 127 then [p]
    else Text.ofString "\\x" ++ Text.hex 2 p.val
  Point.ofChar 'b' :: Point.ofChar quote :: points.flatMap escape ++ [Point.ofChar quote]

end PhaseScript
