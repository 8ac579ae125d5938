import PhaseScript.Script.Grammar.Statement
import PhaseScript.Script.Policy
import PhaseScript.Text.Quoted
import PhaseScript.Text.Encoding
/-
From the text of a script to its tree. A text is refused for what it holds, for its syntax, or for what its tree
holds that no script may.
-/
set_option autoImplicit false

namespace PhaseScript.Script

/-- The tree of a script, or the first fault of its syntax with the first line that is shown of the text. Lines that
are joined to the last one are shown with it as long as nothing after it was looked at. -/
def parse (t : Text) : Except (SyntaxFault × Nat) (List Stmt) :=
  let tokens := TokenList.ofText t
  let reading : Reading := ⟨tokens.tokens, tokens.ending, 0, 0, 0, none, false⟩
  let depth := 10 * (t.length + 10)
  match Grammar.script (Grammar.rules depth) depth reading with
  | .ok body _ => .ok body
  | .error refusal after =>
    let fault := Reader.faultOf refusal after
    let first := match Reader.lastLine? fault after with
      | some last => if last ≤ fault.line then tokens.firstJoined fault.line fault.line else fault.line
      | none => fault.line
    .error (fault, first)

def FaultSort.name : FaultSort → String
  | .syntaxFault => "SyntaxError"
  | .indentationFault => "IndentationError"
  | .tabFault => "TabError"

/-- What is said about a fault of syntax: its line, its sort, its words and the text of the lines from the first one. -/
def SyntaxFault.report (fault : SyntaxFault) (firstLine : Nat) (source : Text) : Text :=
  let line := match fault.within with
    | some t => t
    | none => linesOfText source firstLine fault.line
  "Line " ++ Text.ofNat fault.line ++ ": " ++ Text.ofString fault.sort.name ++ ": " ++ fault.words
    ++ " at statement: " ++ Text.quoted (Text.strip line)

/-- Reports as a row in brackets. -/
def reportRow : List Text → Text
  | [] => "()"
  | [t] => "(" ++ Text.quoted t ++ ",)"
  | reports => "(" ++ Text.join ", " (reports.map Text.quoted) ++ ")"

/-- The tree of a script that may run, or the reports about it. -/
def parsePermitted (source : Text) : Except Text (List Stmt) :=
  if source.any fun p => p.val == 0 then .error (reportRow ["source code string cannot contain null bytes"])
  else match Utf8.encodeStrict source with
    | .error fault => .error (reportRow [fault.message])
    | .ok _ =>
      match parse source with
      | .error (fault, first) => .error (reportRow [fault.report first source])
      | .ok body =>
        match complaints body with
        | [] => .ok body
        | found => .error (reportRow found)

end PhaseScript.Script
