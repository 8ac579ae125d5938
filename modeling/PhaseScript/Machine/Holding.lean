import Std.Data.HashMap.Basic
import Std.Data.HashSet.Basic
import PhaseScript.Machine.Value
/-
What holds what. A thing stays as long as something that runs holds it, directly or through other things; things that
hold each other in a circle stay as well. All others are let go of, each after the last one that holds it.
-/
set_option autoImplicit false

namespace PhaseScript.Machine

/-- A thing that is held and that holds others: what is in a cell, or the place of a name in a scope. -/
inductive Holder where
  | cell (address : Nat)
  | slot (scope index : Nat)
  deriving DecidableEq, Hashable, Repr, Inhabited

mutual

/-- The cells that a value holds, in the order in which it lets go of them. -/
def Value.held : Value → List Holder
  | .ref address => [.cell address]
  | .tuple items _ | .generic _ _ items _ => heldFromLast items
  | .slice start stop step => start.held ++ stop.held ++ step.held
  | .method object _ _ => object.held
  | .promise _ _ payload => payload.held
  | .response _ headers => headers.held
  | _ => []

/-- The cells that a row of values holds, which lets go of the last one first. -/
def heldFromLast : List Value → List Holder
  | [] => []
  | v :: rest => heldFromLast rest ++ v.held

end

/-- The cells that values hold. -/
def heldByAll (values : List Value) : List Holder := values.flatMap Value.held

def Completion.held : Completion → List Holder
  | .raised v | .returned v => v.held
  | _ => []

def Block.held : Block → List Holder
  | .each iterator _ _ _ => iterator.held
  | .matching error _ | .handling error _ => error.held
  | .resume pending => pending.held
  | _ => []

def Iteration.held : Iteration → List Holder
  | .items left => heldByAll left
  | .listFrom address _ | .view _ address _ _ _ | .setFrom address _ _ => [.cell address]
  | .counted iterator _ => iterator.held
  | .mapped function iterators => heldByAll (iterators ++ [function])
  | .kept function iterator => heldByAll [function, iterator]
  | .range _ _ _ | .finished => []

/-- The scope so many scopes further out in a heap. -/
def scopeAbove (heap : Array Cell) : Nat → Option Nat → Option Nat
  | 0, scope => scope
  | _, none => none
  | hops + 1, some address =>
    match heap[address]? with
    | some (.scope _ outer _) => scopeAbove heap hops outer
    | _ => none

/-- The places of scopes around that a function holds, seen from the scope it was made in. -/
def capturedPlaces (heap : Array Cell) (outer : Option Nat) (captured : List (Nat × Nat)) : List Holder :=
  captured.filterMap fun (hops, index) => (scopeAbove heap hops outer).map fun scope => .slot scope index

/-- The places that the names of a running function stand for. -/
def scopeHeld (heap : Array Cell) (scope : Nat) : List Holder :=
  match heap[scope]? with
  | some (.scope slots outer captured) =>
    (List.range slots.size).map (Holder.slot scope) ++ capturedPlaces heap outer captured
  | _ => []

/-- What a function that runs holds: its names, and then what it works on. -/
def Frame.held (heap : Array Cell) (frame : Frame) : List Holder :=
  (frame.scope.map (scopeHeld heap)).getD [] ++ frame.blocks.reverse.flatMap Block.held ++ heldByAll frame.stack.reverse

/-- The generators that wait where something is left to be done, the functions that wait for others, and what came of
the step at hand; for each exception, the scopes it has come through. Nothing is noted for scripts that cannot leave
anything half done. -/
structure Watch where
  isOn : Bool
  lingering : List Nat
  outer : List Frame
  results : List Value
  traces : List (Nat × Nat)
  deriving Inhabited

namespace Watch

def start : Watch := ⟨false, [], [], [], []⟩

/-- The scopes that an exception has come through. -/
def scopesOf (w : Watch) (error : Nat) : List Nat := (w.traces.filter fun trace => trace.1 == error).map (·.2)

end Watch

/-- What is in a cell holds these. An exception holds the names of the functions it has come through. -/
def Cell.held (heap : Array Cell) (watch : Watch) (address : Nat) : Cell → List Holder
  | .list items => items.foldl (fun found v => v.held ++ found) []
  | .dict entries _ => entries.toList.flatMap fun e => e.1.held ++ e.2.held
  | .set items => items.items.toList.flatMap Value.held
  | .scope _ _ _ => scopeHeld heap address
  | .function shape _ outer defaults namedDefaults =>
    capturedPlaces heap outer shape.captured ++ heldByAll (defaults ++ namedDefaults.map (·.2))
  | .generator _ (.waiting frame _) => frame.held heap
  | .generator _ _ => []
  | .iterator _ source => source.held
  | .exception _ args attributes =>
    heldByAll (args ++ attributes.map (·.2)) ++ (watch.scopesOf address).flatMap (scopeHeld heap)
  | .foreign _ | .client _ _ => []
  | .session _ clients => heldByAll clients
  | .namespace entries | .module _ entries => heldByAll (entries.map (·.2))
  | .proxy d | .view _ d => [.cell d]

/-- What a thing holds. -/
def Holder.held (heap : Array Cell) (watch : Watch) : Holder → List Holder
  | .cell address => (heap[address]?.map (Cell.held heap watch address)).getD []
  | .slot scope index =>
    match heap[scope]? with
    | some (.scope slots _ _) => ((slots[index]?).join.map Value.held).getD []
    | _ => []

abbrev HolderSet := Std.HashSet Holder

/-- The things that some things lead to, beside those seen before: all, and those that are new, the last one first. -/
def reach (heldBy : Holder → List Holder) : Nat → List Holder → HolderSet → List Holder → HolderSet × List Holder
  | 0, _, seen, found => (seen, found)
  | _, [], seen, found => (seen, found)
  | fuel + 1, h :: rest, seen, found =>
    if seen.contains h then reach heldBy fuel rest seen found
    else reach heldBy fuel (heldBy h ++ rest) (seen.insert h) (h :: found)

/-- How often each of some things is held. -/
abbrev HoldCount := Std.HashMap Holder Nat

/-- Lets go of things that nothing holds, and after each of those that it alone has held. -/
def letGo (heldBy : Holder → List Holder) : Nat → List Holder → HoldCount → List Holder → List Holder
  | 0, _, _, gone => gone.reverse
  | _, [], _, gone => gone.reverse
  | fuel + 1, h :: rest, count, gone =>
    let (freed, count) := (heldBy h).foldl (fun (freed, count) other =>
      match Std.HashMap.get? count other with
      | some 1 => (other :: freed, count.insert other 0)
      | some (n + 1) => (freed, count.insert other n)
      | _ => (freed, count)) (([] : List Holder), count)
    letGo heldBy fuel (freed.reverse ++ rest) count (h :: gone)

/-- More turns than any search takes. -/
def searchBound : Nat := 10 ^ 12

/-- The things that are let go of when only some are held any more, in order; those that
were held before the last step come first, as they were held. -/
def unheld (heap : Array Cell) (watch : Watch) (alive : HolderSet) (before : List Holder) : List Holder :=
  let heldBy := Holder.held heap watch
  let isCell (address : Nat) : Bool := match heap[address]? with
    | some (.scope _ _ _) => false
    | _ => true
  let lost := before ++ ((List.range heap.size).filter isCell).map Holder.cell
  let dead := (reach heldBy searchBound lost alive []).2.reverse
  let none_ : HoldCount := dead.foldl (fun count h => count.insert h 0) {}
  let count := dead.foldl (fun count h => (heldBy h).foldl (fun count other =>
    match Std.HashMap.get? count other with
    | some n => count.insert other (n + 1)
    | none => count) count) none_
  letGo heldBy searchBound (dead.filter fun h => Std.HashMap.get? count h == some 0) count []

end PhaseScript.Machine
