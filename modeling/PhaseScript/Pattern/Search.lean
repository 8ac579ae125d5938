import PhaseScript.Pattern.Move
/-
Matching a pattern against a text, alternative by alternative, going back where the rest does not match. What an
attempt has reached is kept also when it fails, because a possessive repetition goes on from there: the turn that fails
is the last one, and what follows stands where that turn left off.
-/
set_option autoImplicit false

namespace PhaseScript.Pattern

def isWordAt (text : Array Point) (ascii : Bool) (place : Nat) : Bool :=
  (text[place]?).any fun p => Sort_.holds ascii p .word

/-- Whether a place fits an anchor. -/
def Anchor.holds (text : Array Point) (place : Nat) : Anchor → Bool
  | .textStart => place == 0
  | .textEnd => place == text.size
  | .lineStart => place == 0 || (text[place - 1]?).any (·.val == 10)
  | .lineEnd => place == text.size || (text[place]?).any (·.val == 10)
  | .beforeLastLineEnd => place == text.size || (place + 1 == text.size && (text[place]?).any (·.val == 10))
  | .boundary ascii isNegated =>
    let before := place != 0 && isWordAt text ascii (place - 1)
    -- An empty text has neither boundaries nor places that are none.
    text.size != 0 && (before != isWordAt text ascii place) != isNegated

/-- Whether a row of characters stands at a place. -/
def standsAt (text : Array Point) (how : Comparing) (place start : Nat) : Nat → Bool
  | 0 => true
  | n + 1 =>
    match text[start]?, text[place]? with
    | some p, some q => how.same p q && standsAt text how (place + 1) (start + 1) n
    | _, _ => false

/-- What an attempt leaves behind: the place that it has reached, and where the groups begin and end. -/
structure Wake where
  place : Nat
  marks : Array (Option Nat)
  deriving Inhabited

namespace Wake

/-- The places between which a group stands. -/
def group? (wake : Wake) (group : Nat) : Option (Nat × Nat) :=
  match wake.marks[2 * group - 2]?, wake.marks[2 * group - 1]? with
  | some (some start), some (some stop) => if start ≤ stop then some (start, stop) else none
  | _, _ => none

/-- Marks a place. Marks that were passed over are empty. -/
def mark (wake : Wake) (index place : Nat) : Wake :=
  if index < wake.marks.size then { wake with marks := wake.marks.setIfInBounds index (some place) }
  else { wake with marks := (wake.marks ++ Array.replicate (index - wake.marks.size) none).push (some place) }

def movedTo (wake : Wake) (place : Nat) : Wake := { wake with place }

/-- Forgets the marks that were made since an earlier wake; inside of turns also takes back those made anew. -/
def backTo (wake : Wake) (inTurn : Bool) (earlier : Wake) : Wake :=
  { wake with marks := if inTurn then earlier.marks else wake.marks.take earlier.marks.size }

end Wake

/-- How an attempt ends. -/
structure Outcome where
  isFound : Bool
  wake : Wake
  deriving Inhabited

def Wake.fails (wake : Wake) : Outcome := ⟨false, wake⟩

/-- The end of what is matched on its own. -/
def arrive (place : Nat) (wake : Wake) : Outcome := ⟨true, wake.movedTo place⟩

/-- How many characters in a row are as they have to be, at most so many. -/
def Letter.count (l : Letter) (text : Array Point) : Nat → Nat → Nat
  | 0, _ => 0
  | most + 1, place =>
    match text[place]? with
    | some p => if l.holds p then l.count text most (place + 1) + 1 else 0
    | none => 0

/-- Counts characters from a place on; those compared one by one are left behind. -/
def Letter.run (l : Letter) (text : Array Point) (place : Nat) (most : Option Nat) (wake : Wake) : Nat × Wake :=
  let left := text.size - place
  let count := l.count text (most.elim left (min left)) place
  (count, wake.movedTo (if l.hasForms then place + count else place))

/-- Tries what follows with ever fewer characters, from a place with so many to give back. -/
def giveBack (inTurn : Bool) (fits : Nat → Bool) (next : Nat → Wake → Outcome) (least : Nat) (earlier : Wake) :
    Nat → Wake → Outcome
  | 0, wake => if fits least then next least (wake.movedTo least) else wake.fails
  | n + 1, wake =>
    let place := least + (n + 1)
    if fits place then
      let outcome := next place (wake.movedTo place)
      if outcome.isFound then outcome
      else giveBack inTurn fits next least earlier n (outcome.wake.backTo inTurn earlier)
    else giveBack inTurn fits next least earlier n wake

/-- Tries what follows with ever more characters, at most so many. -/
def takeMore (text : Array Point) (inTurn : Bool) (l : Letter) (next : Nat → Wake → Outcome) (earlier : Wake) :
    Nat → Nat → Wake → Outcome
  | more, place, wake =>
    let outcome := next place (wake.movedTo place)
    if outcome.isFound then outcome
    else
      let (count, wake) := l.run text place (some 1) (outcome.wake.backTo inTurn earlier)
      match more with
      | 0 => wake.fails
      | more + 1 => if count == 0 then wake.fails else takeMore text inTurn l next earlier more (place + 1) wake

/-- The character that a row has to begin with. -/
def firstLetter? : List Move → Option Point
  | .letter l :: _ => l.only?
  | _ => none

mutual

/-- Makes moves from a place on, then whatever follows. `inTurn` tells whether this happens in a turn of a repetition.
The fuel bounds the number of moves on the way. -/
def follow (text : Array Point) : Nat → Bool → List Move → Nat → Wake → (Nat → Wake → Outcome) → Outcome
  | 0, _, _, _, wake, _ => wake.fails
  | _ + 1, _, [], place, wake, next => next place wake
  | fuel + 1, inTurn, move :: rest, place, wake, next =>
    let onward (place : Nat) (wake : Wake) : Outcome := follow text fuel inTurn rest place wake next
    match move with
    | .letter l =>
      match text[place]? with
      | some p => if l.holds p then onward (place + 1) wake else wake.fails
      | none => wake.fails
    | .anchor a => if a.holds text place then onward place wake else wake.fails
    | .mark index => onward place (wake.mark index place)
    | .branch options => choose text fuel inTurn options place wake onward wake
    | .letters greed least most l =>
      if text.size - place < least then wake.fails
      else match greed with
        | .lazy =>
          let (count, after) := if least == 0 then (0, wake.movedTo place)
            else l.run text place (some least) (wake.movedTo place)
          if count < least then after.fails
          else takeMore text inTurn l onward after (most.elim (text.size + 1) (· - least)) (place + least) after
        | .greedy =>
          let (count, after) := l.run text place most wake
          if count < least then after.fails
          else
            let fits : Nat → Bool := match firstLetter? rest with
              | some p => fun place => text[place]? == some p
              | none => fun _ => true
            giveBack inTurn fits onward (place + least) after (count - least) after
        | .possessive =>
          let (count, after) := l.run text place most wake
          if count < least then after.fails else onward (place + count) (after.movedTo (place + count))
    | .turns .possessive least most body =>
      let first := demand text fuel inTurn body least (wake.movedTo place)
      if first.isFound then
        let last := exhaust text fuel inTurn body least most none first.wake
        onward last.place last
      else (first.wake.movedTo place).fails
    | .turns .lazy least most body => lazyTurns text fuel inTurn least most body 0 none place wake onward
    | .turns .greedy least most body => greedyTurns text fuel least most body 0 none place wake onward
    | .reference how group =>
      match wake.group? group with
      | none => wake.fails
      | some (start, stop) =>
        if standsAt text how place start (stop - start) then onward (place + (stop - start)) wake else wake.fails
    | .ifGroup group yes no =>
      if (wake.group? group).isNone then follow text fuel inTurn (no ++ rest) place wake next
      else if no.isEmpty then follow text fuel inTurn (yes ++ rest) place wake next
      else follow text fuel inTurn yes place wake onward
    | .look behind isNegated body =>
      let back := behind.getD 0
      if place < back then (if isNegated then onward place wake else wake.fails)
      else
        let outcome := follow text fuel inTurn body (place - back) (wake.movedTo (place - back)) arrive
        match isNegated, outcome.isFound with
        | false, true => onward place outcome.wake
        | true, false => onward place (outcome.wake.backTo inTurn wake)
        | _, _ => outcome.wake.fails
    | .atomic body =>
      let outcome := follow text fuel inTurn body place (wake.movedTo place) arrive
      if outcome.isFound then onward outcome.wake.place outcome.wake else (outcome.wake.movedTo place).fails

/-- Tries alternatives one after the other. -/
def choose (text : Array Point) : Nat → Bool → List (List Move) → Nat → Wake → (Nat → Wake → Outcome) → Wake → Outcome
  | 0, _, _, _, _, _, wake => wake.fails
  | _ + 1, _, [], _, _, _, wake => wake.fails
  | fuel + 1, inTurn, option :: options, place, earlier, next, wake =>
    let cannotStart := match option with
      | .letter l :: _ => (l.only?.isSome || l.isPlainSet) && !(text[place]?).any l.holds
      | _ => false
    if cannotStart then choose text fuel inTurn options place earlier next wake
    else
      let outcome := follow text fuel inTurn option place (wake.movedTo place) next
      if outcome.isFound then outcome
      else choose text fuel inTurn options place earlier next (outcome.wake.backTo inTurn earlier)

/-- Repeats moves as often as possible. A turn that has matched nothing is not repeated; `last` is where the latest
turn began that was not needed. -/
def greedyTurns (text : Array Point) : Nat → Nat → Option Nat → List Move → Nat → Option Nat → Nat → Wake →
    (Nat → Wake → Outcome) → Outcome
  | 0, _, _, _, _, _, _, wake, _ => wake.fails
  | fuel + 1, least, most, body, count, last, place, wake, next =>
    let wake := wake.movedTo place
    let settle (outcome : Outcome) : Outcome :=
      if outcome.isFound then outcome else (outcome.wake.movedTo place).fails
    if count < least then
      settle (follow text fuel true body place wake fun after wake =>
        greedyTurns text fuel least most body (count + 1) last after wake next)
    else if most.all (count < ·) && last != some place then
      let outcome := follow text fuel true body place wake fun after wake =>
        greedyTurns text fuel least most body (count + 1) (some place) after wake next
      if outcome.isFound then outcome else settle (next place wake)
    else settle (next place wake)

/-- Repeats moves as seldom as possible. -/
def lazyTurns (text : Array Point) : Nat → Bool → Nat → Option Nat → List Move → Nat → Option Nat → Nat → Wake →
    (Nat → Wake → Outcome) → Outcome
  | 0, _, _, _, _, _, _, _, wake, _ => wake.fails
  | fuel + 1, inTurn, least, most, body, count, last, place, wake, next =>
    let wake := wake.movedTo place
    let again (last : Option Nat) (wake : Wake) : Outcome :=
      let outcome := follow text fuel true body place wake fun after wake =>
        lazyTurns text fuel inTurn least most body (count + 1) last after wake next
      if outcome.isFound then outcome else (outcome.wake.movedTo place).fails
    if count < least then again last wake
    else
      let outcome := next place wake
      if outcome.isFound then outcome
      else
        let wake := (outcome.wake.backTo inTurn wake).movedTo place
        if !most.all (count < ·) || last == some place then wake.fails else again (some place) wake

/-- Repeats moves so many times, on their own each time. -/
def demand (text : Array Point) : Nat → Bool → List Move → Nat → Wake → Outcome
  | 0, _, _, _, wake => wake.fails
  | _ + 1, _, _, 0, wake => ⟨true, wake⟩
  | fuel + 1, inTurn, body, n + 1, wake =>
    let outcome := follow text fuel inTurn body wake.place wake arrive
    if outcome.isFound then demand text fuel inTurn body n outcome.wake else outcome

/-- Repeats moves on their own until they fail or reach nothing new; the wake of the last turn stays. -/
def exhaust (text : Array Point) : Nat → Bool → List Move → Nat → Option Nat → Option Nat → Wake → Wake
  | 0, _, _, _, _, _, wake => wake
  | fuel + 1, inTurn, body, count, most, last, wake =>
    if most.all (count < ·) && last != some wake.place then
      let outcome := follow text fuel inTurn body wake.place wake arrive
      if outcome.isFound then exhaust text fuel inTurn body (count + 1) most (some wake.place) outcome.wake
      else { outcome.wake with marks := wake.marks }
    else wake

end

/-- How many moves are made at most. -/
def endurance : Nat := 10 ^ 12

/-- The places where a match of a pattern is looked for. A pattern that needs several characters is not looked for where
too few are left, unless it is found by its first one. -/
def startingPlaces (pattern : Pattern) (size : Nat) : List Nat :=
  let least := pattern.width.least
  if size < least then []
  else if least ≤ 1 || (firstPart? pattern.nodes).any Node.isKnown then List.range (size + 1)
  else List.range (size + 2 - least)

/-- Whether a pattern occurs in a text. -/
def occursIn (pattern : Pattern) (t : Text) : Bool :=
  let text := t.toArray
  let moves := rowMoves pattern.nodes
  (startingPlaces pattern text.size).any fun place => (follow text endurance false moves place ⟨place, #[]⟩ arrive).isFound

end PhaseScript.Pattern
