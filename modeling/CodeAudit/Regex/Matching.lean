import CodeAudit.Regex.Node

/-!
# Matching

A tree is matched at a position of a text by trying its possibilities in order of preference.
`run` takes what has to happen after the tree as a function and gives the first result for which
the whole succeeds, so trying again is nothing but an empty answer. What groups recorded is passed
along and forgotten together with the attempt that recorded it.

Repetition is bounded by the text: a round after the required ones that consumes nothing is the
last one. Repeated single characters, the most common case, are counted in a loop.
-/

namespace CodeAudit.Regex

/-- What the groups have recorded: at index `2 * (n - 1)` where group `n` started, and after that
where it ended. -/
abbrev Marks := Array (Option Nat)

/-- A position reached, with what groups recorded on the way. -/
abbrev Outcome := Nat × Marks

/-- What happens after a tree has been matched. -/
abbrev Next := Nat → Marks → Option Outcome

namespace Marks

def blank (groups : Nat) : Marks := Array.replicate (2 * groups) none

def start (marks : Marks) (group position : Nat) : Marks :=
  marks.setIfInBounds (2 * (group - 1)) (some position)

def stop (marks : Marks) (group position : Nat) : Marks :=
  marks.setIfInBounds (2 * (group - 1) + 1) (some position)

/-- Where a group matched. A group that has been entered again and not left has no span unless its
earlier end still lies behind its new start. -/
def span? (marks : Marks) (group : Nat) : Option (Nat × Nat) :=
  match (marks[2 * (group - 1)]?).join, (marks[2 * (group - 1) + 1]?).join with
  | some start, some stop => if start ≤ stop then some (start, stop) else none
  | _, _ => none

end Marks

def acceptsAt (text : Array Char) (set : Charset) (i : Nat) : Bool :=
  match text[i]? with
  | some c => set.accepts c
  | none => false

def wordAt (text : Array Char) (ascii : Bool) (i : Nat) : Bool :=
  match text[i]? with
  | some c => CharKind.word.contains ascii c
  | none => false

def atWordEdge (text : Array Char) (ascii : Bool) (i : Nat) : Bool :=
  (0 < i && wordAt text ascii (i - 1)) != wordAt text ascii i

/-- Whether a position satisfies an anchor. In an empty text there is neither an edge of a word
nor a place inside or outside one. -/
def Anchor.holds (text : Array Char) (i : Nat) : Anchor → Bool
  | .textStart => i == 0
  | .lineStart => i == 0 || text[i - 1]? == some '\n'
  | .textEnd => i == text.size
  | .lastLineEnd => i == text.size || (i + 1 == text.size && text[i]? == some '\n')
  | .lineEnd => i == text.size || text[i]? == some '\n'
  | .wordEdge ascii => text.size != 0 && atWordEdge text ascii i
  | .notWordEdge ascii => text.size != 0 && !atWordEdge text ascii i

def sameText (text : Array Char) (fold : Fold) (source : Nat) : (length i : Nat) → Bool
  | 0, _ => true
  | length + 1, i =>
    match text[source]?, text[i]? with
    | some a, some b =>
      fold.apply a.toNat == fold.apply b.toNat && sameText text fold (source + 1) length (i + 1)
    | _, _ => false

def runLength (text : Array Char) (set : Charset) : (limit i count : Nat) → Nat
  | 0, _, count => count
  | limit + 1, i, count =>
    if acceptsAt text set i then runLength text set limit (i + 1) (count + 1) else count

/-- Goes on after `min + extra` characters, then after one fewer, down to `min`. -/
def tryDown (i : Nat) (marks : Marks) (next : Next) (min : Nat) : (extra : Nat) → Option Outcome
  | 0 => next (i + min) marks
  | extra + 1 =>
    match next (i + min + extra + 1) marks with
    | some r => some r
    | none => tryDown i marks next min extra

def tryUp (text : Array Char) (set : Charset) (marks : Marks) (next : Next) :
    (extra i : Nat) → Option Outcome
  | 0, i => next i marks
  | extra + 1, i =>
    match next i marks with
    | some r => some r
    | none => if acceptsAt text set i then tryUp text set marks next extra (i + 1) else none

def capAt (max : Option Nat) (n : Nat) : Nat :=
  match max with
  | some m => min m n
  | none => n

def runSet (text : Array Char) (greed : Greed) (min : Nat) (max : Option Nat) (set : Charset)
    (i : Nat) (marks : Marks) (next : Next) : Option Outcome :=
  let room := text.size - i
  match greed with
  | .greedy =>
    let count := runLength text set (capAt max room) i 0
    if count < min then none else tryDown i marks next min (count - min)
  | .possessive =>
    let count := runLength text set (capAt max room) i 0
    if count < min then none else next (i + count) marks
  | .reluctant =>
    if room < min || runLength text set min i 0 < min then none
    else tryUp text set marks next (capAt (max.map (· - min)) (room - min)) (i + min)

/-- Repeats a step as often as possible, then fewer times. `last` is where the previous optional
round started: a round that ends there is the last one. -/
def loopGreedy (step : Nat → Marks → Next → Option Outcome) (min : Nat) (max : Option Nat)
    (next : Next) : (fuel count : Nat) → (last : Option Nat) → Nat → Marks → Option Outcome
  | 0, _, _, _, _ => none
  | fuel + 1, count, last, i, marks =>
    if count < min then
      step i marks fun j later => loopGreedy step min max next fuel (count + 1) last j later
    else if max.all (count < ·) && last != some i then
      match step i marks fun j later =>
        loopGreedy step min max next fuel (count + 1) (some i) j later with
      | some r => some r
      | none => next i marks
    else next i marks

def loopReluctant (step : Nat → Marks → Next → Option Outcome) (min : Nat) (max : Option Nat)
    (next : Next) : (fuel count : Nat) → (last : Option Nat) → Nat → Marks → Option Outcome
  | 0, _, _, _, _ => none
  | fuel + 1, count, last, i, marks =>
    if count < min then
      step i marks fun j later => loopReluctant step min max next fuel (count + 1) last j later
    else
      match next i marks with
      | some r => some r
      | none =>
        if max.all (count < ·) && last != some i then
          step i marks fun j later =>
            loopReluctant step min max next fuel (count + 1) (some i) j later
        else none

def loopPossessive (once : Nat → Marks → Option Outcome) (min : Nat) (max : Option Nat) :
    (fuel count : Nat) → (last : Option Nat) → Nat → Marks → Option Outcome
  | 0, _, _, _, _ => none
  | fuel + 1, count, last, i, marks =>
    if count < min then
      match once i marks with
      | some (j, later) => loopPossessive once min max fuel (count + 1) last j later
      | none => none
    else if max.all (count < ·) && last != some i then
      match once i marks with
      | some (j, later) => loopPossessive once min max fuel (count + 1) (some i) j later
      | none => some (i, marks)
    else some (i, marks)

/-- The end of a tree that is matched on its own. -/
def stopHere : Next := fun i marks => some (i, marks)

/-- Matches a tree at a position and goes on with `next`, in order of preference. -/
def run (text : Array Char) : Node → Nat → Marks → Next → Option Outcome
  | .empty, i, marks, next => next i marks
  | .char set, i, marks, next => if acceptsAt text set i then next (i + 1) marks else none
  | .seq a b, i, marks, next => run text a i marks fun j later => run text b j later next
  | .alt a b, i, marks, next =>
    match run text a i marks next with
    | some r => some r
    | none => run text b i marks next
  | .repeated greed min max (.char set), i, marks, next =>
    runSet text greed min max set i marks next
  | .repeated .greedy min max body, i, marks, next =>
    loopGreedy (run text body) min max next (min + (text.size - i) + 2) 0 none i marks
  | .repeated .reluctant min max body, i, marks, next =>
    loopReluctant (run text body) min max next (min + (text.size - i) + 2) 0 none i marks
  | .repeated .possessive min max body, i, marks, next =>
    match loopPossessive (fun j later => run text body j later stopHere) min max
        (min + (text.size - i) + 2) 0 none i marks with
    | some (j, later) => next j later
    | none => none
  | .group index body, i, marks, next =>
    run text body i (marks.start index i) fun j later => next j (later.stop index j)
  | .backref index fold _, i, marks, next =>
    match marks.span? index with
    | some (start, stop) =>
      if sameText text fold start (stop - start) i then next (i + (stop - start)) marks else none
    | none => none
  | .ahead negated body, i, marks, next =>
    match run text body i marks stopHere, negated with
    | some (_, later), false => next i later
    | none, true => next i marks
    | _, _ => none
  | .behind negated width body, i, marks, next =>
    match if width.lo ≤ i then run text body (i - width.lo) marks stopHere else none, negated with
    | some (_, later), false => next i later
    | none, true => next i marks
    | _, _ => none
  | .atomic body, i, marks, next =>
    match run text body i marks stopHere with
    | some (j, later) => next j later
    | none => none
  | .ifGroup index yes no, i, marks, next =>
    if (marks.span? index).isSome then run text yes i marks next else run text no i marks next
  | .anchor place, i, marks, next => if place.holds text i then next i marks else none

end CodeAudit.Regex
