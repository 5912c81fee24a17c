/-
  The steps of the parser on one stack: shifting a token, reducing the trees on top
  to a node, and accepting the whole text.
-/
import ElmAssist.Parsing.Stack

namespace ElmAssist.Parsing

/-- How many readings are followed at once. -/
def headLimit : Nat := 6

/-- How many more there may be for a while. -/
def headSlack : Nat := 4

/-- A bound for the number of trees that are compared. -/
def shapeLimit : Nat := 1000000

namespace Run

variable {σ : Type} [BEq σ] (L : Parser σ) (source : Source)

/-- Shifts a token. -/
def shift (r : Run σ) (v state : Nat) (token : ParseTree σ) (extra : Bool) : Run σ :=
  let r := r.push L.table v (some (token.withExtra extra)) state
  match token.info.layout with
  | some layout => r.modifyHead v ({ · with layout })
  | none => r

/-- The best node with a symbol over some ways down a stack, with the extras behind
    it. -/
def bestNode (symbol position : Nat) :
    List (List (ParseTree σ)) → Option (ParseTree σ × List (ParseTree σ))
  | [] => none
  | way :: ways =>
    let make := fun way =>
      let (children, extras) := ParseTree.splitExtras way
      (ParseTree.node L.table source (.of symbol) children position, extras)
    some (ways.foldl (fun best way =>
      let other := make way
      if ParseTree.prefers shapeLimit best.1 other.1 then other else best) (make way))

/-- Reduces on one slice: `w` is its head, and `v` the one that is reduced. -/
def reduceSlice (r : Run σ) (v w symbol : Nat) (behindExtra : Bool) (slice : Slice σ) :
    Run σ :=
  let under := r.top w
  match bestNode L source symbol under.position slice.ways with
  | none => r
  | some (node, extras) =>
    let state := L.table.next under.state symbol
    let node := if behindExtra && state == under.state then node.withExtra true else node
    let r := r.push L.table w (some node) state
    let r := r.pushAll L.table w extras state
    let others := (List.range w).filter (· != v)
    (r.mergeIntoFirst? L.table L.initial w others).getD r

/-- Reduces on the slices whose heads follow the head `w`. -/
def reduceSlices (v symbol : Nat) (behindExtra : Bool) (limit : Nat) :
    List (Slice σ) → Nat → Run σ → Run σ
  | [], _, r => r
  | slice :: rest, w, r =>
    if limit < w then reduceSlices v symbol behindExtra limit rest w (r.removeHead w)
    else
      let size := r.heads.size
      let r := r.reduceSlice L source v w symbol behindExtra slice
      reduceSlices v symbol behindExtra limit rest (if r.heads.size < size then w else w + 1) r

/-- Reduces the top `count` trees of a stack to nodes with a symbol.  Each way down
    gives a head; the number of the first is returned. -/
def reduce (r : Run σ) (v symbol count : Nat) (behindExtra : Bool) : Run σ × Option Nat :=
  let first := r.heads.size
  let slices := r.popSlices v count
  let r := r.addHeads v slices
  let halted := r.heads.foldl (fun n h => if h.isHalted then n + 1 else n) 0
  let r := reduceSlices L source v symbol behindExtra (headLimit + headSlack + halted) slices first r
  (r, if first < r.heads.size then some first else none)

/-- The tree of a whole text, made of the trees of a stack: what stands around the
    last tree that is no extra becomes part of it. -/
def wholeTree (trees : List (ParseTree σ)) : Option (ParseTree σ) :=
  let behind := trees.reverse.takeWhile (·.info.extra)
  match trees.reverse.drop behind.length with
  | [] => none
  | root :: before =>
    some (ParseTree.node L.table source root.info.symbol
      (before.reverse ++ root.children ++ behind.reverse) 0)

/-- Takes a reading of the whole text, if it is better than the one so far. -/
def takeReading (r : Run σ) (tree : ParseTree σ) : Run σ :=
  let better := r.finished.all fun old => ParseTree.prefers shapeLimit old tree
  { r with
    finished := if better then some tree else r.finished
    readings := r.readings + 1 }

/-- Accepts the whole text in front of its end. -/
def accept (r : Run σ) (v : Nat) (finish : ParseTree σ) : Run σ :=
  let r := r.push L.table v (some finish) Table.startState
  let ways := (r.wholeSlices v).flatMap (·.ways)
  let r := (ways.filterMap (wholeTree L source)).foldl takeReading r
  r.halt v

end Run

end ElmAssist.Parsing
