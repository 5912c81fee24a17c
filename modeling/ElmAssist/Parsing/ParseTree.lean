/-
  Parse trees with faults.

  A leaf is a token or a stretch of text that is none; a node joins trees.  Each
  tree carries the cost of its faults, by which the parser chooses between
  readings of a text: skipped text costs by bytes, lines and trees, and a token
  that had to be supposed has a fixed price.
-/
import ElmAssist.Parsing.Source
import ElmAssist.Parsing.Table

namespace ElmAssist.Parsing

/-! ## Prices of faults -/

/-- The price of every stretch of skipped text. -/
def skipPrice : Nat := 500

/-- The price of each tree in skipped text. -/
def skippedTreePrice : Nat := 100

/-- The price of a line break in skipped text. -/
def skippedLinePrice : Nat := 30

/-- The price of a token that had to be supposed. -/
def missingPrice : Nat := 110 + skipPrice

/-- The price of passing over the text between two positions. -/
def Source.passingPrice (s : Source) (start stop : Nat) : Nat :=
  s.bytesBetween start stop + skippedLinePrice * s.rowsBetween start stop

/-! ## Trees -/

/-- What a tree stands for. -/
inductive TreeSymbol where
  /-- A symbol of the grammar. -/
  | of (symbol : Nat)
  /-- A fault. -/
  | fault
  /-- Text skipped so far, on its way to a fault. -/
  | skipped
  deriving DecidableEq, Repr, Inhabited

/-- Whether a tree stands for text that could not be read. -/
def TreeSymbol.isFaulty : TreeSymbol → Bool
  | of _ => false
  | fault | skipped => true

/-- The root of a tree; `σ` describes the layout of the text behind an external
    token. -/
structure TreeInfo (σ : Type) where
  symbol : TreeSymbol
  /-- Where the blanks in front of the tree start. -/
  lead : Nat
  /-- Where the tree starts. -/
  start : Nat
  /-- Where the tree stops. -/
  stop : Nat
  /-- Whether it may stand anywhere. -/
  extra : Bool := false
  /-- The layout behind an external token. -/
  layout : Option σ := none
  /-- The cost of the faults in the tree. -/
  cost : Nat := 0
  /-- The number of nodes directly below it. -/
  shown : Nat := 0
  /-- The number of nodes anywhere below it. -/
  shownBelow : Nat := 0
  deriving Inhabited

/-- A parse tree. -/
inductive ParseTree (σ : Type) where
  | mk (info : TreeInfo σ) (children : List (ParseTree σ))

namespace ParseTree

variable {σ : Type}

instance : Inhabited (ParseTree σ) := ⟨.mk ⟨.fault, 0, 0, 0, false, none, 0, 0, 0⟩ []⟩

/-- The root of the tree. -/
def info : ParseTree σ → TreeInfo σ
  | mk info _ => info

/-- The trees below the root. -/
def children : ParseTree σ → List (ParseTree σ)
  | mk _ children => children

/-- The tree as an extra or not. -/
def withExtra (extra : Bool) : ParseTree σ → ParseTree σ
  | mk info children => mk { info with extra } children

/-- The tree with another symbol. -/
def withSymbol (symbol : TreeSymbol) : ParseTree σ → ParseTree σ
  | mk info children => mk { info with symbol } children

/-- Whether a tree is seen as a node. -/
def isVisible (table : Table) (t : ParseTree σ) : Bool :=
  match t.info.symbol with
  | .of s => table.visible.getD s false
  | .fault => true
  | .skipped => false

/-- The number of nodes of a tree; skipped text counts once more. -/
def weight (table : Table) (t : ParseTree σ) : Nat :=
  t.info.shownBelow + (if t.isVisible table then 1 else 0) +
    (if t.info.symbol == .skipped then 1 else 0)

/-- A leaf. -/
def leaf (symbol : TreeSymbol) (lead start stop : Nat) : ParseTree σ :=
  mk { symbol, lead, start, stop, extra := symbol == .of Numbered.finish } []

/-- A token that had to be supposed at a position. -/
def missing (symbol position : Nat) : ParseTree σ :=
  mk { symbol := .of symbol, lead := position, start := position, stop := position
       cost := missingPrice } []

/-- What a tree adds to the cost of the skipped text it is part of. -/
def skippedCost (table : Table) (t : ParseTree σ) : Nat :=
  if t.info.extra || (t.info.symbol == .fault && t.children.isEmpty) then 0
  else if t.isVisible table then skippedTreePrice
  else skippedTreePrice * t.info.shown

/-- Adds a tree to the sums of its parent. -/
def addChild (table : Table) (isFaulty : Bool) (info : TreeInfo σ) (t : ParseTree σ) : TreeInfo σ :=
  let visible := t.isVisible table
  { info with
    cost := info.cost + (if t.info.symbol == .skipped then 0 else t.info.cost) +
      (if isFaulty then t.skippedCost table else 0)
    shownBelow := info.shownBelow + t.info.shownBelow + (if visible then 1 else 0)
    shown := info.shown + (if visible then 1 else t.info.shown) }

/-- A node with children; without any, it stands at `position`. -/
def node (table : Table) (source : Source) (symbol : TreeSymbol) (children : List (ParseTree σ))
    (position : Nat) : ParseTree σ :=
  let isFaulty := symbol.isFaulty
  let lead := (children.head?.map (·.info.lead)).getD position
  let start := (children.head?.map (·.info.start)).getD position
  let stop := (children.getLast?.map (·.info.stop)).getD position
  let info := children.foldl (addChild table isFaulty) { symbol, lead, start, stop }
  let own := if isFaulty then skipPrice + source.passingPrice start stop else 0
  mk { info with cost := info.cost + own } children

/-- Splits off the extras at the end. -/
def splitExtras (trees : List (ParseTree σ)) : List (ParseTree σ) × List (ParseTree σ) :=
  let extras := trees.reverse.takeWhile (·.info.extra)
  (trees.take (trees.length - extras.length), extras.reverse)

/-! ## Choosing between trees -/

/-- The order of trees without faults: by symbols and numbers of children, from
    the top and the left.  At most `fuel` pairs are compared. -/
def compareShapes : Nat → List (ParseTree σ × ParseTree σ) → Ordering
  | 0, _ | _, [] => .eq
  | fuel + 1, (s, t) :: rest =>
    let number := fun (x : TreeSymbol) => match x with
      | .of n => n
      | _ => 0
    match compare (number s.info.symbol) (number t.info.symbol) with
    | .eq =>
      match compare s.children.length t.children.length with
      | .eq => compareShapes fuel (s.children.zip t.children ++ rest)
      | o => o
    | o => o

/-- Whether the second tree is preferred to the first: it costs less, or both have
    faults, or it comes first in the order of shapes. -/
def prefers (fuel : Nat) (old new : ParseTree σ) : Bool :=
  if new.info.cost < old.info.cost then true
  else if old.info.cost < new.info.cost then false
  else if 0 < old.info.cost then true
  else compareShapes fuel [(old, new)] == .gt

/-- Whether two trees are interchangeable on the stack. -/
def equivalent [BEq σ] (initial : σ) (s t : ParseTree σ) : Bool :=
  let s' := s.info
  let t' := t.info
  s'.symbol == t'.symbol &&
    ((0 < s'.cost && 0 < t'.cost) ||
      (s'.start - s'.lead == t'.start - t'.lead && s'.stop - s'.start == t'.stop - t'.start &&
        s.children.length == t.children.length && s'.extra == t'.extra &&
        s'.layout.getD initial == t'.layout.getD initial))

/-! ## Nodes -/

mutual

/-- The nodes directly below a tree, with their kinds. -/
def nodes (table : Table) : ParseTree σ → List (String × ParseTree σ)
  | mk _ children => nodesOf table children

/-- The nodes of a list of trees: those that are seen, and the nodes below the
    hidden ones. -/
def nodesOf (table : Table) : List (ParseTree σ) → List (String × ParseTree σ)
  | [] => []
  | t :: rest =>
    match t.info.symbol with
    | .fault => ("", t) :: nodesOf table rest
    | .skipped => nodes table t ++ nodesOf table rest
    | .of s =>
      match table.numbered.appearance s with
      | .node kind => (kind, t) :: nodesOf table rest
      | .mark => nodesOf table rest
      | .hidden => nodes table t ++ nodesOf table rest

end

end ParseTree

end ElmAssist.Parsing
