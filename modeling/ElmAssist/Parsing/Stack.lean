/-
  The stacks of the parser.

  After a fault the parser follows several readings of a text at once.  Their
  stacks share what they have in common: a `StackNode` has one link for each way to
  it, and a `Head` is the top of one stack.  Heads that are in the same state at
  the same place, with the same layout and cost, are merged.
-/
import ElmAssist.Parsing.Lexer

namespace ElmAssist.Parsing

/-- A way from a stack node to the one below, over a tree; no tree marks the place
    of a fault. -/
structure Link (σ : Type) where
  node : Nat
  tree : Option (ParseTree σ)
  deriving Inhabited

/-- A node of the stacks. -/
structure StackNode (σ : Type) where
  state : Nat
  position : Nat
  /-- The cost of the faults below. -/
  cost : Nat := 0
  /-- The number of tree nodes below. -/
  count : Nat := 0
  links : List (Link σ) := []
  deriving Inhabited

/-- Whether a stack is being read on. -/
inductive HeadStatus (σ : Type) where
  | active
  /-- Stopped in front of a token that does not fit. -/
  | paused (token : Lookahead σ)
  /-- Given up. -/
  | halted

/-- A state that a stack was in, how many trees ago, and where. -/
structure Past where
  position : Nat
  depth : Nat
  state : Nat

/-- The top of a stack. -/
structure Head (σ : Type) where
  node : Nat
  /-- The number of tree nodes at the last fault. -/
  base : Nat := 0
  layout : σ
  status : HeadStatus σ := .active
  /-- The states of the stack when it met a fault. -/
  past : Option (List Past) := none

/-- Whether a head is active. -/
def Head.isActive {σ : Type} (h : Head σ) : Bool :=
  match h.status with
  | .active => true
  | _ => false

/-- Whether a head is paused. -/
def Head.isPaused {σ : Type} (h : Head σ) : Bool :=
  match h.status with
  | .paused _ => true
  | _ => false

/-- Whether a head is halted. -/
def Head.isHalted {σ : Type} (h : Head σ) : Bool :=
  match h.status with
  | .halted => true
  | _ => false

/-- The state of a run of the parser. -/
structure Run (σ : Type) where
  nodes : Array (StackNode σ)
  heads : Array (Head σ)
  /-- The best reading of the whole text so far. -/
  finished : Option (ParseTree σ) := none
  /-- The number of readings of the whole text. -/
  readings : Nat := 0
  /-- The last token that was read, with its position and the layout in front of
      it. -/
  lastToken : Option (Nat × σ × Lookahead σ) := none
  /-- What the function for externals carries from call to call. -/
  memory : Nat := 0

namespace Run

variable {σ : Type}

/-! ## Heads and nodes -/

/-- The node with a number. -/
def nodeAt (r : Run σ) (n : Nat) : StackNode σ :=
  r.nodes.getD n ⟨0, 0, 0, 0, []⟩

/-- The head with a number. -/
def headAt (r : Run σ) (initial : σ) (v : Nat) : Head σ :=
  r.heads.getD v { node := 0, layout := initial }

/-- The node at the top of a stack. -/
def top (r : Run σ) (v : Nat) : StackNode σ :=
  r.nodeAt ((r.heads[v]?).elim 0 (·.node))

/-- Changes a head. -/
def modifyHead (r : Run σ) (v : Nat) (f : Head σ → Head σ) : Run σ :=
  { r with heads := r.heads.modify v f }

/-- Gives a head up. -/
def halt (r : Run σ) (v : Nat) : Run σ :=
  r.modifyHead v ({ · with status := .halted })

/-- Removes a head. -/
def removeHead (r : Run σ) (v : Nat) : Run σ :=
  { r with heads := r.heads.eraseIdxIfInBounds v }

/-- Adds a head that starts at a node with the history of another. -/
def addHead (r : Run σ) (v node : Nat) : Run σ :=
  match r.heads[v]? with
  | none => r
  | some h => { r with heads := r.heads.push { node, base := h.base, layout := h.layout } }

/-- Moves a head to the place of another one. -/
def moveHead (r : Run σ) (source target : Nat) : Run σ :=
  if source == target then r
  else
    match r.heads[source]?, r.heads[target]? with
    | some s, some t =>
      let s := if s.past.isNone then { s with past := t.past } else s
      { r with heads := (r.heads.setIfInBounds target s).eraseIdxIfInBounds source }
    | _, _ => r

/-- The cost of the faults of a stack; one that is about to skip text pays for
    it. -/
def costOf (r : Run σ) (v : Nat) : Nat :=
  let node := r.top v
  let paused := (r.heads[v]?).any (·.isPaused)
  let atFault := node.state == Table.faultState && (node.links.head?.any (·.tree.isNone))
  node.cost + (if paused || atFault then skipPrice else 0)

/-- Counts the tree nodes of a stack from its top on, if it has fallen behind its
    last fault. -/
def rebase (r : Run σ) (v : Nat) : Run σ :=
  let count := (r.top v).count
  r.modifyHead v fun h => if count < h.base then { h with base := count } else h

/-- The number of tree nodes since the last fault. -/
def countSinceFault (r : Run σ) (v : Nat) : Nat :=
  (r.top v).count - ((r.heads[v]?).elim 0 (·.base))

/-- Follows the first links down to a tree that takes text. -/
def takesText (r : Run σ) (base : Nat) : Nat → Nat → Bool
  | 0, _ => false
  | fuel + 1, n =>
    let node := r.nodeAt n
    match node.links with
    | { node := below, tree := some t } :: _ =>
      if t.info.lead < t.info.stop then true
      else if base < node.count && t.info.cost == 0 then r.takesText base fuel below
      else false
    | _ => false

/-- Whether a stack has got on since its last fault. -/
def hasAdvanced (r : Run σ) (v : Nat) : Bool :=
  (r.top v).cost == 0 ||
    (r.heads[v]?).any fun h => r.takesText h.base (r.nodes.size + 1) h.node

/-! ## Pushing -/

/-- Pushes a tree, or the mark of a fault. -/
def push (r : Run σ) (table : Table) (v : Nat) (tree : Option (ParseTree σ)) (state : Nat) :
    Run σ :=
  let below := (r.heads[v]?).elim 0 (·.node)
  let under := r.nodeAt below
  let links := [⟨below, tree⟩]
  let node : StackNode σ :=
    match tree with
    | some t => ⟨state, t.info.stop, under.cost + t.info.cost, under.count + t.weight table, links⟩
    | none => ⟨state, under.position, under.cost, under.count, links⟩
  let n := r.nodes.size
  { r with
    nodes := r.nodes.push node
    heads := r.heads.modify v fun h =>
      { h with node := n, base := if tree.isNone then node.count else h.base } }

/-- Pushes trees in one state. -/
def pushAll (r : Run σ) (table : Table) (v : Nat) (trees : List (ParseTree σ)) (state : Nat) :
    Run σ :=
  trees.foldl (fun r t => r.push table v (some t) state) r

/-! ## Merging -/

/-- The greatest number of links of a node. -/
def linkLimit : Nat := 8

/-- Whether two links go over interchangeable trees. -/
def sameTree [BEq σ] (initial : σ) (a b : Link σ) : Bool :=
  match a.tree, b.tree with
  | none, none => true
  | some s, some t => s.equivalent initial t
  | _, _ => false

/-- Adds a link to a node.  A link over an interchangeable tree to the same node
    changes nothing; one to a node in the same state at the same place is added
    below. -/
def addLink [BEq σ] (table : Table) (initial : σ) :
    Nat → Array (StackNode σ) → Nat → Link σ → Array (StackNode σ)
  | 0, nodes, _, _ => nodes
  | fuel + 1, nodes, n, link =>
    let nodeAt := fun i => nodes.getD i ⟨0, 0, 0, 0, []⟩
    let node := nodeAt n
    let target := nodeAt link.node
    if link.node == n then nodes
    else
      let merges := fun (e : Link σ) =>
        let below := nodeAt e.node
        sameTree initial e link && (e.node == link.node ||
          (below.state == target.state && below.position == target.position &&
            below.cost == target.cost))
      match node.links.find? merges with
      | some e =>
        if e.node == link.node then nodes
        else target.links.foldl (fun nodes l => addLink table initial fuel nodes e.node l) nodes
      | none =>
        if linkLimit ≤ node.links.length then nodes
        else
          let count := target.count + (link.tree.map (·.weight table)).getD 0
          nodes.setIfInBounds n
            { node with links := node.links ++ [link], count := max node.count count }

/-- Whether two stacks can be merged. -/
def canMerge [BEq σ] (r : Run σ) (v w : Nat) : Bool :=
  match r.heads[v]?, r.heads[w]? with
  | some x, some y =>
    let a := r.nodeAt x.node
    let b := r.nodeAt y.node
    x.isActive && y.isActive && a.state == b.state && a.position == b.position &&
      a.cost == b.cost && x.layout == y.layout
  | _, _ => false

/-- Merges the second stack into the first, if that is possible. -/
def merge? [BEq σ] (r : Run σ) (table : Table) (initial : σ) (v w : Nat) : Option (Run σ) :=
  if r.canMerge v w then
    let into := (r.heads[v]?).elim 0 (·.node)
    let links := (r.top w).links
    match r with
    | { nodes, heads, finished, readings, lastToken, memory } =>
      let fuel := nodes.size + 1
      let nodes := links.foldl (fun nodes l => addLink table initial fuel nodes into l) nodes
      let node := nodes.getD into ⟨0, 0, 0, 0, []⟩
      let heads := heads.modify v fun h =>
        if node.state == Table.faultState then { h with base := node.count } else h
      some { nodes, heads := heads.eraseIdxIfInBounds w, finished, readings, lastToken, memory }
  else none

/-- Merges a stack into the first of some others that it can be merged into. -/
def mergeIntoFirst? [BEq σ] (r : Run σ) (table : Table) (initial : σ) (w : Nat) :
    List Nat → Option (Run σ)
  | [] => none
  | v :: rest =>
    match r.merge? table initial v w with
    | some r => some r
    | none => r.mergeIntoFirst? table initial w rest

/-! ## Walking down -/

/-- A walk down a stack: where it is, the trees it has passed, lowest first, and
    how many of them are no extras. -/
structure Walker (σ : Type) where
  node : Nat
  trees : List (ParseTree σ) := []
  depth : Nat := 0

/-- What to do at a node of a walk. -/
structure Visit where
  /-- Whether the walk so far is a result. -/
  pops : Bool := false
  /-- Whether the walk ends here. -/
  stops : Bool := false

/-- The walk over a link. -/
def Walker.over {σ : Type} (w : Walker σ) (l : Link σ) : Walker σ :=
  match l.tree with
  | some t => ⟨l.node, t :: w.trees, if t.info.extra then w.depth else w.depth + 1⟩
  | none => ⟨l.node, w.trees, w.depth + 1⟩

/-- The greatest number of walks at once. -/
def walkerLimit : Nat := 64

/-- One step of all walks: `ahead` are those still to make it, `made` and `split`
    those that have, last one first, the latter over a link other than the
    first. -/
def walkStep {α : Type} (nodes : Array (StackNode σ)) (visit : α → Walker σ → α × Visit) :
    List (Walker σ) → α → (made split popped : List (Walker σ)) →
      α × List (Walker σ) × List (Walker σ)
  | [], a, made, split, popped => (a, made.reverse ++ split.reverse, popped)
  | w :: ahead, a, made, split, popped =>
    let (a, v) := visit a w
    let popped := if v.pops then w :: popped else popped
    match (nodes.getD w.node ⟨0, 0, 0, 0, []⟩).links with
    | [] => walkStep nodes visit ahead a made split popped
    | first :: others =>
      if v.stops then walkStep nodes visit ahead a made split popped
      else
        let room := walkerLimit - (made.length + 1 + ahead.length + split.length)
        let split := (others.take room).foldl (fun split l => w.over l :: split) split
        walkStep nodes visit ahead a (w.over first :: made) split popped

/-- Walks down from some nodes, all walks step by step, and returns those that
    were results. -/
def walk {α : Type} (nodes : Array (StackNode σ)) (visit : α → Walker σ → α × Visit) :
    Nat → List (Walker σ) → α → List (Walker σ) → α × List (Walker σ)
  | 0, _, a, popped => (a, popped.reverse)
  | _, [], a, popped => (a, popped.reverse)
  | fuel + 1, walkers, a, popped =>
    let (a, walkers, popped) := walkStep nodes visit walkers a [] [] popped
    walk nodes visit fuel walkers a popped

/-- Walks down a stack. -/
def walkDown {α : Type} (r : Run σ) (v : Nat) (a : α) (visit : α → Walker σ → α × Visit) :
    α × List (Walker σ) :=
  walk r.nodes visit (r.nodes.size + 1) [{ node := (r.heads[v]?).elim 0 (·.node) }] a []

/-! ## Popping -/

/-- Ways down a stack to one node, as the trees that are passed, lowest first. -/
structure Slice (σ : Type) where
  node : Nat
  ways : List (List (ParseTree σ))

/-- Puts a walk to the slice of its node. -/
def addToSlices (w : Walker σ) : List (Slice σ) → List (Slice σ)
  | [] => [⟨w.node, [w.trees]⟩]
  | s :: rest =>
    if s.node == w.node then { s with ways := s.ways ++ [w.trees] } :: rest
    else s :: addToSlices w rest

/-- The walks by the node they lead to. -/
def slices (ws : List (Walker σ)) : List (Slice σ) :=
  ws.foldl (fun found w => addToSlices w found) []

/-- The slices below the top `count` trees of a stack. -/
def popSlices (r : Run σ) (v count : Nat) : List (Slice σ) :=
  slices (r.walkDown v () fun _ w => ((), { pops := w.depth == count, stops := w.depth == count })).2

/-- The slices of a whole stack. -/
def wholeSlices (r : Run σ) (v : Nat) : List (Slice σ) :=
  slices (r.walkDown v () fun _ w => ((), { pops := (r.nodeAt w.node).links.isEmpty })).2

/-- Adds a head for each slice. -/
def addHeads (r : Run σ) (v : Nat) (slices : List (Slice σ)) : Run σ :=
  slices.foldl (fun r s => r.addHead v s.node) r

/-- How many trees a stack remembers when it meets a fault. -/
def memoryDepth : Nat := 16

/-- The states a stack was in, from the top. -/
def pastOf (r : Run σ) (v : Nat) : List Past :=
  let visit := fun (found : List Past) (w : Walker σ) =>
    if memoryDepth < w.depth then (found, { stops := true })
    else
      let node := r.nodeAt w.node
      let known := (found.takeWhile fun p => w.depth ≤ p.depth).any fun p =>
        p.depth == w.depth && p.state == node.state
      if known then (found, {}) else (⟨node.position, w.depth, node.state⟩ :: found, ({} : Visit))
  (r.walkDown v [] visit).1.reverse

end Run

end ElmAssist.Parsing
