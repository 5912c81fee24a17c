/-
  Recovery from faults.

  Where a token does not fit, the parser reduces whatever it can, tries to suppose
  one missing token, and marks the place of the fault.  From there a stack either
  goes back to a state it was in before, if the token fits there, with all that
  came since as a fault, or it skips the token.  A reading that costs clearly more
  than another one is given up.
-/
import ElmAssist.Parsing.Step

namespace ElmAssist.Parsing

/-! ## Comparing readings -/

/-- How a reading stands. -/
structure Standing where
  cost : Nat
  /-- The number of tree nodes since its last fault. -/
  count : Nat
  /-- Whether it is looking for a way on. -/
  inFault : Bool

/-- How one reading compares to another. -/
inductive Verdict where
  /-- The first is clearly better. -/
  | takeLeft
  | preferLeft
  | none
  | preferRight
  /-- The second is clearly better. -/
  | takeRight
  deriving DecidableEq

/-- The difference of costs, times the progress made, that decides between
    readings. -/
def decisiveDifference : Nat := 1800

/-- Compares two readings. -/
def Standing.compare (a b : Standing) : Verdict :=
  if !a.inFault && b.inFault then if a.cost < b.cost then .takeLeft else .preferLeft
  else if a.inFault && !b.inFault then if b.cost < a.cost then .takeRight else .preferRight
  else if a.cost < b.cost then
    if decisiveDifference < (b.cost - a.cost) * (1 + a.count) then .takeLeft else .preferLeft
  else if b.cost < a.cost then
    if decisiveDifference < (a.cost - b.cost) * (1 + b.count) then .takeRight else .preferRight
  else .none

namespace Run

variable {σ : Type} [BEq σ] (L : Parser σ) (source : Source)

/-- How a stack stands. -/
def standing (r : Run σ) (v : Nat) : Standing × Run σ :=
  let r := r.rebase v
  let paused := (r.heads[v]?).any (·.isPaused)
  ({ cost := r.costOf v + (if paused then skippedTreePrice else 0)
     count := r.countSinceFault v
     inFault := paused || (r.top v).state == Table.faultState }, r)

/-- Whether one of some other stacks is better than a stack that would have a
    standing. -/
def someBetter (v position : Nat) (standing : Standing) : List Nat → Run σ → Bool × Run σ
  | [], r => (false, r)
  | w :: rest, r =>
    if w == v || !(r.heads[w]?).any (·.isActive) || (r.top w).position < position then
      someBetter v position standing rest r
    else
      let (other, r) := r.standing w
      match standing.compare other with
      | .takeRight => (true, r)
      | .preferRight =>
        if r.canMerge w v then (true, r) else someBetter v position standing rest r
      | _ => someBetter v position standing rest r

/-- Whether there is a better reading than a stack that would have a cost. -/
def betterExists (r : Run σ) (v cost : Nat) : Bool × Run σ :=
  if r.finished.any (·.info.cost ≤ cost) then (true, r)
  else
    let position := (r.top v).position
    let r := r.rebase v
    let standing := { cost, count := r.countSinceFault v, inFault := false }
    someBetter v position standing (List.range r.heads.size) r

/-! ## Potential reductions -/

/-- Whether a state can take one of some terminals, and the reductions it can make
    on them. -/
def potential (state : Nat) (terminals : List Nat) : Bool × List (Nat × Nat) :=
  let add := fun (found : Bool × List (Nat × Nat)) (a : Action) =>
    match a with
    | .shift _ false | .recover => (true, found.2)
    | .reduce symbol count _ =>
      if count == 0 || found.2.contains (symbol, count) then found
      else (found.1, found.2 ++ [(symbol, count)])
    | _ => found
  (terminals.flatMap (L.table.actions state)).foldl add (false, [])

/-- Makes all reductions that could be made on some terminals, on a stack and on
    those that arise from it, and returns whether one of them can go on.  With
    `discards`, those that cannot are removed.  `first` is the first of the stacks
    that arise, `v` the one that is looked at, and `tried` counts the stacks. -/
def reduceAll (start first : Nat) (terminals : List Nat) (discards : Bool) :
    Nat → Nat → Nat → Bool → Run σ → Bool × Run σ
  | 0, _, _, goesOn, r => (goesOn, r)
  | fuel + 1, v, tried, goesOn, r =>
    let size := r.heads.size
    if size ≤ v then (goesOn, r)
    else
      match r.mergeIntoFirst? L.table L.initial v ((List.range v).drop first) with
      | some r => reduceAll start first terminals discards fuel v (tried + 1) goesOn r
      | none =>
        let (takes, reductions) := potential L (r.top v).state terminals
        let (r, last) := reductions.foldl
          (fun (r, _) (symbol, count) => Run.reduce L source r v symbol count false)
          (r, (none : Option Nat))
        let next := if v == start then size else v + 1
        if takes then reduceAll start first terminals discards fuel next (tried + 1) true r
        else
          match last with
          | some w =>
            if tried < headLimit then
              reduceAll start first terminals discards fuel v (tried + 1) goesOn (r.moveHead w v)
            else if discards then
              reduceAll start first terminals discards fuel next (tried + 1) goesOn (r.removeHead v)
            else reduceAll start first terminals discards fuel next (tried + 1) goesOn r
          | none =>
            let r := if discards then r.removeHead v else r
            reduceAll start first terminals discards fuel next (tried + 1) goesOn r

/-- A bound for the number of stacks that are looked at for reductions. -/
def reductionLimit : Nat := 100000

/-- Makes all reductions that could be made in front of a token, or in front of
    any token if none is given.  The end of the text counts as any token. -/
def allReductions (r : Run σ) (v : Nat) (token : Option (Lookahead σ)) : Bool × Run σ :=
  let anyToken := token.all (·.symbol? == some Numbered.finish)
  let terminals :=
    if anyToken then List.range' 1 (L.table.numbered.extraEnd - 1)
    else (token.bind (·.symbol?)).toList
  reduceAll L source v r.heads.size terminals (!anyToken) reductionLimit v 0 false r

/-! ## Going back -/

/-- Removes a fault from the top of a stack, and returns what it consisted of. -/
def popFault (r : Run σ) (v : Nat) : List (ParseTree σ) × Run σ :=
  let faults := (r.top v).links.filter fun l => l.tree.any (·.info.symbol == .fault)
  match faults with
  | { node, tree := some t } :: _ => (t.children, r.modifyHead v ({ · with node }))
  | _ => ([], r)

/-- Goes back on one slice, if it leads to the state `goal`: what lies above becomes
    a fault. -/
def goBackSlice (r : Run σ) (w goal : Nat) (slice : Slice σ) : Bool × Run σ :=
  if (r.top w).state != goal then (false, r.halt w)
  else
    let (skipped, r) := r.popFault w
    let (trees, extras) := ParseTree.splitExtras (skipped ++ slice.ways.headD [])
    let position := (r.top w).position
    let r :=
      if trees.isEmpty then r
      else
        let fault := ParseTree.node L.table source .fault trees position
        r.push L.table w (some (fault.withExtra true)) goal
    (true, r.pushAll L.table w extras goal)

/-- Goes back `depth` trees on a stack to a state. -/
def goBack (r : Run σ) (v depth goal : Nat) : Bool × Run σ :=
  let first := r.heads.size
  let slices := r.popSlices v depth
  let r := r.addHeads v slices
  let (found, r, _) := slices.foldl
    (fun (found, r, w) slice =>
      let (done, r) := Run.goBackSlice L source r w goal slice
      (found || done, r, w + 1)) (false, r, first)
  (found, r)

/-- Removes the heads from a number on that are not active. -/
def removeInactive (r : Run σ) (first : Nat) : Run σ :=
  { r with heads := (r.heads.toList.take first ++
      (r.heads.toList.drop first).filter (·.isActive)).toArray }

/-- Tries to go back to one of the past states of a stack in which a token fits. -/
def tryGoBack (v symbol position cost count headCount : Nat) :
    List Past → Run σ → Bool × Run σ
  | [], r => (false, r)
  | past :: rest, r =>
    let taken := (List.range headCount).any fun w =>
      let node := r.top w
      node.state == past.state && node.position == position
    if past.state == Table.faultState || past.position == position || taken then
      tryGoBack v symbol position cost count headCount rest r
    else
      let (better, r) := r.betterExists v (cost + source.passingPrice past.position position)
      if better then (false, r)
      else if (L.table.actions past.state symbol).isEmpty then
        tryGoBack v symbol position cost count headCount rest r
      else
        let depth := past.depth + (if 0 < count then 1 else 0)
        let (done, r) := r.goBack L source v depth past.state
        if done then (true, r) else tryGoBack v symbol position cost count headCount rest r

/-! ## Skipping -/

/-- Skips a token: it joins the text skipped before. -/
def skip (r : Run σ) (v count : Nat) (token : ParseTree σ) : Run σ :=
  let table := L.table
  let isExtra : Bool :=
    match token.info.symbol with
    | .of s => (table.actions Table.startState s).getLast? == some .shiftExtra
    | _ => false
  let token := if isExtra then token.withExtra true else token
  let position := (r.top v).position
  let skipped := ParseTree.node table source .skipped [token] position
  let (skipped, r) :=
    if 0 < count then
      match r.popSlices v 1 with
      | slice :: _ =>
        let all := slice.ways.headD [] ++ [skipped]
        (ParseTree.node table source .skipped all position,
          r.modifyHead v ({ · with node := slice.node }))
      | [] => (skipped, r)
    else (skipped, r)
  let r := r.push table v (some skipped) Table.faultState
  match token.info.layout with
  | some layout => r.modifyHead v ({ · with layout })
  | none => r

/-- Goes on with a stack at a fault, in front of a token. -/
def recover (r : Run σ) (v : Nat) (token : Lookahead σ) : Run σ :=
  let headCount := r.heads.size
  let position := (r.top v).position
  let r := r.rebase v
  let count := r.countSinceFault v
  let cost := r.costOf v
  let past := ((r.heads[v]?).bind (·.past)).getD []
  let (wentBack, r) :=
    match token.symbol? with
    | some s => tryGoBack L source v s position cost count headCount past r
    | none => (false, r)
  let r := r.removeInactive headCount
  if token.symbol? == some Numbered.finish then
    let rest := ParseTree.node L.table source .fault [] position
    let r := r.push L.table v (some rest) Table.startState
    r.accept L source v token.tree
  else if wentBack && (headLimit < r.heads.size || token.changed) then r.halt v
  else
    let info := token.tree.info
    let price := cost + skippedTreePrice + source.passingPrice info.lead info.stop
    let (better, r) := r.betterExists v price
    if better then r.halt v else r.skip L source v count token.tree

/-! ## Faults -/

/-- Supposes the first terminal that helps. -/
def supposeFirst (v position : Nat) (token : Lookahead σ) : List Nat → Run σ → Bool × Run σ
  | [], r => (false, r)
  | t :: rest, r =>
    let state := (r.top v).state
    let next := L.table.next state t
    let fits := token.symbol?.any (L.table.reducesOn next)
    if next == Table.faultState || next == state || !fits then
      supposeFirst v position token rest r
    else
      let copy := r.heads.size
      let r := r.addHead v ((r.heads[v]?).elim 0 (·.node))
      let r := r.push L.table copy (some (.missing t position)) next
      let (goesOn, r) := r.allReductions L source copy (some token)
      if goesOn then (true, r) else supposeFirst v position token rest r

/-- Marks a fault on some stacks; on the first of them on which that helps, a
    missing token is supposed. -/
def markFaults (position : Nat) (token : Lookahead σ) : List Nat → Bool → Run σ → Run σ
  | [], _, r => r
  | v :: rest, supposed, r =>
    let terminals := List.range' 1 (L.table.numbered.extraEnd - 1)
    let (supposed, r) :=
      if supposed then (true, r) else supposeFirst L source v position token terminals r
    markFaults position token rest supposed (r.push L.table v none Table.faultState)

/-- Handles a token that does not fit on a stack. -/
def handleFault (r : Run σ) (v : Nat) (token : Lookahead σ) : Run σ :=
  let first := r.heads.size
  let (_, r) := r.allReductions L source v none
  let arisen := (List.range r.heads.size).drop first
  let r := markFaults L source (r.top v).position token (v :: arisen) false r
  let r := arisen.foldl (fun r _ => (r.merge? L.table L.initial v first).getD r) r
  let past := r.pastOf v
  (r.modifyHead v ({ · with past := some past })).recover L source v token

end Run

end ElmAssist.Parsing
