/-
  The parser.

  `Parser.parse` reads a text bottom-up.  As long as every token fits there is one
  stack.  After a fault several readings are followed side by side; after each
  round, `condense` merges those that agree and gives up those that cost clearly
  more than others.  The result is the reading of the whole text that costs
  least.
-/
import ElmAssist.Parsing.Recovery

namespace ElmAssist.Parsing

namespace Run

variable {σ : Type} [BEq σ] (L : Parser σ) (source : Source)

/-! ## One step -/

/-- The last token that was read, if it would be read again in a state. -/
def reusable? (r : Run σ) (state position : Nat) (layout : σ) : Option (Lookahead σ) := do
  let (p, l, token) ← r.lastToken
  let symbol ← token.symbol?
  let here := L.table.state state
  let there := L.table.state token.state
  let fits := !(L.table.actions state symbol).isEmpty
  if p != position || l != layout || here.lexing.isNone || !fits then none
  else
    let sameLexing := here.lexing == there.lexing && here.externals == there.externals
    let sameWord := symbol != wordTerminal || (!token.keyword && token.state == state)
    let info := token.tree.info
    let isEmpty := info.stop == info.start && symbol != Numbered.finish
    if sameLexing && sameWord then some token
    else if !isEmpty && here.externals == 0 && L.table.isReusable state symbol then some token
    else none

/-- Reads the token in front of a stack. -/
def readToken (r : Run σ) (v state position : Nat) (layout : σ) : Option (Lookahead σ) × Run σ :=
  let (token, memory) :=
    L.lookahead source state position layout r.memory fun _ => r.hasAdvanced v
  let lastToken :=
    match token with
    | some t => some (position, layout, t)
    | none => r.lastToken
  (token, { r with memory, lastToken })

/-- What is left to do for a stack behind a list of actions. -/
inductive Outcome where
  /-- Nothing in this step. -/
  | done
  /-- It goes on with the head that a reduction has given, if there is one. -/
  | reduced (head : Option Nat)
  /-- No action applies. -/
  | stuck

/-- Does the actions for a token. -/
def act (v state : Nat) (token : Option (Lookahead σ)) :
    List Action → Outcome → Run σ → Outcome × Run σ
  | [], outcome, r => (outcome, r)
  | a :: rest, outcome, r =>
    match a, token with
    | .shift _ true, _ => act v state token rest outcome r
    | .shift next false, some t => (.done, r.shift L v next t.tree false)
    | .shiftExtra, some t => (.done, r.shift L v state t.tree true)
    | .accept, some t => (.done, r.accept L source v t.tree)
    | .recover, some t => (.done, r.recover L source v t)
    | .reduce symbol count _, _ =>
      let (r, head) := r.reduce L source v symbol count token.isNone
      let before :=
        match outcome with
        | .reduced h => h
        | _ => none
      act v state token rest (.reduced (head.or before)) r
    | _, none => act v state token rest outcome r

/-- The actions in a state for a token; behind an extra, for none. -/
def actionsFor (state : Nat) (token : Option (Lookahead σ)) : List Action :=
  match token with
  | none => L.table.actions state L.table.numbered.extraEnd
  | some t => (t.symbol?.map (L.table.actions state)).getD []

/-- Stops a stack in front of a token that does not fit. -/
def pause (r : Run σ) (v : Nat) (token : Lookahead σ) : Run σ :=
  let count := (r.top v).count
  r.modifyHead v ({ · with status := .paused token, base := count })

/-- Moves a stack on until it has taken a token, or stops. -/
def advanceWith (v position : Nat) (layout : σ) :
    Nat → Option (Lookahead σ) → Run σ → Run σ
  | 0, _, r => r.halt v
  | fuel + 1, token, r =>
    let state := (r.top v).state
    let (token, r) :=
      match token with
      | some t => (some t, r)
      | none => r.readToken L source v state position layout
    match act L source v state token (actionsFor L state token) .stuck r with
    | (.done, r) => r
    | (.reduced (some head), r) => advanceWith v position layout fuel token (r.moveHead head v)
    | (.reduced none, r) => r.halt v
    | (.stuck, r) =>
      match token with
      | none => r.halt v
      | some t =>
        let isTaken := t.keyword && t.symbol? != some wordTerminal &&
          !(L.table.actions state wordTerminal).isEmpty
        if isTaken then
          let asWord := { t with tree := t.tree.withSymbol (.of wordTerminal) }
          advanceWith v position layout fuel (some asWord) r
        else r.pause v t

/-- A bound for the number of reductions in front of a token. -/
def stepLimit : Nat := 10000000

/-- Moves a stack on by one token. -/
def advance (r : Run σ) (v : Nat) : Run σ :=
  let layout := (r.headAt L.initial v).layout
  let node := r.top v
  advanceWith L source v node.position layout stepLimit
    (r.reusable? L node.state node.position layout) r

/-! ## One round -/

/-- Moves a stack on while it is active, until it is behind the position `last`,
    or, if it is not the first one, at it. -/
def advanceHead (v : Nat) : Nat → Nat → Run σ → Nat × Run σ
  | 0, last, r => (last, r)
  | fuel + 1, last, r =>
    if (r.heads[v]?).any (·.isActive) then
      let r := r.advance L source v
      if r.heads.size ≤ v then (last, r)
      else
        let position := (r.top v).position
        if last < position || (0 < v && position == last) then (position, r)
        else advanceHead v fuel last r
    else (last, r)

/-- Moves all stacks on, from the one with number `v`. -/
def advanceAll (limit : Nat) : Nat → Nat → Nat → Run σ → Nat × Run σ
  | 0, _, last, r => (last, r)
  | fuel + 1, v, last, r =>
    if r.heads.size ≤ v then (last, r)
    else
      let (last, r) := advanceHead L source v limit last r
      advanceAll limit fuel (v + 1) last r

/-- Compares the stack `i`, which had a standing, to the stacks from `j` up to it.
    Returns the number of the last stack that has been compared. -/
def condenseAt (standing : Standing) : Nat → Nat → Nat → Run σ → Nat × Run σ
  | 0, i, _, r => (i, r)
  | fuel + 1, i, j, r =>
    if i ≤ j then (i, r)
    else
      let (other, r) := r.standing j
      match other.compare standing with
      | .takeLeft => (i - 1, r.removeHead i)
      | .takeRight => condenseAt standing fuel (i - 1) j (r.removeHead j)
      | .preferRight =>
        match r.merge? L.table L.initial j i with
        | some r => (i - 1, r)
        | none => condenseAt standing fuel i (j + 1) { r with heads := r.heads.swapIfInBounds i j }
      | _ =>
        match r.merge? L.table L.initial j i with
        | some r => (i - 1, r)
        | none => condenseAt standing fuel i (j + 1) r

/-- Compares all stacks from the one with number `i` on to those before.  Returns
    the least cost of one that is not in a fault. -/
def condenseFrom : Nat → Nat → Option Nat → Run σ → Option Nat × Run σ
  | 0, _, least, r => (least, r)
  | fuel + 1, i, least, r =>
    match r.heads[i]? with
    | none => (least, r)
    | some h =>
      if h.isHalted then condenseFrom fuel i least (r.removeHead i)
      else
        let (standing, r) := r.standing i
        let least :=
          if standing.inFault then least else some (least.elim standing.cost (min standing.cost))
        let (i, r) := condenseAt L standing (2 * r.heads.size + 2) i 0 r
        condenseFrom fuel (i + 1) least r

/-- Takes up the first stack that is paused, unless there is one that goes on, and
    removes the other paused ones.  `n` heads from number `i` on are looked at. -/
def resume : Nat → Nat → Bool → Option Nat → Run σ → Option Nat × Run σ
  | 0, _, _, least, r => (least, r)
  | n + 1, i, goesOn, least, r =>
    match (r.heads[i]?).map Head.status with
    | some (HeadStatus.paused token) =>
      if !goesOn && r.readings < headLimit then
        let least := some (r.costOf i)
        let r := r.modifyHead i ({ · with status := .active })
        resume n (i + 1) true least (r.handleFault L source i token)
      else resume n i goesOn least (r.removeHead i)
    | _ => resume n (i + 1) true least r

/-- A bound for the number of stacks between two rounds. -/
def condenseLimit : Nat := 100000

/-- Merges, orders and gives up stacks, and returns the least cost of one that goes
    on; `none` stands for no such stack. -/
def condense (r : Run σ) : Option Nat × Run σ :=
  let (least, r) := condenseFrom L condenseLimit 0 none r
  let r := { r with heads := r.heads.extract 0 headLimit }
  resume L source r.heads.size 0 false least r

/-! ## Whole texts -/

/-- Rounds until there is nothing left to do. -/
def rounds (limit : Nat) : Nat → Nat → Run σ → Run σ
  | 0, _, r => r
  | fuel + 1, last, r =>
    let (last, r) := advanceAll L source limit limit 0 last r
    let (least, r) := r.condense L source
    let isBest := r.finished.any fun t => least.all (t.info.cost < ·)
    if isBest || r.heads.isEmpty then r else rounds limit fuel last r

end Run

/-- The parse tree of a text. -/
def Parser.parse {σ : Type} [BEq σ] (L : Parser σ) (source : Source) : ParseTree σ :=
  let start : Run σ :=
    { nodes := #[⟨Table.startState, 0, 0, 0, []⟩]
      heads := #[{ node := 0, layout := L.initial }] }
  let limit := 1000 * (source.size + 10)
  ((start.rounds L source limit limit 0).finished).getD default

end ElmAssist.Parsing
