/-
  The automaton of a grammar.

  The states are the sets of LR(1) items that a bottom-up parser can be in
  (`Automaton.ofGrammar`).  Symbols are numbered: the end of the text is `0`, then
  come the terminals, the externals, the mark behind an extra that is made of
  several tokens, and the nonterminals.  A set of terminals is a number whose bits
  tell the members.

  Where a state can both reduce and shift, precedence and side decide; inside a
  repetition both actions stay, the shift marked as repeated.
-/
import ElmAssist.Parsing.Grammar
import Std.Data.HashMap

namespace ElmAssist.Parsing

/-! ## Sets of terminals -/

/-- A set of terminals, as bits. -/
abbrev TerminalSet := Nat

/-- Whether a terminal is a member. -/
def TerminalSet.has (s : TerminalSet) (t : Nat) : Bool :=
  s.testBit t

/-- The set of one terminal. -/
def TerminalSet.one (t : Nat) : TerminalSet :=
  1 <<< t

/-- The union of two sets. -/
def TerminalSet.union (s t : TerminalSet) : TerminalSet :=
  s ||| t

/-- Whether two sets have a member in common. -/
def TerminalSet.meets (s t : TerminalSet) : Bool :=
  s &&& t != 0

/-- The set of the listed terminals. -/
def TerminalSet.ofList (ts : List Nat) : TerminalSet :=
  ts.foldl (fun s t => s.union (one t)) 0

/-! ## Numbered symbols -/

/-- A step of a rule, with the number of its symbol. -/
structure NumberedStep where
  symbol : Nat
  label : Option String
  role : Option String
  deriving DecidableEq, Repr, Inhabited

/-- The right sides of a nonterminal. -/
abbrev RightSides := List (List NumberedStep)

/-- A grammar with numbered symbols. -/
structure Numbered where
  grammar : Grammar
  terminals : Array Terminal
  externals : Array External
  definitions : Array Definition
  /-- The right sides of each definition. -/
  rightSides : Array RightSides

namespace Numbered

/-- The end of the text. -/
def finish : Nat := 0

/-- The number of the terminal at an index. -/
def ofTerminal (i : Nat) : Nat := i + 1

/-- The number of the external at an index. -/
def ofExternal (n : Numbered) (i : Nat) : Nat := n.terminals.size + 1 + i

/-- The number of the mark behind an extra that is made of several tokens. -/
def extraEnd (n : Numbered) : Nat := n.terminals.size + n.externals.size + 1

/-- How many symbols are no nonterminals. -/
def terminalCount (n : Numbered) : Nat := n.extraEnd + 1

/-- The number of the nonterminal at an index. -/
def ofDefinition (n : Numbered) (i : Nat) : Nat := n.terminalCount + i

/-- How many symbols there are. -/
def symbolCount (n : Numbered) : Nat := n.terminalCount + n.definitions.size

/-- Whether a symbol is recognised by a pattern. -/
def isPatterned (n : Numbered) (s : Nat) : Bool :=
  0 < s && s ≤ n.terminals.size

/-- Whether a symbol is an external. -/
def isExternal (n : Numbered) (s : Nat) : Bool :=
  n.terminals.size < s && s < n.extraEnd

/-- The index of the definition of a nonterminal. -/
def definitionIndex? (n : Numbered) (s : Nat) : Option Nat :=
  if n.terminalCount ≤ s then some (s - n.terminalCount) else none

/-- How a symbol appears. -/
def appearance (n : Numbered) (s : Nat) : Appearance :=
  if n.isPatterned s then ((n.terminals[s - 1]?).map (·.appearance)).getD .hidden
  else if n.isExternal s then
    ((n.externals[s - n.terminals.size - 1]?).map (·.appearance)).getD .hidden
  else
    ((n.definitionIndex? s).bind fun i => (n.definitions[i]?).map (·.appearance)).getD .hidden

end Numbered

/-- The number of each name of a symbol, for a grammar whose repetitions have been
    expanded. -/
def Grammar.numbers (g : Grammar) (definitions : List Definition) : Std.HashMap String Nat :=
  let names := g.terminals.map (·.name) ++ g.externals.map (·.name) ++ [""] ++
    definitions.map (·.name)
  Std.HashMap.ofList (names.zip (List.range' 1 names.length))

/-- The right sides of a definition, each once. -/
def Definition.rightSides (d : Definition) (numbers : Std.HashMap String Nat) : RightSides :=
  let numbered := d.rule.alternatives.map fun steps =>
    steps.map fun s => ({ symbol := numbers.getD s.symbol 0, label := s.label, role := s.role }
      : NumberedStep)
  numbered.foldl (fun seen r => if seen.contains r then seen else seen ++ [r]) []

/-- Numbers the symbols of a grammar. -/
def Numbered.ofGrammar (g : Grammar) : Numbered :=
  let definitions := g.expand
  let numbers := g.numbers definitions
  { grammar := g
    terminals := g.terminals.toArray
    externals := g.externals.toArray
    definitions := definitions.toArray
    rightSides := (definitions.map (·.rightSides numbers)).toArray }

/-! ## First terminals and inherited roles -/

/-- Applies a function until nothing changes, at most `n` times. -/
def settle {α : Type} [BEq α] (f : α → α) : Nat → α → α
  | 0, a => a
  | n + 1, a =>
    let b := f a
    if b == a then a else settle f n b

/-- The terminals with which each symbol can start. -/
def Numbered.firsts (n : Numbered) : Array TerminalSet :=
  let start := Array.ofFn (n := n.symbolCount) fun s =>
    if s.val < n.terminalCount then TerminalSet.one s.val else 0
  let grow := fun (sets : Array TerminalSet) =>
    (List.range n.definitions.size).foldl (fun sets d =>
      let sides := n.rightSides.getD d []
      let set := sides.foldl (fun set side =>
        match side with
        | [] => set
        | s :: _ => TerminalSet.union set (sets.getD s.symbol 0)) (sets.getD (n.ofDefinition d) 0)
      sets.setIfInBounds (n.ofDefinition d) set) sets
  settle grow n.definitions.size start

/-- Whether each symbol is hidden and hands roles of its parts to the node it is
    part of. -/
def Numbered.inheriting (n : Numbered) : Array Bool :=
  let isHidden := fun s => !(n.appearance s).isVisible
  let start := Array.replicate n.symbolCount false
  let grow := fun (marked : Array Bool) =>
    (List.range n.definitions.size).foldl (fun marked d =>
      let hands := (n.rightSides.getD d []).any fun side => side.any fun s =>
        s.role.isSome || (isHidden s.symbol && marked.getD s.symbol false)
      marked.setIfInBounds (n.ofDefinition d) (marked.getD (n.ofDefinition d) false || hands)) marked
  (settle grow n.definitions.size start).mapIdx fun s marked => marked && isHidden s

/-! ## Items -/

/-- A right side that has been read up to a dot.  Items of one nonterminal are the
    same if what is left is the same and what has been read differs only in symbols
    that leave no trace. -/
structure ItemKey where
  /-- The nonterminal; `none` for the whole text. -/
  lhs : Option Nat
  /-- The number of steps that have been read. -/
  dot : Nat
  /-- The labels and roles of those steps, with their symbols if one of them
      inherits roles. -/
  read : List (Option String × Option String × Option Nat)
  rest : List NumberedStep
  deriving DecidableEq

/-- An item of the automaton. -/
structure Item where
  lhs : Option Nat
  dot : Nat
  steps : List NumberedStep
  /-- The symbol behind the dot. -/
  next : Option Nat
  /-- The symbol behind that one. -/
  afterNext : Option Nat
  /-- The item with the dot moved over the next symbol. -/
  moved : Nat
  deriving Inhabited

/-- The items made so far. -/
structure ItemPool where
  keys : Array ItemKey := #[]
  items : Array Item := #[]

/-- The key of an item. -/
def itemKey (inheriting : Array Bool) (lhs : Option Nat) (steps : List NumberedStep) (dot : Nat) :
    ItemKey :=
  let read := steps.take dot
  let withSymbols := read.any fun s => inheriting.getD s.symbol false
  { lhs, dot, rest := steps.drop dot
    read := read.map fun s => (s.label, s.role, if withSymbols then some s.symbol else none) }

/-- Adds the item with a dot, unless there is one with its key; `moved` is the item
    behind it. -/
def ItemPool.add (pool : ItemPool) (inheriting : Array Bool) (lhs : Option Nat)
    (steps : List NumberedStep) (dot moved : Nat) : Nat × ItemPool :=
  let key := itemKey inheriting lhs steps dot
  match pool.keys.findIdx? (· == key) with
  | some i => (i, pool)
  | none =>
    let rest := (steps.drop dot).map (·.symbol)
    let item := { lhs, dot, steps, next := rest.head?, afterNext := rest.tail.head?, moved }
    (pool.items.size, ⟨pool.keys.push key, pool.items.push item⟩)

/-- Adds the items of a right side, and returns the one with the dot in front. -/
def ItemPool.addSide (pool : ItemPool) (inheriting : Array Bool) (lhs : Option Nat)
    (steps : List NumberedStep) : Nat × ItemPool :=
  (List.range (steps.length + 1)).reverse.foldl
    (fun (moved, pool) dot => pool.add inheriting lhs steps dot moved) (0, pool)

/-! ## Left corners -/

/-- An item that a nonterminal can start with. -/
structure Corner where
  item : Nat
  /-- The terminals that can follow it in any case. -/
  ahead : TerminalSet
  /-- Whether what follows the nonterminal can follow it too. -/
  inherits : Bool
  deriving Inhabited

/-- What can follow a nonterminal at the start of another. -/
abbrev Following := Option (TerminalSet × Bool)

/-- Joins two descriptions of what can follow. -/
def Following.join (a : Following) (ahead : TerminalSet) (inherits : Bool) : Following :=
  match a with
  | none => some (ahead, inherits)
  | some (set, i) => some (TerminalSet.union set ahead, i || inherits)

/-- For each definition, what can follow it at the start of the definition `d`. -/
def Numbered.following (n : Numbered) (firsts : Array TerminalSet) (d : Nat) : Array Following :=
  let start := (Array.replicate n.definitions.size (none : Following)).setIfInBounds d
    (some (0, true))
  let grow := fun (known : Array Following) =>
    (List.range n.definitions.size).foldl (fun known u =>
      match known.getD u none with
      | none => known
      | some (ahead, inherits) =>
        (n.rightSides.getD u []).foldl (fun known side =>
          match side with
          | [] => known
          | s :: rest =>
            match n.definitionIndex? s.symbol with
            | none => known
            | some b =>
              let joined :=
                match rest with
                | [] => Following.join (known.getD b none) ahead inherits
                | t :: _ => Following.join (known.getD b none) (firsts.getD t.symbol 0) false
              known.setIfInBounds b joined) known) known
  settle grow n.definitions.size start

/-! ## States -/

/-- What the parser does with a terminal in a state. -/
inductive Action where
  /-- Take the terminal and go to a state. -/
  | shift (state : Nat) (repeated : Bool)
  /-- Take the terminal and stay. -/
  | shiftExtra
  /-- Make a node of the last `count` symbols.  The labels, roles and inheriting
      symbols of the steps tell apart what would otherwise be equal. -/
  | reduce (symbol count : Nat) (marks : List (Option String × Option String × Option Nat))
  /-- The whole text has been read. -/
  | accept
  /-- Skip the terminal. -/
  | recover
  deriving DecidableEq, Repr, Inhabited

/-- Where the parser goes behind a nonterminal. -/
inductive Goto where
  /-- It stays in its state. -/
  | stay
  /-- It goes to a state. -/
  | state (state : Nat)
  deriving DecidableEq, Repr, Inhabited

/-- A state of the automaton. -/
structure State where
  /-- The actions for each terminal. -/
  actions : Array (List Action)
  /-- The way on behind each definition. -/
  gotos : Array (Option Goto)
  deriving Inhabited

/-- The items of a state that are not made from others, with what can follow
    them, in order. -/
abbrev Kernel := List (Nat × TerminalSet)

/-- Adds an item to a kernel. -/
def Kernel.insert (item : Nat) (ahead : TerminalSet) : Kernel → Kernel
  | [] => [(item, ahead)]
  | (i, a) :: rest =>
    if item < i then (item, ahead) :: (i, a) :: rest
    else if item = i then (i, TerminalSet.union a ahead) :: rest
    else (i, a) :: Kernel.insert item ahead rest

/-- What the states of an automaton are made from. -/
structure Blueprint where
  numbered : Numbered
  firsts : Array TerminalSet
  inheriting : Array Bool
  items : Array Item
  /-- The item of the whole text. -/
  start : Nat
  /-- The corners of each definition. -/
  corners : Array (List Corner)
  /-- The first terminals of the extras that are made of several tokens, each with
      the items behind it. -/
  extraKernels : List (Nat × Kernel)

/-- The blueprint of a grammar. -/
def Blueprint.ofGrammar (g : Grammar) : Blueprint :=
  let n := Numbered.ofGrammar g
  let firsts := n.firsts
  let inheriting := n.inheriting
  let addDefinition := fun (state : Array (List Nat) × ItemPool) (d : Nat) =>
    let (starts, pool) := (n.rightSides.getD d []).foldl
      (fun (starts, pool) side =>
        let (i, pool) := ItemPool.addSide pool inheriting (some (n.ofDefinition d)) side
        (i :: starts, pool)) (([] : List Nat), state.2)
    (state.1.push starts.reverse, pool)
  let (starts, pool) := (List.range n.definitions.size).foldl addDefinition (#[], {})
  let whole : NumberedStep := { symbol := n.ofDefinition 0, label := none, role := none }
  let (start, pool) := pool.addSide inheriting none [whole]
  let corners := (Array.range n.definitions.size).map fun d =>
    let following := n.following firsts d
    (List.range n.definitions.size).flatMap fun u =>
      match following.getD u none with
      | none => []
      | some (ahead, inherits) => (starts.getD u []).map fun item => ⟨item, ahead, inherits⟩
  let extras := (List.range n.definitions.size).filter fun d =>
    g.extraDefinitions.contains ((n.definitions[d]?).elim "" (·.name))
  let extraKernels := extras.flatMap fun d => (starts.getD d []).filterMap fun i =>
    let item := pool.items.getD i default
    item.next.map fun s => (s, [(item.moved, TerminalSet.one n.extraEnd)])
  { numbered := n, firsts, inheriting, items := pool.items, start, corners, extraKernels }

namespace Blueprint

/-- What can follow each item of the state with a kernel; nothing follows the
    items that are not in it. -/
def closure (b : Blueprint) (kernel : Kernel) : Array TerminalSet :=
  kernel.foldl (fun sets (i, ahead) =>
    let item := b.items.getD i default
    let sets := sets.modify i (·.union ahead)
    match item.next.bind b.numbered.definitionIndex? with
    | none => sets
    | some d =>
      let behind := item.afterNext.elim ahead (b.firsts.getD · 0)
      (b.corners.getD d []).foldl (fun sets c =>
        sets.modify c.item fun s =>
          s.union (if c.inherits then c.ahead.union behind else c.ahead)) sets)
    (Array.replicate b.items.size 0)

/-- The kernels reached from a state over each symbol. -/
def successors (b : Blueprint) (closure : Array TerminalSet) : Array Kernel :=
  (List.range b.items.size).foldl (fun kernels i =>
    let ahead := closure.getD i 0
    if ahead == 0 then kernels
    else
      let item := b.items.getD i default
      match item.next with
      | none => kernels
      | some s => kernels.modify s (Kernel.insert item.moved ahead))
    (Array.replicate b.numbered.symbolCount [])

/-- A reduction with what decides conflicts. -/
structure Reduction where
  action : Action
  precedence : Nat
  side : Option Side
  deriving Inhabited

/-- The definition of a nonterminal. -/
def definition? (b : Blueprint) (s : Nat) : Option Definition :=
  (b.numbered.definitionIndex? s).bind (b.numbered.definitions[·]?)

/-- The reduction of a complete item. -/
def reduction (b : Blueprint) (item : Item) : Reduction :=
  match item.lhs with
  | none => ⟨.accept, 0, none⟩
  | some s =>
    let marks := item.steps.map fun step =>
      (step.label, step.role,
        if step.role.isNone && b.inheriting.getD step.symbol false then some step.symbol else none)
    let d := b.definition? s
    ⟨.reduce s item.steps.length marks, (d.map (·.precedence)).getD 0, d.bind (·.side)⟩

/-- Adds a reduction to those of a terminal: only those of the highest precedence
    stay. -/
def addReduction (r : Reduction) : List Reduction → List Reduction
  | [] => [r]
  | old :: rest =>
    if old.precedence < r.precedence then [r]
    else if r.precedence < old.precedence then old :: rest
    else old :: rest ++ [r]

/-- The reductions of a state for each terminal. -/
def reductions (b : Blueprint) (closure : Array TerminalSet) : Array (List Reduction) :=
  (List.range b.items.size).foldl (fun found i =>
    let ahead := closure.getD i 0
    let item := b.items.getD i default
    if ahead == 0 || item.next.isSome then found
    else
      let r := b.reduction item
      (List.range b.numbered.terminalCount).foldl (fun found t =>
        if ahead.has t then found.modify t (addReduction r) else found) found)
    (Array.replicate b.numbered.terminalCount [])

/-- The nonterminals that take part in a conflict over a terminal, and the
    precedences of those that would shift it. -/
def conflict (b : Blueprint) (closure : Array TerminalSet) (t : Nat) : List Nat × List Nat :=
  (List.range b.items.size).foldl (fun (parties, shifting) i =>
    let ahead := closure.getD i 0
    if ahead == 0 then (parties, shifting)
    else
      let item := b.items.getD i default
      let precedence := ((item.lhs.bind b.definition?).map (·.precedence)).getD 0
      match item.next with
      | some s =>
        if item.dot ≠ 0 && (b.firsts.getD s 0).has t then
          (item.lhs.toList ++ parties, precedence :: shifting)
        else (parties, shifting)
      | none => if ahead.has t then (item.lhs.toList ++ parties, shifting) else (parties, shifting))
    ([], [])

/-- The actions of a state for a terminal that it can both reduce on and shift. -/
def resolve (b : Blueprint) (closure : Array TerminalSet) (t target : Nat)
    (reductions : List Reduction) : List Action :=
  let (parties, shifting) := b.conflict closure t
  let reduce : List Action := reductions.map Reduction.action
  let isRepetition : Bool :=
    match parties with
    | [] => false
    | p :: rest => rest.all (· == p) && ((b.definition? p).map Definition.isRepetition).getD false
  if isRepetition then reduce ++ [.shift target true]
  else
    let level := (reductions.head?.map (·.precedence)).getD 0
    let more := shifting.any (level < ·)
    let less := shifting.any (· < level)
    let sides := reductions.filterMap (·.side)
    if more && !less then [.shift target false]
    else if less && !more then reduce
    else if !more && !less && !sides.isEmpty && sides.all (· == .left) then reduce
    else if !more && !less && !sides.isEmpty && sides.all (· == .right) then [.shift target false]
    else reduce ++ [.shift target false]

/-- The actions for extras, where a terminal has none yet. -/
def withExtras (b : Blueprint) (extraStates : List (Nat × Nat)) (state : State) : State :=
  let n := b.numbered
  let default := fun (actions : Array (List Action)) (t : Nat) (a : Action) =>
    actions.modify t fun old => if old.isEmpty then [a] else old
  let actions := extraStates.foldl (fun actions (t, s) => default actions t (.shift s false))
    state.actions
  let actions := (List.range n.terminals.size).foldl (fun actions i =>
    if n.grammar.extraTerminals.contains ((n.terminals[i]?).elim "" (·.name)) then
      default actions (Numbered.ofTerminal i) .shiftExtra
    else actions) actions
  let gotos := (List.range n.definitions.size).foldl (fun gotos d =>
    if n.grammar.extraDefinitions.contains ((n.definitions[d]?).elim "" (·.name)) then
      gotos.setIfInBounds d (some .stay)
    else gotos) state.gotos
  { actions, gotos }

/-- The state in which the parser looks for a way on: it takes extras, and skips
    everything else that it can recognise. -/
def faultState (b : Blueprint) (extraStates : List (Nat × Nat)) : State :=
  let n := b.numbered
  let bare : State :=
    { actions := Array.replicate n.terminalCount []
      gotos := Array.replicate n.definitions.size none }
  let state := b.withExtras extraStates bare
  let recognised := fun t =>
    t == Numbered.finish || n.isExternal t ||
      (n.isPatterned t && ((n.terminals[t - 1]?).map (·.inFaults)).getD false)
  { state with
    actions := state.actions.mapIdx fun t actions =>
      if actions.isEmpty && recognised t then [.recover] else actions }

end Blueprint

/-! ## Exploration -/

/-- The states found so far. -/
structure Exploration where
  kernels : Array Kernel := #[]
  /-- For each state, the number of its set of items, whatever follows them. -/
  cores : Array Nat := #[]
  byKernel : Std.HashMap Kernel Nat := {}
  byCore : Std.HashMap (List Nat) Nat := {}

/-- The number of the state with a kernel, which is added if it is new. -/
def Exploration.visit (e : Exploration) (kernel : Kernel) : Nat × Exploration :=
  match e.byKernel[kernel]? with
  | some s => (s, e)
  | none =>
    let s := e.kernels.size
    let core := kernel.map (·.1)
    let c := e.byCore.getD core e.byCore.size
    (s, { kernels := e.kernels.push kernel, cores := e.cores.push c
          byKernel := e.byKernel.insert kernel s, byCore := e.byCore.insert core c })

/-- The states of an automaton, each with the number of its set of items.  The
    first is the one for faults, the second that of an empty text. -/
structure Automaton where
  blueprint : Blueprint
  states : Array State
  cores : Array Nat

/-- The state with a kernel, and the states that it leads to. -/
def Blueprint.state (b : Blueprint) (extraStates : List (Nat × Nat)) (kernel : Kernel)
    (e : Exploration) : State × Exploration :=
  let n := b.numbered
  let closure := b.closure kernel
  let successors := b.successors closure
  let reductions := b.reductions closure
  let (actions, e) := (List.range n.terminalCount).foldl
    (fun (actions, e) t =>
      let reduce := reductions.getD t []
      match successors.getD t [] with
      | [] => (Array.push actions (reduce.map (·.action)), e)
      | next =>
        let (target, e) := Exploration.visit e next
        if reduce.isEmpty then (actions.push [.shift target false], e)
        else (actions.push (b.resolve closure t target reduce), e))
    (#[], e)
  let (gotos, e) := (List.range n.definitions.size).foldl
    (fun (gotos, e) d =>
      match successors.getD (n.ofDefinition d) [] with
      | [] => (Array.push gotos none, e)
      | next =>
        let (target, e) := Exploration.visit e next
        (gotos.push (some (Goto.state target)), e))
    (#[], e)
  let state := { actions, gotos }
  if (actions.getD n.extraEnd []).isEmpty then (b.withExtras extraStates state, e) else (state, e)

/-- The states from the one with number `states.size` on, at most `fuel` of
    them. -/
def Blueprint.explore (b : Blueprint) (extraStates : List (Nat × Nat)) :
    Nat → Array State → Exploration → Array State × Exploration
  | 0, states, e => (states, e)
  | fuel + 1, states, e =>
    match e.kernels[states.size]? with
    | none => (states, e)
    | some kernel =>
      let (state, e) := b.state extraStates kernel e
      b.explore extraStates fuel (states.push state) e

/-- A bound for the number of states. -/
def stateLimit : Nat := 100000

/-- The automaton of a grammar. -/
def Automaton.ofGrammar (g : Grammar) : Automaton :=
  let b := Blueprint.ofGrammar g
  let (_, e) := ({} : Exploration).visit []
  let (_, e) := e.visit [(b.start, TerminalSet.one Numbered.finish)]
  let (extraStates, e) := b.extraKernels.foldl
    (fun (found, e) (t, kernel) =>
      let (s, e) := Exploration.visit e kernel
      ((t, s) :: found, e)) (([] : List (Nat × Nat)), e)
  let (states, e) := b.explore extraStates stateLimit #[b.faultState extraStates] e
  ⟨b, states, e.cores⟩

end ElmAssist.Parsing
