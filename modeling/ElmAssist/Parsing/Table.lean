/-
  Parse tables.

  The automaton of a grammar has many states that differ only in what may follow
  their items.  `Table.ofGrammar` merges such states where that changes neither an
  action nor the way on, and where no terminal of one could be mistaken for a
  terminal of the other.

  In each state the lexer looks for a set of terminals.  States share their sets as
  far as the terminals do not get in each other's way, so a state may also
  recognise terminals that it has no action for.
-/
import ElmAssist.Parsing.Automaton

namespace ElmAssist.Parsing

/-! ## Terminals that get in each other's way -/

/-- How the terminals of a language get in each other's way. -/
structure Interference where
  /-- For each terminal, those that it is read in place of although they could go
      on. -/
  clashing : Array TerminalSet
  /-- For each terminal, those that can be read in its place. -/
  hiddenBy : Array TerminalSet
  /-- For each terminal, those that may not be looked for with it unless both are
      expected. -/
  apart : Array TerminalSet

/-- Whether the text of one terminal is longer and starts with that of another. -/
def Terminal.extends (a b : Terminal) : Bool :=
  match a.text, b.text with
  | some s, some t => t.length < s.length && t.toList.isPrefixOf s.toList
  | _, _ => false

/-- Whether the first terminal is read where the second could go on. -/
def Grammar.clash (g : Grammar) (a b : Terminal) : Bool :=
  g.clashes.contains (a.name, b.name) ||
    (g.greedy.contains a.name && !g.greedy.contains b.name)

/-- Whether the first terminal, or a start of it, can be read in place of the
    second; `word` is the terminal that keywords look like. -/
def Grammar.overlap (g : Grammar) (word : String) (a b : Terminal) : Bool :=
  g.clash a b || a.extends b || (a.isKeyword && b.name == word) || (b.isKeyword && a.name == word)

/-- The terminals that are expected together with each one in some state other
    than the one for faults. -/
def Automaton.together (a : Automaton) : Array TerminalSet :=
  let count := a.blueprint.numbered.terminalCount
  let empty := Array.replicate count (0 : TerminalSet)
  (a.states.toList.drop 1).foldl (fun sets state =>
    let expected := (List.range count).filter fun t => !(state.actions.getD t []).isEmpty
    let set := TerminalSet.ofList expected
    expected.foldl (fun sets t => sets.modify t (·.union set)) sets) empty

/-- The relation of terminals given by a test, as one set for each terminal. -/
def Numbered.relation (n : Numbered) (test : Terminal → Terminal → Bool) : Array TerminalSet :=
  (Array.range n.terminalCount).map fun s =>
    match if s = 0 then none else n.terminals[s - 1]? with
    | none => 0
    | some a => TerminalSet.ofList ((List.range n.terminals.size).filterMap fun i =>
        if s ≠ Numbered.ofTerminal i && ((n.terminals[i]?).map (test a)).getD false then
          some (Numbered.ofTerminal i)
        else none)

/-- How the terminals of an automaton get in each other's way. -/
def Interference.ofAutomaton (a : Automaton) : Interference :=
  let n := a.blueprint.numbered
  let word := (n.terminals[0]?).elim "" (·.name)
  let together := a.together
  let overlapping := n.relation (n.grammar.overlap word)
  let hiddenBy := n.relation fun s t => n.grammar.overlap word t s
  let clashing := n.relation n.grammar.clash
  let apart := (Array.range n.terminalCount).map fun t =>
    let either := TerminalSet.union (overlapping.getD t 0) (hiddenBy.getD t 0)
    TerminalSet.union (clashing.getD t 0) (TerminalSet.ofList
      ((List.range n.terminalCount).filter fun s =>
        either.has s && !(together.getD t 0).has s))
  { clashing, hiddenBy, apart }

/-! ## Merging states -/

/-- The states of an automaton in groups. -/
structure Partition where
  groups : Array (List Nat)
  /-- The group of each state. -/
  groupOf : Array Nat

/-- Divides a group: the states that do not differ from an earlier one that stays,
    and the others. -/
def divide (differ : Nat → Nat → Bool) : List Nat → List Nat × List Nat
  | [] => ([], [])
  | s :: rest =>
    let away := rest.filter (differ s)
    let (stay, others) := divide differ (rest.filter fun t => !differ s t)
    (s :: stay, away ++ others)
termination_by states => states.length
decreasing_by
  rw [List.length_unattach, List.length_cons]
  exact Nat.lt_succ_of_le (Nat.le_trans (List.length_filter_le ..) (by simp))

/-- Divides the group with a number, and puts the states that leave it into a new
    one. -/
def Partition.divideAt (p : Partition) (differ : Partition → Nat → Nat → Bool) (g : Nat) :
    Partition :=
  match divide (differ p) (p.groups.getD g []) with
  | (_, []) => p
  | (stay, others) =>
    { groups := (p.groups.setIfInBounds g stay).push others
      groupOf := others.foldl (fun groupOf s => groupOf.setIfInBounds s p.groups.size) p.groupOf }

/-- Divides the groups from the one with number `g` on, new ones included, at most
    `fuel` of them. -/
def Partition.divideFrom (differ : Partition → Nat → Nat → Bool) :
    Nat → Nat → Partition → Partition
  | 0, _, p => p
  | fuel + 1, g, p =>
    if p.groups.size ≤ g then p
    else Partition.divideFrom differ fuel (g + 1) (p.divideAt differ g)

/-- Divides groups until nothing changes. -/
def Partition.refine (differ : Partition → Nat → Nat → Bool) : Nat → Partition → Partition
  | 0, p => p
  | fuel + 1, p =>
    let q := p.divideFrom differ fuel 0
    if q.groups.size == p.groups.size then p else q.refine differ fuel

namespace Automaton

/-- The state with a number. -/
def stateAt (a : Automaton) (s : Nat) : State :=
  a.states.getD s default

/-- The states in groups of one set of items each. -/
def byCore (a : Automaton) : Partition :=
  let count := a.cores.foldl (fun n c => max n (c + 1)) 0
  let groups := (List.range a.states.size).foldl (fun groups s =>
    groups.modify (a.cores.getD s 0) (s :: ·)) (Array.replicate count [])
  ⟨groups.map (·.reverse), a.cores⟩

/-- Whether two actions are the same, up to the states of a group. -/
def sameAction (p : Partition) : Action → Action → Bool
  | .shift s r, .shift t r' => p.groupOf.getD s 0 == p.groupOf.getD t 0 && r == r'
  | x, y => x == y

/-- Whether a terminal that one state expects keeps it apart from a state that
    expects other ones. -/
def keepsApart (a : Automaton) (i : Interference) (expected : TerminalSet) (t : Nat) : Bool :=
  let n := a.blueprint.numbered
  t == n.extraEnd || n.isExternal t || (i.clashing.getD t 0).meets expected

/-- Whether two states act differently; `expected` gives the terminals that each
    state expects. -/
def actDifferently (a : Automaton) (i : Interference) (expected : Array TerminalSet)
    (p : Partition) (s t : Nat) : Bool :=
  let left := (a.stateAt s).actions
  let right := (a.stateAt t).actions
  (List.range a.blueprint.numbered.terminalCount).any fun terminal =>
    match left.getD terminal [], right.getD terminal [] with
    | [], [] => false
    | _, [] => a.keepsApart i (expected.getD t 0) terminal
    | [], _ => a.keepsApart i (expected.getD s 0) terminal
    | xs, ys => xs.length != ys.length || (xs.zip ys).any fun (x, y) => !sameAction p x y

/-- The state that a list of actions shifts to. -/
def shiftTarget? (actions : List Action) : Option Nat :=
  match actions.getLast? with
  | some (.shift s _) => some s
  | _ => none

/-- Whether two states lead to different groups. -/
def leadApart (a : Automaton) (p : Partition) (s t : Nat) : Bool :=
  let left := a.stateAt s
  let right := a.stateAt t
  let groupOf := fun s => p.groupOf.getD s 0
  (List.range a.blueprint.numbered.terminalCount).any (fun terminal =>
    match shiftTarget? (left.actions.getD terminal []),
      shiftTarget? (right.actions.getD terminal []) with
    | some x, some y => groupOf x != groupOf y
    | _, _ => false) ||
  (List.range a.blueprint.numbered.definitions.size).any fun d =>
    match left.gotos.getD d none, right.gotos.getD d none with
    | some (.state x), some (.state y) => groupOf x != groupOf y
    | some x, some y => x != y
    | _, _ => false

/-- The states in groups that can be merged. -/
def mergeable (a : Automaton) (i : Interference) : Partition :=
  let expected := a.states.map fun state => TerminalSet.ofList
    ((List.range a.blueprint.numbered.terminalCount).filter fun t =>
      !(state.actions.getD t []).isEmpty)
  let fuel := a.states.size + 1
  (a.byCore.divideFrom (a.actDifferently i expected) fuel 0).refine a.leadApart fuel

/-- An action with groups in place of states. -/
def groupAction (p : Partition) : Action → Action
  | .shift s r => .shift (p.groupOf.getD s 0) r
  | x => x

/-- A way on with groups in place of states. -/
def groupGoto (p : Partition) : Goto → Goto
  | .state s => .state (p.groupOf.getD s 0)
  | .stay => .stay

/-- The state that a group is merged to. -/
def merged (a : Automaton) (p : Partition) (group : List Nat) : State :=
  let states := group.map a.stateAt
  { actions := (Array.range a.blueprint.numbered.terminalCount).map fun t =>
      ((states.find? fun s => !(s.actions.getD t []).isEmpty).elim [] (·.actions.getD t [])).map
        (groupAction p)
    gotos := (Array.range a.blueprint.numbered.definitions.size).map fun d =>
      (states.findSome? (·.gotos.getD d none)).map (groupGoto p) }

end Automaton

/-! ## What the lexer looks for -/

/-- The number of entries of a state. -/
def State.entries (s : State) : Nat :=
  s.actions.foldl (fun n a => if a.isEmpty then n else n + 1) 0 +
    s.gotos.foldl (fun n g => if g.isSome then n + 1 else n) 0

/-- The terminals that the lexer looks for in a state: those with an action, the
    word for all keywords, and their companions. -/
def Numbered.wanted (n : Numbered) (state : State) (isFault : Bool) : TerminalSet :=
  let expected := (List.range n.terminalCount).filter fun t => !(state.actions.getD t []).isEmpty
  let companion := fun (t : Terminal) =>
    if isFault then [] else
      (n.grammar.companions.filter (·.1 == t.name)).flatMap fun (_, name) =>
        (n.terminals.findIdx? (·.name == name)).toList.map Numbered.ofTerminal
  TerminalSet.ofList (expected.flatMap fun t =>
    if t == Numbered.finish then [t]
    else if n.isPatterned t then
      match n.terminals[t - 1]? with
      | none => []
      | some terminal =>
        if terminal.isKeyword then [Numbered.ofTerminal 0] else t :: companion terminal
    else [])

/-- Whether all terminals of two sets can be looked for at once. -/
def Interference.compatible (i : Interference) (s t : TerminalSet) : Bool :=
  let alone := fun (s t : TerminalSet) (x : Nat) =>
    s.has x && !t.has x && (i.apart.getD x 0).meets t
  !(List.range i.apart.size).any fun x => alone s t x || alone t s x

/-- Puts a set into the first of some sets that it is compatible with, and returns
    which one. -/
def Interference.place (i : Interference) (sets : Array TerminalSet) (set : TerminalSet) :
    Nat × Array TerminalSet :=
  match sets.findIdx? (i.compatible · set) with
  | some k => (k, sets.modify k (·.union set))
  | none => (sets.size, sets.push set)

/-- The set that the lexer looks for in each state.  The largest states, behind
    the first two, choose first. -/
def lexSets (n : Numbered) (i : Interference) (states : Array State) : Array TerminalSet :=
  let size := fun s => (states.getD s default).entries
  let rest := ((List.range states.size).drop 2).mergeSort fun s t => size t ≤ size s
  let (sets, choice) := (((List.range states.size).take 2) ++ rest).foldl
    (fun (sets, choice) s =>
      let (k, sets) := i.place sets (n.wanted (states.getD s default) (s == 0))
      (sets, Array.setIfInBounds choice s k))
    ((#[] : Array TerminalSet), Array.replicate states.size 0)
  choice.map (sets.getD · 0)

/-! ## Tables -/

/-- A state of a parse table. -/
structure TableState where
  actions : Array (List Action)
  gotos : Array (Option Goto)
  /-- The terminals that have an action. -/
  expected : TerminalSet
  /-- The terminals that the lexer looks for; `none` behind an extra, where it
      need not look. -/
  lexing : Option TerminalSet
  /-- The externals that have an action. -/
  externals : TerminalSet
  deriving Inhabited

/-- A parse table. -/
structure Table where
  numbered : Numbered
  /-- Whether each symbol is seen in syntax trees. -/
  visible : Array Bool
  interference : Interference
  states : Array TableState

/-- The parse table of a grammar. -/
def Table.ofGrammar (g : Grammar) : Table :=
  let a := Automaton.ofGrammar g
  let n := a.blueprint.numbered
  let i := Interference.ofAutomaton a
  let p := a.mergeable i
  let states := p.groups.map (a.merged p)
  let lexing := lexSets n i states
  { numbered := n
    visible := (Array.range n.symbolCount).map fun s => (n.appearance s).isVisible
    interference := i
    states := states.mapIdx fun s state =>
      let expected := (List.range n.terminalCount).filter fun t =>
        !(state.actions.getD t []).isEmpty
      { actions := state.actions
        gotos := state.gotos
        expected := .ofList expected
        lexing := if (state.actions.getD n.extraEnd []).isEmpty then some (lexing.getD s 0) else none
        externals := .ofList (expected.filter n.isExternal) } }

namespace Table

/-- The state in which the parser looks for a way on. -/
def faultState : Nat := 0

/-- The state in front of a text. -/
def startState : Nat := 1

/-- The state with a number. -/
def state (t : Table) (s : Nat) : TableState :=
  t.states.getD s default

/-- The actions for a terminal in a state. -/
def actions (t : Table) (s terminal : Nat) : List Action :=
  (t.state s).actions.getD terminal []

/-- The state behind a symbol; the one for faults if there is no way on. -/
def next (t : Table) (s symbol : Nat) : Nat :=
  match t.numbered.definitionIndex? symbol with
  | none =>
    match (t.actions s symbol).getLast? with
    | some (.shift s' _) => s'
    | some .shiftExtra => s
    | _ => faultState
  | some d =>
    match (t.state s).gotos.getD d none with
    | some (.state s') => s'
    | some .stay => s
    | none => faultState

/-- Whether a state reduces on a terminal; behind an extra it need not be
    known. -/
def reducesOn (t : Table) (s terminal : Nat) : Bool :=
  let isReduction := fun (a : Action) => match a with
    | .reduce .. => true
    | _ => false
  let found := t.actions s terminal
  let found :=
    if found.isEmpty && terminal == Numbered.finish then t.actions s t.numbered.extraEnd else found
  found.any isReduction

/-- Whether a terminal that has been read elsewhere would be read in a state too,
    because nothing that is expected there can be read in its place. -/
def isReusable (t : Table) (s terminal : Nat) : Bool :=
  !((t.interference.hiddenBy.getD terminal 0).meets (t.state s).expected)

end Table

end ElmAssist.Parsing
