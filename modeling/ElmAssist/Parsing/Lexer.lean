/-
  The lexer of the parser.

  Which terminals are looked for depends on the state of the parser.  A `Thread`
  follows one of them through the text; the longest text that a thread completes is
  the token, and of several that complete it, the one of highest rank.  Externals
  are recognised by a function of the language and go first.

  Where nothing that is expected is found, the lexer looks for any terminal, and
  skips text until there is one.
-/
import ElmAssist.Parsing.ParseTree

namespace ElmAssist.Parsing

/-! ## Threads -/

/-- A terminal that is being read. -/
structure Thread where
  terminal : Nat
  rank : Nat
  priority : Nat
  /-- What is left to read. -/
  rest : Pattern

/-- The thread behind a character, if the terminal can go on with it. -/
def Thread.behind? (c : Char) (t : Thread) : Option Thread :=
  let rest := t.rest.behind c
  if rest.isNothing then none else some { t with rest }

/-- The terminals that may be read at a position. -/
structure Threads where
  /-- The blanks that may still come. -/
  lead : Pattern
  /-- The terminals in front of which blanks may come. -/
  waiting : List Thread
  /-- The terminals for which there are no blanks any more. -/
  active : List Thread

/-- No terminals. -/
instance : Inhabited Threads :=
  ⟨⟨.nothing, [], []⟩⟩

/-- The threads for a set of terminals. -/
def Numbered.threads (n : Numbered) (set : TerminalSet) : Threads :=
  let chosen := (List.range n.terminals.size).filterMap fun i =>
    if set.has (Numbered.ofTerminal i) then
      (n.terminals[i]?).map fun t =>
        (t.attached, (⟨Numbered.ofTerminal i, t.rank, t.priority, t.pattern⟩ : Thread))
    else none
  let (attached, others) := chosen.partition (·.1)
  { lead := if others.isEmpty then .nothing else .repeated n.grammar.blank
    waiting := others.map (·.2)
    active := attached.map (·.2) }

namespace Threads

/-- Whether blanks may come. -/
def inLead (t : Threads) : Bool :=
  !t.lead.isNothing

/-- Whether nothing can be read. -/
def isEmpty (t : Threads) : Bool :=
  t.active.isEmpty && !t.inLead

/-- The threads behind a character. -/
def behind (c : Char) (t : Threads) : Threads :=
  let started := if t.lead.matchesEmpty then t.waiting.filterMap (·.behind? c) else []
  { t with lead := t.lead.behind c, active := t.active.filterMap (·.behind? c) ++ started }

/-- Whether a terminal is being read, or may be behind blanks. -/
def reads (t : Threads) (terminal : Nat) : Bool :=
  t.active.any (·.terminal == terminal) || (t.inLead && t.waiting.any (·.terminal == terminal))

/-- The highest priority of a terminal that is being read. -/
def priority (t : Threads) : Nat :=
  t.active.foldl (fun p u => max p u.priority) 0

/-- The terminal of highest rank that is complete; the first among equals. -/
def completed (t : Threads) : Option Thread :=
  t.active.foldl (fun best u =>
    if u.rest.matchesEmpty then
      match best with
      | none => some u
      | some b =>
        if b.rank < u.rank || (b.rank == u.rank && u.terminal < b.terminal) then some u else best
    else best) none

/-- Whether reading goes on over a character although a terminal is complete;
    `next` are the threads behind the character. -/
def goesOn (t next : Threads) (complete : Thread) : Bool :=
  complete.priority < next.priority ||
    (next.priority == complete.priority && !next.active.isEmpty &&
      (!t.inLead || next.reads complete.terminal))

end Threads

/-- What the lexer finds at a position. -/
structure Found where
  /-- The terminal and where it stops. -/
  token : Option (Nat × Nat)
  /-- Where the token starts, behind the blanks. -/
  start : Nat
  /-- Where reading stopped. -/
  reached : Nat

/-- Reads on with some threads.  `atFinish` tells whether the end of the text would
    be a token here, and `best` is the longest token so far. -/
def follow (source : Source) :
    Nat → Threads → (atFinish : Bool) → (position start : Nat) → (best : Option (Nat × Nat)) →
      Found
  | 0, _, _, position, start, best => ⟨best, start, position⟩
  | fuel + 1, threads, atFinish, position, start, best =>
    let complete := threads.completed
    let best := (complete.map fun t => (t.terminal, position)).or best
    if source.isEnd position then
      if atFinish then ⟨some (Numbered.finish, position), start, position⟩
      else ⟨best, start, position⟩
    else
      let c := source.peek position
      let next := threads.behind c
      if c == '\x00' || next.isEmpty || !complete.all (threads.goesOn next) then
        ⟨best, start, position⟩
      else
        let isBlank := next.active.isEmpty
        follow source fuel next (atFinish && isBlank) (position + 1)
          (if isBlank then position + 1 else start) best

/-! ## Languages -/

/-- An external that has been recognised. -/
structure Scanned (σ : Type) where
  /-- The index of the external. -/
  external : Nat
  start : Nat
  stop : Nat
  /-- The layout behind it. -/
  layout : σ

/-- What is needed to parse a language; `σ` describes the layout of a text up to a
    position. -/
structure Parser (σ : Type) where
  table : Table
  /-- The threads for the lexer in each state. -/
  threads : Array Threads
  /-- The keywords with their numbers. -/
  keywords : List (List Char × Nat)
  /-- The layout in front of a text. -/
  initial : σ
  /-- Recognises one of the externals that `valid` allows at a position.  The
      number that is given and returned is carried from call to call. -/
  scan : Source → Nat → σ → (valid : Nat → Bool) → Nat → Option (Scanned σ) × Nat

/-- The parser of a grammar with a function for its externals. -/
def Parser.ofGrammar {σ : Type} (g : Grammar) (initial : σ)
    (scan : Source → Nat → σ → (Nat → Bool) → Nat → Option (Scanned σ) × Nat) : Parser σ :=
  let table := Table.ofGrammar g
  let n := table.numbered
  let distinct := table.states.foldl (fun (sets : List TerminalSet) s =>
    match s.lexing with
    | some set => if sets.contains set then sets else set :: sets
    | none => sets) []
  let threads := distinct.map fun set => (set, n.threads set)
  { table
    threads := table.states.map fun s =>
      ((s.lexing.bind fun set => List.lookup set threads).getD default)
    keywords := (List.range n.terminals.size).filterMap fun i =>
      (n.terminals[i]?).bind fun t =>
        if t.isKeyword then t.text.map fun text => (text.toList, Numbered.ofTerminal i) else none
    initial
    scan }

/-! ## Lookahead -/

/-- A token in front of the parser. -/
structure Lookahead (σ : Type) where
  tree : ParseTree σ
  /-- Whether it starts like a keyword. -/
  keyword : Bool := false
  /-- The state in which it was read. -/
  state : Nat
  /-- Whether the layout behind it differs from the one in front. -/
  changed : Bool := false

/-- The number of the symbol of a token; `none` for a stretch that is no token. -/
def Lookahead.symbol? {σ : Type} (l : Lookahead σ) : Option Nat :=
  match l.tree.info.symbol with
  | .of s => some s
  | _ => none

/-- The terminal of which keywords are special cases. -/
def wordTerminal : Nat := Numbered.ofTerminal 0

namespace Parser

variable {σ : Type} [BEq σ] (L : Parser σ) (source : Source)

/-- The terminals found at a position by the threads of a state.  A byte order
    mark at the start of a text is passed over. -/
def find (state position : Nat) : Found :=
  let position :=
    if position == 0 && (source.peek 0).toNat == 0xFEFF then 1 else position
  let atFinish := ((L.table.state state).lexing.map (·.has Numbered.finish)).getD false
  follow source (source.size + 1 - position) (L.threads.getD state default) atFinish position
    position none

/-- The token with a terminal that has been found; a word becomes a keyword where
    the state takes one. -/
def token (state lead : Nat) (found : Found) (terminal stop : Nat) : Lookahead σ :=
  let leaf := fun t => ParseTree.leaf (.of t) lead found.start stop
  if terminal == wordTerminal then
    let word := (source.chars.extract found.start stop).toList
    let taken := L.keywords.find? fun (text, t) =>
      text == word && !(L.table.actions state t).isEmpty
    { tree := leaf ((taken.map (·.2)).getD terminal)
      keyword := L.keywords.any fun (text, _) => text.isPrefixOf word
      state }
  else { tree := leaf terminal, state }

/-- Recognises an external in a state.  One that takes no text and leaves the
    layout alone counts only if the parser gets on with it; `mayRepeat` tells
    whether it may be seen at all. -/
def external (state expecting : Nat) (memory lead position : Nat) (layout : σ)
    (mayRepeat : Unit → Bool) : Option (Lookahead σ) × Nat :=
  let valid := (L.table.state expecting).externals
  if valid == 0 then (none, memory)
  else
    let n := L.table.numbered
    match L.scan source memory layout (fun i => valid.has (n.ofExternal i)) position with
    | (none, memory) => (none, memory)
    | (some found, memory) =>
      let symbol := n.ofExternal found.external
      let changed := found.layout != layout
      let counts := position < found.stop || changed ||
        (mayRepeat () && L.table.next state symbol != state)
      if counts then
        let info : TreeInfo σ :=
          { symbol := .of symbol, lead, start := min found.start found.stop, stop := found.stop
            layout := some found.layout }
        (some { tree := .mk info [], state, changed }, memory)
      else (none, memory)

/-- Looks for any terminal from a position on.  `skipped` is the stretch that has
    been passed over. -/
def anyToken (state lead : Nat) (layout : σ) :
    Nat → Nat → Nat → Option (Nat × Nat) → Lookahead σ × Nat
  | 0, memory, position, skipped =>
    let (start, stop) := skipped.getD (position, position)
    ({ tree := .leaf .fault lead start stop, state }, memory)
  | fuel + 1, memory, position, skipped =>
    let passedOver := fun (start, stop) => ParseTree.leaf TreeSymbol.fault lead start stop
    match L.external source state Table.faultState memory lead position layout (fun _ => false) with
    | (some found, memory) =>
      match skipped with
      | some stretch => ({ tree := passedOver stretch, state }, memory)
      | none => (found, memory)
    | (none, memory) =>
      let found := L.find source Table.faultState position
      match found.token, skipped with
      | some (terminal, stop), none => (L.token source state lead found terminal stop, memory)
      | some _, some stretch => ({ tree := passedOver stretch, state }, memory)
      | none, _ =>
        let (start, stop) := skipped.getD (found.start, found.start)
        if found.reached != stop then
          anyToken state lead layout fuel memory found.reached (some (start, found.reached))
        else if source.isEnd stop then ({ tree := passedOver (start, stop), state }, memory)
        else anyToken state lead layout fuel memory (stop + 1) (some (start, stop + 1))

/-- The token in front of the parser in a state, or nothing behind an extra, where
    the parser need not look. -/
def lookahead (state position : Nat) (layout : σ) (memory : Nat) (mayRepeat : Unit → Bool) :
    Option (Lookahead σ) × Nat :=
  if (L.table.state state).lexing.isNone then (none, memory)
  else
    let any := fun memory =>
      let (found, memory) :=
        L.anyToken source state position layout (2 * source.size + 2) memory position none
      (some found, memory)
    if state == Table.faultState then any memory
    else
      match L.external source state state memory position position layout mayRepeat with
      | (some found, memory) => (some found, memory)
      | (none, memory) =>
        let found := L.find source state position
        match found.token with
        | some (terminal, stop) =>
          (some (L.token source state position found terminal stop), memory)
        | none => any memory

end Parser

end ElmAssist.Parsing
