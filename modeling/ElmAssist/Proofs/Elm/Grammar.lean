/-
  A grammar of plainly written modules.

  `Derives text tree` says which syntax tree a module has that is written without faults: a
  header, imports and declarations without nesting.  Each of these items starts in the first
  column and is continued by indented lines; comments stand in front of items, in lines of their
  own.

  * An item is a list of words with blanks in front of them.  Words touch only where one of them
    is a bracket or a comma (`Spelled`).
  * `Header`, `ImportClause` and `Declaration` are the rules for items.
  * `FollowsGrammar` says of a parser that it parses what the grammar derives.
-/
import ElmAssist.Proofs.Elm.Canonical

namespace ElmAssist.Elm.Grammar

open Canonical (LowerName UpperName DottedName)

/-! ## Words -/

/-- A word with a meaning of its own. -/
inductive Keyword where
  | «module»
  | «exposing»
  | «import»
  | «as»
  | «type»
  | «alias»

def Keyword.text : Keyword → String
  | «module» => "module"
  | «exposing» => "exposing"
  | «import» => "import"
  | «as» => "as"
  | «type» => "type"
  | «alias» => "alias"

/-- A punctuation mark. -/
inductive Mark where
  | opening
  | closing
  | comma
  | dots
  | equals
  | colon
  | bar
  | arrow

def Mark.text : Mark → String
  | opening => "("
  | closing => ")"
  | comma => ","
  | dots => ".."
  | equals => "="
  | colon => ":"
  | bar => "|"
  | arrow => "->"

/-- A natural number. -/
structure Number where
  digits : List Char
  isSome : digits ≠ []
  isNumber : ∀ c ∈ digits, c.isDigit = true

/-- A word of a module. -/
inductive Word where
  | keyword (w : Keyword)
  | mark (m : Mark)
  | lower (name : LowerName)
  | upper (name : DottedName)
  | number (n : Number)

def Word.chars : Word → List Char
  | keyword w => w.text.toList
  | mark m => m.text.toList
  | lower name => name.chars
  | upper name => name.chars
  | number n => n.digits

/-- Whether a word may touch all others. -/
def Word.IsBracket : Word → Prop
  | mark .opening | mark .closing | mark .comma => True
  | _ => False

/-! ## Blanks -/

/-- Spaces and line feeds. -/
def IsBlank (cs : List Char) : Prop :=
  ∀ c ∈ cs, c = ' ' ∨ c = '\n'

/-- Blanks behind which a line goes on. -/
structure IsGap (cs : List Char) : Prop where
  isBlank : IsBlank cs
  stays : cs.getLast? ≠ some '\n'

/-- Blanks behind which a line starts. -/
structure IsBreak (cs : List Char) : Prop where
  isBlank : IsBlank cs
  ends : cs.getLast? = some '\n'

/-! ## Items -/

/-- A word with the blanks in front of it. -/
structure Spaced where
  gap : List Char
  word : Word

def Spaced.chars (s : Spaced) : List Char :=
  s.gap ++ s.word.chars

/-- The text of some words, without the blanks in front of the first. -/
def textOf : List Spaced → List Char
  | [] => []
  | s :: rest => s.word.chars ++ rest.flatMap Spaced.chars

/-- Words behind another one: only brackets and commas touch their neighbours. -/
inductive Spelled : Word → List Spaced → Prop
  | nil (w : Word) : Spelled w []
  | cons {w : Word} {s : Spaced} {rest : List Spaced} (gap : IsGap s.gap)
      (touch : s.gap = [] → w.IsBracket ∨ s.word.IsBracket) (more : Spelled s.word rest) :
      Spelled w (s :: rest)

theorem Spelled.append {w : Word} {ws us : List Spaced} (h : Spelled w ws)
    (h' : ∀ v, Spelled v us) : Spelled w (ws ++ us) := by
  induction h with
  | nil w => exact h' w
  | cons gap touch _ ih => exact .cons gap touch ih

theorem Spelled.flatMap {β : Type} {words : β → List Spaced} (h : ∀ x v, Spelled v (words x))
    (xs : List β) (v : Word) : Spelled v (xs.flatMap words) := by
  induction xs generalizing v with
  | nil => exact .nil v
  | cons x xs ih => exact (h x v).append ih

/-- The words from the first column on. -/
structure Item where
  head : Word
  tail : List Spaced

def Item.chars (i : Item) : List Char :=
  i.head.chars ++ i.tail.flatMap Spaced.chars

/-! ## Rules -/

/-- One thing or more, with marks between them. -/
inductive Separated {α : Type} (m : Mark) (P : List Spaced → α → Prop) :
    List Spaced → List α → Prop
  | single {ws : List Spaced} {a : α} : P ws a → Separated m P ws [a]
  | cons {ws rest : List Spaced} {a : α} {others : List α} (gap : List Char) : P ws a →
      Separated m P rest others → Separated m P (ws ++ ⟨gap, .mark m⟩ :: rest) (a :: others)

/-- Things with the same gap in front of all marks. -/
theorem Separated.list {α β : Type} {m : Mark} {P : List Spaced → α → Prop} (gap : List Char)
    {words : β → List Spaced} {val : β → α} (h : ∀ x, P (words x) (val x)) {ws : List Spaced}
    {a : α} (ha : P ws a) (xs : List β) :
    Separated m P (ws ++ xs.flatMap fun x => ⟨gap, .mark m⟩ :: words x) (a :: xs.map val) := by
  induction xs generalizing ws a with
  | nil => exact (List.append_nil ws).symm ▸ .single ha
  | cons x xs ih => exact .cons gap ha (ih (h x))

/-- An entry of an exposing list: a value, or a type with `(..)` or without it. -/
inductive ExposedEntry : List Spaced → ExposedNode → Prop
  | value (gap : List Char) (name : LowerName) :
      ExposedEntry [⟨gap, .lower name⟩] (.value name.text)
  | type (gap : List Char) (name : UpperName) :
      ExposedEntry [⟨gap, .upper ⟨name, []⟩⟩] (.type (some name.text) false)
  | constructors (gap₁ gap₂ gap₃ gap₄ : List Char) (name : UpperName) :
      ExposedEntry [⟨gap₁, .upper ⟨name, []⟩⟩, ⟨gap₂, .mark .opening⟩, ⟨gap₃, .mark .dots⟩,
        ⟨gap₄, .mark .closing⟩] (.type (some name.text) true)

/-- `exposing`, and `(..)` or some entries in brackets. -/
inductive ExposingList : List Spaced → List ExposedNode → Prop
  | everything (gap₁ gap₂ gap₃ gap₄ : List Char) :
      ExposingList [⟨gap₁, .keyword .exposing⟩, ⟨gap₂, .mark .opening⟩, ⟨gap₃, .mark .dots⟩,
        ⟨gap₄, .mark .closing⟩] [.everything]
  | entries (gap₁ gap₂ gap₃ : List Char) {ws : List Spaced} {nodes : List ExposedNode} :
      Separated .comma ExposedEntry ws nodes →
      ExposingList (⟨gap₁, .keyword .exposing⟩ :: ⟨gap₂, .mark .opening⟩ ::
        (ws ++ [⟨gap₃, .mark .closing⟩])) nodes

/-- `module`, a name and an exposing list, at the very start of a text. -/
inductive Header : Item → Node → Prop
  | mk (gap : List Char) (name : DottedName) {ws : List Spaced} {nodes : List ExposedNode} :
      ExposingList ws nodes →
      Header ⟨.keyword .module, ⟨gap, .upper name⟩ :: ws⟩
        (.header {} false (some name.text) (some nodes))

/-- The short name that an import introduces, or nothing. -/
inductive ShortName : List Spaced → Option String → Prop
  | none : ShortName [] none
  | some (gap₁ gap₂ : List Char) (name : UpperName) :
      ShortName [⟨gap₁, .keyword .as⟩, ⟨gap₂, .upper ⟨name, []⟩⟩] (some name.text)

/-- The exposing list of an import, or nothing. -/
inductive Imported : List Spaced → Option (List ExposedNode) → Prop
  | none : Imported [] none
  | some {ws : List Spaced} {nodes : List ExposedNode} :
      ExposingList ws nodes → Imported ws (some nodes)

/-- `import` and a name, which may be followed by a short name and an exposing list. -/
inductive ImportClause : Item → Node → Prop
  | mk (gap : List Char) (name : DottedName) {ws us : List Spaced} {short : Option String}
      {nodes : Option (List ExposedNode)} : ShortName ws short → Imported us nodes →
      ImportClause ⟨.keyword .import, ⟨gap, .upper name⟩ :: (ws ++ us)⟩
        (.importClause false (some name.text) short nodes)

/-- A part of a type: its name. -/
inductive TypeTerm : List Spaced → Unit → Prop
  | name (gap : List Char) (name : DottedName) : TypeTerm [⟨gap, .upper name⟩] ()

/-- A variant of a custom type: its constructor. -/
inductive Variant : List Spaced → Option String → Prop
  | name (gap : List Char) (name : UpperName) :
      Variant [⟨gap, .upper ⟨name, []⟩⟩] (some name.text)

/-- The declarations.  An annotation has the text of its type. -/
inductive Declaration : Item → Node → Prop
  | signature (gap : List Char) (name : LowerName) {ws : List Spaced} {parts : List Unit} :
      Separated .arrow TypeTerm ws parts →
      Declaration ⟨.lower name, ⟨gap, .mark .colon⟩ :: ws⟩
        (.signature false (some name.text) (some (String.ofList (textOf ws))))
  | constant (gap₁ gap₂ : List Char) (name : LowerName) (n : Number) :
      Declaration ⟨.lower name, [⟨gap₁, .mark .equals⟩, ⟨gap₂, .number n⟩]⟩
        (.value false (some name.text))
  | customType (gap₁ gap₂ : List Char) (name : UpperName) {ws : List Spaced}
      {variants : List (Option String)} : Separated .bar Variant ws variants →
      Declaration ⟨.keyword .type, ⟨gap₁, .upper ⟨name, []⟩⟩ :: ⟨gap₂, .mark .equals⟩ :: ws⟩
        (.customType false (some name.text) variants)
  | typeAlias (gap₁ gap₂ gap₃ : List Char) (name : UpperName) {ws : List Spaced}
      {parts : List Unit} : Separated .arrow TypeTerm ws parts →
      Declaration ⟨.keyword .type, ⟨gap₁, .keyword .alias⟩ :: ⟨gap₂, .upper ⟨name, []⟩⟩ ::
        ⟨gap₃, .mark .equals⟩ :: ws⟩ (.typeAlias false (some name.text))

/-! ## Comments -/

/-- What stands in a comment between its signs: no other comment opens or closes in it, and it
    has no NUL, which would end the text. -/
structure CommentBody where
  chars : List Char
  opensNone : ¬ ['\x7b', '-'] <:+: chars
  opensNoneAtEnd : chars.getLast? ≠ some '\x7b'
  closesNone : ¬ ['-', '\x7d'] <:+: chars
  hasNoNul : ∀ c ∈ chars, c.toNat ≠ 0

/-- A comment with its signs. -/
def CommentBody.written (body : CommentBody) : List Char :=
  '\x7b' :: '-' :: (body.chars ++ ['-', '\x7d'])

def CommentBody.comment (body : CommentBody) : Comment :=
  ⟨true, String.ofList body.written⟩

/-- What stands in front of an item: blanks, and comments in lines of their own. -/
inductive Front : List Char → List Comment → Prop
  | blanks {cs : List Char} : IsBreak cs → Front cs []
  | comment {cs rest : List Char} {comments : List Comment} (body : CommentBody) : IsBreak cs →
      rest.head? = some '\n' → Front rest comments →
      Front (cs ++ body.written ++ rest) (body.comment :: comments)

/-! ## Modules -/

/-- Items one after the other. -/
inductive Items (P : Item → Node → Prop) : List Char → List Node → Prop
  | nil : Items P [] []
  | cons {front rest : List Char} {comments : List Comment} {item : Item} {node : Node}
      {nodes : List Node} : Front front comments → P item node → Spelled item.head item.tail →
      Items P rest nodes →
      Items P (front ++ item.chars ++ rest) (comments.map Node.comment ++ node :: nodes)

theorem Items.single {P : Item → Node → Prop} {front : List Char} {comments : List Comment}
    {item : Item} {node : Node} (hfront : Front front comments) (hitem : P item node)
    (hspelled : Spelled item.head item.tail) :
    Items P (front ++ item.chars) (comments.map Node.comment ++ [node]) := by
  have h := Items.cons hfront hitem hspelled (.nil (P := P))
  rwa [List.append_nil] at h

theorem Items.append {P : Item → Node → Prop} {cs ds : List Char} {nodes others : List Node}
    (h : Items P cs nodes) (h' : Items P ds others) : Items P (cs ++ ds) (nodes ++ others) := by
  induction h with
  | nil => exact h'
  | cons hfront hitem hspelled _ ih =>
    rw [List.append_assoc, List.append_assoc, List.append_assoc, List.cons_append,
      ← List.append_assoc]
    exact .cons hfront hitem hspelled ih

theorem Items.flatMap {β : Type} {P : Item → Node → Prop} {chars : β → List Char}
    {nodes : β → List Node} (h : ∀ x, Items P (chars x) (nodes x)) (xs : List β) :
    Items P (xs.flatMap chars) (xs.flatMap nodes) := by
  induction xs with
  | nil => exact .nil
  | cons x xs ih => exact Items.append (h x) ih

/-- A header, then imports, then declarations, each with the comments in front of it. -/
inductive Derives : String → Tree → Prop
  | module {header : Item} {node : Node} {imports declarations trail : List Char}
      {importNodes declarationNodes : List Node} : Header header node →
      Spelled header.head header.tail → Items ImportClause imports importNodes →
      Items Declaration declarations declarationNodes → IsBlank trail →
      Derives (String.ofList (header.chars ++ imports ++ declarations ++ trail))
        ⟨node :: (importNodes ++ declarationNodes), false⟩

/-- A parser follows the grammar if it parses every text that the grammar derives, and as the
    grammar derives it. -/
def FollowsGrammar (treeOf : String → Tree) : Prop :=
  ∀ text, (∃ tree, Derives text tree) → Derives text (treeOf text)

end ElmAssist.Elm.Grammar
