/-
  How the items of the grammar are read.

  There is one lemma for each rule, in the order of the rules.  Each item is read in all phases in
  which it may occur: a header at the start (`item_header`), an import in front of the
  declarations (`item_import`), a declaration in all phases (`item_declaration`).
-/
import ElmAssist.Proofs.Elm.Reading

namespace ElmAssist.Elm.Plain

open Reader Canonical Grammar

/-- The pieces of an item; `lead` is in front of it. -/
def chunkOf (lead : List Lexeme) (i : Item) : Chunk :=
  ⟨lead, lexemeOf i.head, piecesOf i.tail⟩

theorem length_pieces_chunkOf (lead : List Lexeme) (i : Item) :
    (chunkOf lead i).pieces.length = i.tail.length + 1 := by
  simp [chunkOf, Chunk.pieces, piecesOf]

theorem piecesOf_append (ws us : List Spaced) : piecesOf (ws ++ us) = piecesOf ws ++ piecesOf us :=
  List.map_append

theorem nameLexeme_kind (name : DottedName) :
    (nameLexeme name).kind ≠ .lower ∧ (nameLexeme name).kind ≠ .symbol := by
  rw [nameLexeme]
  split <;> simp

namespace Reads

variable {n : Nat} {lead : List Lexeme} {ws : List Spaced} {ps us : List Piece}

/-! ## Looking ahead -/

theorem ahead_word (w : String) (us : List Piece) :
    Reads (Reader.ahead (·.isWord w)) [] true (⟨lead, wordLexeme w⟩ :: us) :=
  ahead fun t ht => by rw [Token.isWord_word (congrArg Piece.lexeme ht), beq_self_eq_true]

theorem not_ahead_nil {p : Token → Bool} : Reads (Reader.ahead p) [] false [] :=
  not_ahead fun _ hq => nomatch hq

theorem not_ahead_isWord {w w' : String} (hne : w' ≠ w) (us : List Piece) :
    Reads (Reader.ahead (·.isWord w)) [] false (⟨lead, wordLexeme w'⟩ :: us) :=
  not_ahead fun q hq t ht => by
    obtain rfl := Option.some.inj hq
    rw [Token.isWord_word (congrArg Piece.lexeme ht), beq_eq_false_iff_ne.2 hne]

theorem not_ahead_isLowerName {l : Lexeme} (h : l.kind ≠ .lower) (us : List Piece) :
    Reads (Reader.ahead (·.isLowerName)) [] false (⟨lead, l⟩ :: us) :=
  not_ahead fun q hq t ht => by
    obtain rfl := Option.some.inj hq
    exact Token.isLowerName_of_kind (by rw [show t.lexeme = l from congrArg Piece.lexeme ht]; exact h)

theorem not_ahead_isSymbol {l : Lexeme} (h : l.kind ≠ .symbol) (s : String) (us : List Piece) :
    Reads (Reader.ahead (·.isSymbol s)) [] false (⟨lead, l⟩ :: us) :=
  not_ahead fun q hq t ht => by
    obtain rfl := Option.some.inj hq
    exact Token.isSymbol_of_kind (by rw [show t.lexeme = l from congrArg Piece.lexeme ht]; exact h) s

theorem not_ahead_isWord_of_kind {l : Lexeme} (h : l.kind ≠ .lower) (w : String) (us : List Piece) :
    Reads (Reader.ahead (·.isWord w)) [] false (⟨lead, l⟩ :: us) :=
  not_ahead fun q hq t ht => by
    obtain rfl := Option.some.inj hq
    exact Token.isWord_of_kind (by rw [show t.lexeme = l from congrArg Piece.lexeme ht]; exact h) w

/-! ## Exposing lists -/

theorem exposedEntry {node : ExposedNode} (h : ExposedEntry ws node) (hus : SymbolNext us) :
    Reads Plain.exposedItem (piecesOf ws) node us := by
  cases h with
  | value gap name =>
    refine ite_ahead (ahead fun t ht => Token.isLowerName_lower (congrArg Piece.lexeme ht)) ?_
    exact last (lower name) (pure _ _)
  | type gap name =>
    refine ite_not_ahead (not_ahead_isLowerName (nameLexeme_kind _).1 _) ?_
    exact last (upper name) (ite_not_ahead (not_ahead_symbol hus) (pure _ _))
  | constructors gap₁ gap₂ gap₃ gap₄ name =>
    refine ite_not_ahead (not_ahead_isLowerName (nameLexeme_kind _).1 _) ?_
    refine step (upper name) (ite_ahead (ahead_symbol "(" _) ?_)
    exact step (symbol "(") (step (symbol "..") (last (symbol ")") (pure _ _)))

/-- Entries do not start with two dots. -/
theorem not_ahead_dots {nodes : List ExposedNode} (h : Separated .comma ExposedEntry ws nodes)
    (us : List Piece) : Reads (Reader.ahead (·.isSymbol "..")) [] false (piecesOf ws ++ us) := by
  have hentry : ∀ {ws node} (us : List Piece), ExposedEntry ws node →
      Reads (Reader.ahead (·.isSymbol "..")) [] false (piecesOf ws ++ us) := by
    intro ws node us h
    cases h with
    | value gap name => exact not_ahead_isSymbol (l := lowerLexeme name) nofun ".." _
    | type gap name | constructors _ _ _ _ name =>
      exact not_ahead_isSymbol (nameLexeme_kind ⟨name, []⟩).2 ".." _
  cases h with
  | single ha => exact hentry us ha
  | cons gap ha _ =>
    rw [piecesOf_append, List.append_assoc]
    exact hentry _ ha

theorem exposingList {nodes : List ExposedNode} (h : ExposingList ws nodes) (hn : ws.length ≤ n)
    (us : List Piece) : Reads (Plain.exposingList n) (piecesOf ws) nodes us := by
  have hclose : ∀ gap nodes, Reads (do Reader.symbol ")"; Pure.pure nodes)
      (piecesOf [⟨gap, .mark .closing⟩]) (nodes : List ExposedNode) us := fun _ _ =>
    last (symbol ")") (pure _ _)
  cases h with
  | everything gap₁ gap₂ gap₃ gap₄ =>
    refine step (word "exposing") (step (symbol "(") (ite_ahead (ahead_symbol ".." _) ?_))
    exact step (symbol "..") (bind (pure _ _) (hclose gap₄ _))
  | @entries gap₁ gap₂ gap₃ ws nodes h =>
    have hlength := length_separated h
    have hentries : Reads (Reader.separated "," Plain.exposedItem n) (piecesOf ws) nodes
        (piecesOf [⟨gap₃, .mark .closing⟩] ++ us) := by
      have hnext : SymbolNext (piecesOf [⟨gap₃, .mark .closing⟩] ++ us) :=
        symbolNext_symbol (s := ")") (by decide) us
      refine separated (m := .comma) (by decide) exposedEntry hnext ?_ h ?_
      · refine not_ahead_symbol fun q hq => ?_
        obtain rfl := Option.some.inj hq
        exact ⟨")", rfl, by decide⟩
      · simp only [List.length_cons, List.length_append] at hn
        omega
    have hsplit : piecesOf (ws ++ [⟨gap₃, .mark .closing⟩]) =
        piecesOf ws ++ piecesOf [⟨gap₃, .mark .closing⟩] := piecesOf_append _ _
    have hdots := not_ahead_dots h (piecesOf [⟨gap₃, .mark .closing⟩] ++ us)
    rw [← List.append_assoc, ← hsplit] at hdots
    have hall : Reads (do
        let items ← Reader.separated "," Plain.exposedItem n
        Reader.symbol ")"
        return items) (piecesOf (ws ++ [⟨gap₃, .mark .closing⟩])) nodes us := by
      rw [hsplit]
      exact bind hentries (hclose gap₃ _)
    exact step (word "exposing") (step (symbol "(") (ite_not_ahead hdots hall))

/-! ## Headers and imports -/

/-- A reader of all pieces uses up their tokens. -/
theorem run {α : Type} {r : Reader α} {a : α} (h : Reads r ps a []) {ts : List Token}
    (hts : ts.map Token.piece = ps) : r ts = some (a, []) := by
  obtain ⟨us, hus, hr⟩ := h ts (by rw [hts, List.append_nil])
  rw [hr, List.map_eq_nil_iff.1 hus]

/-- The header has the place of its first token, which is the start of the text. -/
theorem header {i : Item} {node : Node} (h : Header i node) (hn : i.tail.length ≤ n) {t : Token}
    {ts : List Token} (hplace : t.place = {})
    (hts : (t :: ts).map Token.piece = (chunkOf lead i).pieces) :
    Plain.header n (t :: ts) = some (node, []) := by
  cases h with
  | @mk gap name ws nodes hnodes =>
    have hlength : ws.length ≤ n := Nat.le_of_succ_le hn
    have hbody : Reads (do
        Reader.word "module"
        let name ← Reader.upperName
        let exposing ← Plain.exposingList n
        return Node.header t.place false (some name) (some exposing))
        (chunkOf lead ⟨.keyword .module, ⟨gap, .upper name⟩ :: ws⟩).pieces
        (.header {} false (some name.text) (some nodes)) [] := by
      rw [hplace]
      exact step (word "module") (step (upperName name)
        (last (exposingList hnodes hlength []) (pure _ _)))
    exact hbody.run hts

/-- What is behind the name of an import is not `as`, if there is no short name. -/
theorem not_ahead_as {nodes : Option (List ExposedNode)} (h : Imported ws nodes) :
    Reads (Reader.ahead (·.isWord "as")) [] false (piecesOf ws) := by
  cases h with
  | none => exact not_ahead_nil
  | some h =>
    have hne : "exposing" ≠ "as" := by decide
    cases h <;> exact not_ahead_isWord hne _

theorem imported {nodes : Option (List ExposedNode)} (h : Imported ws nodes) (hn : ws.length ≤ n)
    (f : Option (List ExposedNode) → Node) :
    Reads (do
      let exposing ← do
        if ← Reader.ahead (·.isWord "exposing") then some <$> Plain.exposingList n
        else Pure.pure none
      return f exposing) (piecesOf ws) (f nodes) [] := by
  cases h with
  | none => exact ite_not_ahead not_ahead_nil (bind (pure _ _) (pure _ _))
  | some h =>
    refine ite_ahead ?_ (last ((exposingList h hn []).map some) (pure _ _))
    cases h <;> exact ahead_word "exposing" _

theorem importClause {i : Item} {node : Node} (h : ImportClause i node) (hn : i.tail.length ≤ n) :
    Reads (Plain.importClause n) (chunkOf lead i).pieces node [] := by
  cases h with
  | @mk gap name ws us short nodes hshort hnodes =>
    have hlength : us.length ≤ n := by
      simp only [List.length_cons, List.length_append] at hn
      omega
    have hrest := fun short => imported hnodes hlength
      fun exposing => .importClause false (some name.text) short exposing
    refine step (word "import") (step (upperName name) ?_)
    cases hshort with
    | none =>
      have hname := not_ahead_as hnodes
      rw [← List.append_nil (piecesOf us)] at hname
      exact ite_not_ahead hname (bind (pure _ _) (hrest none))
    | some gap₁ gap₂ short =>
      exact ite_ahead (ahead_word "as" _)
        (step (word "as") (step ((upper short).map some) (hrest _)))

/-! ## Types -/

/-- A symbol other than an opening bracket starts no argument of a type. -/
theorem not_ahead_argument (h : SymbolNext us) :
    Reads (Reader.ahead fun t => startsSingleType t && t.isSpaced) [] false us :=
  not_ahead fun q hq t ht => by
    obtain ⟨s, hs, hne⟩ := h q hq
    have hlexeme : t.lexeme = symbolLexeme s := by rw [← hs, ← ht]; rfl
    have hkind : t.lexeme.kind = .symbol := congrArg Lexeme.kind hlexeme
    have hupper : t.isUpperName = false := by
      rw [Token.isUpperName, Token.isKind, Token.isKind, hkind]
      rfl
    have hlower : t.isLowerName = false := Token.isLowerName_of_kind (by rw [hkind]; decide)
    rw [startsSingleType, hupper, hlower, Token.isSymbol_symbol hlexeme, beq_eq_false_iff_ne.2 hne]
    rfl

theorem typeTerm (inner : Reader Unit) {part : Unit} (h : TypeTerm ws part) (hus : SymbolNext us) :
    Reads (Plain.appliedType inner n) (piecesOf ws) part us := by
  cases h with
  | name gap name =>
    exact ite_ahead (ahead fun _ ht => Token.isUpperName_name (congrArg Piece.lexeme ht))
      (last (upperName name) (last (whileAhead_none (not_ahead_argument hus)) (pure _ _)))

theorem type {parts : List Unit} (h : Separated .arrow TypeTerm ws parts) (hn : ws.length < n) :
    Reads (Plain.type n) (piecesOf ws) () [] := by
  obtain ⟨m, rfl⟩ : ∃ m, n = m + 1 := ⟨n - 1, by omega⟩
  have hlength := length_separated h
  have hall : Reads (Reader.separated "->" (Plain.appliedType (Plain.type m) m) m) (piecesOf ws)
      parts [] :=
    separated (m := .arrow) (by decide) (typeTerm _) symbolNext_nil not_ahead_nil h (by omega)
  exact discard hall

/-! ## Declarations -/

theorem variant {name : Option String} (h : Variant ws name) (hus : SymbolNext us) :
    Reads (Plain.variant n) (piecesOf ws) name us := by
  cases h with
  | name gap name =>
    exact step (upper name) (peek (whileAhead_none (not_ahead_argument hus)) (pure _ _))

/-- The body of a constant. -/
theorem number (number : Number) (hn : 0 < n) :
    Reads (expression n) [⟨lead, ⟨.number, number.digits⟩⟩] () [] := by
  obtain ⟨m, rfl⟩ : ∃ m, n = m + 1 := ⟨n - 1, by omega⟩
  have hlexeme : ∀ t : Token, t.piece = ⟨lead, ⟨.number, number.digits⟩⟩ →
      t.lexeme = ⟨.number, number.digits⟩ :=
    fun t ht => congrArg Piece.lexeme ht
  have hname : Reads (Reader.ahead isValueName) [] false [⟨lead, ⟨.number, number.digits⟩⟩] :=
    not_ahead fun q hq t ht => by
      obtain rfl := Option.some.inj hq
      rw [isValueName, Token.isLowerName, Token.isUpperName, Token.isKind, Token.isKind, Token.isKind,
        Token.isKind, hlexeme t ht]
      rfl
  have hbracket := fun s => @not_ahead_isSymbol lead ⟨.number, number.digits⟩ (by simp) s []
  have hnumber : Reads (Functor.discard (token startsAtom)) [⟨lead, ⟨.number, number.digits⟩⟩] ()
      [] := taken fun t ht => by
    rw [startsAtom, Token.isKind, hlexeme t ht, show (Kind.number == Kind.number) = true from rfl]
    simp
  have hoperand : Reads (operand (expression m) m) [⟨lead, ⟨.number, number.digits⟩⟩] () [] :=
    ite_not_ahead hname (ite_not_ahead (hbracket "(") (ite_not_ahead (hbracket "[") hnumber))
  exact last hoperand (peek (whileAhead_none not_ahead_nil) (pure _ _))

theorem signature (gap : List Char) (name : LowerName) {parts : List Unit}
    (h : Separated .arrow TypeTerm ws parts) (hn : ws.length < n) :
    Reads (valueDeclaration n) (chunkOf lead ⟨.lower name, ⟨gap, .mark .colon⟩ :: ws⟩).pieces
      (.signature false (some name.text) (some (String.ofList (sourceText (piecesOf ws))))) [] := by
  refine step (lower name) (ite_ahead (ahead_symbol ":" _) (step (symbol ":") ?_))
  exact last (sourceOf (type h hn)) (pure _ _)

theorem constant (gap₁ gap₂ : List Char) (name : LowerName) (k : Number) (hn : 0 < n) :
    Reads (valueDeclaration n)
      (chunkOf lead ⟨.lower name, [⟨gap₁, .mark .equals⟩, ⟨gap₂, .number k⟩]⟩).pieces
      (.value false (some name.text)) [] := by
  let body : List Piece := piecesOf [⟨gap₁, .mark .equals⟩, ⟨gap₂, .number k⟩]
  have hcolon : Reads (Reader.ahead (·.isSymbol ":")) [] false (body ++ []) :=
    not_ahead_symbol fun q hq => by
      obtain rfl := Option.some.inj hq
      exact ⟨"=", rfl, by decide⟩
  have hparameter : Reads (Reader.ahead isParameter) [] false (body ++ []) :=
    not_ahead fun q hq t ht => by
      obtain rfl := Option.some.inj hq
      have hlexeme : t.lexeme = symbolLexeme "=" := congrArg Piece.lexeme ht
      rw [isParameter, Token.isSymbol_symbol hlexeme,
        Token.isLowerName_of_kind (by rw [hlexeme]; exact nofun)]
      decide
  refine step (lower name) (ite_not_ahead hcolon (peek (whileAhead_none hparameter) ?_))
  exact step (symbol "=") (last (number k hn) (pure _ _))

theorem customType (gap₁ gap₂ : List Char) (name : UpperName) {variants : List (Option String)}
    (h : Separated .bar Variant ws variants) (hn : ws.length < n) :
    Reads (typeDeclaration n) (chunkOf lead
      ⟨.keyword .type, ⟨gap₁, .upper ⟨name, []⟩⟩ :: ⟨gap₂, .mark .equals⟩ :: ws⟩).pieces
      (.customType false (some name.text) variants) [] := by
  have hlength := length_separated h
  have halias := @not_ahead_isWord_of_kind (leadOf gap₁) _ (nameLexeme_kind ⟨name, []⟩).1
    "alias" (piecesOf (⟨gap₂, .mark .equals⟩ :: ws) ++ [])
  have hparameter := @not_ahead_isLowerName (leadOf gap₂) (symbolLexeme "=") nofun
    (piecesOf ws ++ [])
  refine step (word "type") (peek halias (step (upper name) ?_))
  refine peek (whileAhead_none hparameter) (step (symbol "=") (last ?_ (pure _ _)))
  exact separated (m := .bar) (by decide) variant symbolNext_nil not_ahead_nil h (by omega)

theorem typeAlias (gap₁ gap₂ gap₃ : List Char) (name : UpperName) {parts : List Unit}
    (h : Separated .arrow TypeTerm ws parts) (hn : ws.length < n) :
    Reads (typeDeclaration n) (chunkOf lead
      ⟨.keyword .type, ⟨gap₁, .keyword .alias⟩ :: ⟨gap₂, .upper ⟨name, []⟩⟩ ::
        ⟨gap₃, .mark .equals⟩ :: ws⟩).pieces (.typeAlias false (some name.text)) [] := by
  have hparameter := @not_ahead_isLowerName (leadOf gap₃) (symbolLexeme "=") nofun
    (piecesOf ws ++ [])
  refine step (word "type") (peek (ahead_word "alias" _) (step (word "alias") ?_))
  refine step (upper name) (peek (whileAhead_none hparameter) (step (symbol "=") ?_))
  exact last (type h hn) (pure _ _)

/-! ## Items -/

variable {phase : Phase}

/-- Neither a header nor an import is ahead of a word that begins something else. -/
theorem item_of_not_ahead {node : Node} {q : Piece}
    (hq : ∀ t : Token, t.piece = q → t.isWord "module" = false ∧ t.isWord "import" = false)
    (hr : Reads (do
      if ← Reader.ahead (·.isWord "type") then typeDeclaration n else valueDeclaration n)
      (q :: ps) node []) : Reads (item phase n) (q :: ps) node [] := by
  refine ite_not_ahead (not_ahead fun p hp t ht => ?_) (ite_not_ahead
    (not_ahead fun p hp t ht => ?_) hr)
  · obtain rfl := Option.some.inj hp
    rw [(hq t ht).1]; rfl
  · obtain rfl := Option.some.inj hp
    rw [(hq t ht).2]; rfl

/-- An item that begins with `type` is read as a custom type or a type alias. -/
theorem item_type {node : Node}
    (h : Reads (typeDeclaration n) (⟨lead, wordLexeme "type"⟩ :: ps) node []) :
    Reads (item phase n) (⟨lead, wordLexeme "type"⟩ :: ps) node [] :=
  item_of_not_ahead (fun t ht => by
    have hlexeme : t.lexeme = wordLexeme "type" := congrArg Piece.lexeme ht
    rw [Token.isWord_word hlexeme, Token.isWord_word hlexeme]
    decide) (ite_ahead (ahead_word "type" _) h)

/-- An item that begins with a name is read as an annotation or a constant. -/
theorem item_value {node : Node} {name : LowerName}
    (h : Reads (valueDeclaration n) (⟨lead, lowerLexeme name⟩ :: ps) node []) :
    Reads (item phase n) (⟨lead, lowerLexeme name⟩ :: ps) node [] :=
  item_of_not_ahead (fun t ht => by
    have hlexeme : t.lexeme = lowerLexeme name := congrArg Piece.lexeme ht
    exact ⟨Token.isWord_lower hlexeme (by decide), Token.isWord_lower hlexeme (by decide)⟩)
    (ite_not_ahead (not_ahead fun q hq t ht => by
      obtain rfl := Option.some.inj hq
      exact Token.isWord_lower (congrArg Piece.lexeme ht) (by decide)) h)

/-- The header is the first item. -/
theorem item_header {i : Item} {node : Node} (h : Header i node) (hn : i.tail.length ≤ n)
    {t : Token} {ts : List Token} (hplace : t.place = {})
    (hts : (t :: ts).map Token.piece = (chunkOf lead i).pieces) :
    item .start n (t :: ts) = some (node, []) := by
  have hread := header h hn hplace hts
  have hword : t.isWord "module" = true := by
    obtain ⟨ht, -⟩ := List.cons.inj hts
    cases h
    rw [Token.isWord_word (w := "module") (congrArg Piece.lexeme ht), beq_self_eq_true]
  refine Eq.trans (ite_of_head ts ?_ _ _) hread
  rw [hword]
  rfl

theorem item_import {i : Item} {node : Node} (h : ImportClause i node) (hn : i.tail.length ≤ n) :
    Reads (item .imports n) (chunkOf lead i).pieces node [] := by
  have hread : Reads (Plain.importClause n) (chunkOf lead i).pieces node [] := importClause h hn
  cases h
  refine ite_not_ahead (not_ahead fun p hp t ht => ?_) (ite_ahead (ahead fun t ht => ?_) hread)
  · rw [show (Phase.imports == Phase.start) = false from rfl, Bool.and_false]
  · rw [Token.isWord_word (w := "import") (congrArg Piece.lexeme ht)]
    rfl

end Reads

/-! ## Source text -/

theorem flatten_leadOf (gap : List Char) : flatten (leadOf gap) = gap := by
  rw [leadOf]
  split
  · next h => exact h.symm
  · exact List.append_nil gap

theorem text_lexemeOf (w : Word) : (lexemeOf w).text = w.chars := by
  cases w <;> rfl

/-- The source text of words is their text. -/
theorem sourceText_piecesOf (ws : List Spaced) : sourceText (piecesOf ws) = textOf ws := by
  cases ws with
  | nil => rfl
  | cons w ws =>
    have hword : ∀ s : Spaced, flatten (pieceOf s).lead ++ (pieceOf s).lexeme.text = s.chars :=
      fun s => by rw [pieceOf, flatten_leadOf, text_lexemeOf, Spaced.chars]
    rw [piecesOf, List.map_cons, sourceText, textOf, List.flatMap_map]
    exact congrArg₂ _ (text_lexemeOf w.word) (List.flatMap_congr fun s _ => hword s)

/-- **Declarations are read** in all phases. -/
theorem Reads.item_declaration {n : Nat} {lead : List Lexeme} {phase : Phase} {i : Item}
    {node : Node} (h : Declaration i node) (hn : i.tail.length ≤ n) :
    Reads (item phase n) (chunkOf lead i).pieces node [] := by
  cases h with
  | signature gap name h =>
    rw [← sourceText_piecesOf]
    exact item_value (signature gap name h hn)
  | constant gap₁ gap₂ name k =>
    exact item_value (constant gap₁ gap₂ name k (Nat.lt_of_lt_of_le Nat.zero_lt_two hn))
  | customType gap₁ gap₂ name h =>
    have hlength := Nat.le_of_succ_le hn
    exact item_type (customType gap₁ gap₂ name h hlength)
  | typeAlias gap₁ gap₂ gap₃ name h =>
    have hlength := Nat.le_of_succ_le (Nat.le_of_succ_le hn)
    exact item_type (typeAlias gap₁ gap₂ gap₃ name h hlength)

end ElmAssist.Elm.Plain
