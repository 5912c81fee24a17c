/-
  How tokens are read.

  `Reads r ps a qs` says that the reader `r` takes the pieces `ps` off the front of tokens and
  returns `a`, if the pieces `qs` are behind them.  It has a rule for each way in which
  readers are put together.

  The words of the grammar are pieces (`piecesOf`), and what stands between marks is read one by
  one (`Reads.separated`).
-/
import ElmAssist.Proofs.Elm.Tokens

namespace ElmAssist.Elm.Plain

open Reader Canonical Grammar

/-- A reader takes some pieces off tokens, in front of others. -/
def Reads {α : Type} (r : Reader α) (ps : List Piece) (a : α) (qs : List Piece) : Prop :=
  ∀ ts : List Token, ts.map Token.piece = ps ++ qs →
    ∃ us, us.map Token.piece = qs ∧ r ts = some (a, us)

namespace Reads

variable {α β γ : Type} {r : Reader α} {p : Token → Bool} {q : Piece} {ps qs : List Piece} {a : α}

/-! ## Rules -/

theorem pure (a : α) (qs : List Piece) : Reads (Pure.pure a) [] a qs :=
  fun ts hts => ⟨ts, hts, rfl⟩

theorem bind {f : α → Reader β} {b : β} {rs : List Piece} (hr : Reads r ps a (qs ++ rs))
    (hf : Reads (f a) qs b rs) : Reads (r >>= f) (ps ++ qs) b rs := by
  intro ts hts
  obtain ⟨us, hus, hr⟩ := hr ts (by rw [hts, List.append_assoc])
  obtain ⟨vs, hvs, hf⟩ := hf us hus
  refine ⟨vs, hvs, ?_⟩
  show (r ts >>= fun x => f x.1 x.2) = _
  rw [hr]
  exact hf

/-- A piece is read, and then the others. -/
theorem step {f : α → Reader β} {b : β} {rs : List Piece} (hr : Reads r [q] a (qs ++ rs))
    (hf : Reads (f a) qs b rs) : Reads (r >>= f) (q :: qs) b rs :=
  bind hr hf

/-- Nothing is taken at first. -/
theorem peek {f : α → Reader β} {b : β} {rs : List Piece} (hr : Reads r [] a (ps ++ rs))
    (hf : Reads (f a) ps b rs) : Reads (r >>= f) ps b rs :=
  bind hr hf

/-- Nothing more is read. -/
theorem last {f : α → Reader β} {b : β} {rs : List Piece} (hr : Reads r ps a rs)
    (hf : Reads (f a) [] b rs) : Reads (r >>= f) ps b rs := by
  rw [← List.append_nil ps]
  exact bind hr hf

theorem map (h : Reads r ps a qs) (f : α → β) : Reads (f <$> r) ps (f a) qs := by
  intro ts hts
  obtain ⟨us, hus, hr⟩ := h ts hts
  refine ⟨us, hus, ?_⟩
  show (r ts >>= fun x => Pure.pure (f x.1, x.2)) = _
  rw [hr]
  rfl

theorem discard (h : Reads r ps a qs) : Reads (Functor.discard r) ps () qs :=
  h.map fun _ => ()

/-- What a reader looks at but does not take. -/
theorem ahead (h : ∀ t : Token, t.piece = q → p t = true) : Reads (ahead p) [] true (q :: qs) := by
  intro ts hts
  obtain ⟨t, us, rfl, ht, hus⟩ := List.map_eq_cons_iff.1 hts
  exact ⟨_, hts, by rw [Reader.ahead]; simp [h t ht]⟩

theorem not_ahead (h : ∀ q ∈ qs.head?, ∀ t : Token, t.piece = q → p t = false) :
    Reads (Reader.ahead p) [] false qs := by
  intro ts hts
  refine ⟨ts, hts, ?_⟩
  rw [Reader.ahead]
  cases ts with
  | nil => rfl
  | cons t ts =>
    have ht : p t = false := h t.piece (by rw [← List.nil_append qs, ← hts]; rfl) t rfl
    simp [ht]

/-- A choice by what is ahead. -/
theorem ite_ahead {r' : Reader α} (hahead : Reads (Reader.ahead p) [] true (ps ++ qs))
    (h : Reads r ps a qs) :
    Reads (Reader.ahead p >>= fun b => if b = true then r else r') ps a qs :=
  peek hahead h

theorem ite_not_ahead {r' : Reader α} (hahead : Reads (Reader.ahead p) [] false (ps ++ qs))
    (h : Reads r ps a qs) :
    Reads (Reader.ahead p >>= fun b => if b = true then r' else r) ps a qs :=
  peek hahead h

/-- A choice by the token ahead, for readers that depend on its place. -/
theorem ite_of_head {t : Token} (us : List Token) (h : p t = true) (r r' : Reader α) :
    (Reader.ahead p >>= fun b => if b = true then r else r') (t :: us) = r (t :: us) := by
  show (some ((t :: us).head?.any p, t :: us) >>= fun x => (if x.1 = true then r else r') x.2) = _
  simp [h]

/-- A token is taken if it is as asked for. -/
theorem text (h : ∀ t : Token, t.piece = q → p t = true) :
    Reads (Token.text <$> token p) [q] (String.ofList q.lexeme.text) qs := by
  intro ts hts
  obtain ⟨t, us, rfl, ht, hus⟩ := List.map_eq_cons_iff.1 hts
  refine ⟨us, hus, ?_⟩
  show ((token p (t :: us)) >>= fun x => Pure.pure (x.1.text, x.2)) = _
  rw [token, if_pos (h t ht), ← ht]
  rfl

theorem taken (h : ∀ t : Token, t.piece = q → p t = true) :
    Reads (Functor.discard (token p)) [q] () qs := by
  intro ts hts
  obtain ⟨t, us, rfl, ht, hus⟩ := List.map_eq_cons_iff.1 hts
  refine ⟨us, hus, ?_⟩
  show ((token p (t :: us)) >>= fun x => Pure.pure ((), x.2)) = _
  rw [token, if_pos (h t ht)]
  rfl

end Reads

/-! ## Words, symbols and names -/

/-- The lexeme of a word with a meaning of its own. -/
def wordLexeme (w : String) : Lexeme :=
  ⟨.lower, w.toList⟩

/-- The lexeme of a symbol. -/
def symbolLexeme (s : String) : Lexeme :=
  ⟨.symbol, s.toList⟩

/-- The lexeme of a lower-case name. -/
def lowerLexeme (n : LowerName) : Lexeme :=
  ⟨.lower, n.chars⟩

/-- The lexeme of a word. -/
def lexemeOf : Word → Lexeme
  | .keyword w => wordLexeme w.text
  | .mark m => symbolLexeme m.text
  | .lower name => lowerLexeme name
  | .upper name => nameLexeme name
  | .number n => ⟨.number, n.digits⟩

/-- The blanks in front of a word, if there are some. -/
def leadOf (gap : List Char) : List Lexeme :=
  if gap = [] then [] else [⟨.blank, gap⟩]

/-- A word with its blanks as a piece. -/
def pieceOf (s : Spaced) : Piece :=
  ⟨leadOf s.gap, lexemeOf s.word⟩

def piecesOf (ws : List Spaced) : List Piece :=
  ws.map pieceOf

namespace Token

variable {t : Token} {s w : String}

theorem isSymbol_symbol (h : t.lexeme = symbolLexeme s) (s' : String) :
    t.isSymbol s' = (s == s') := by
  rw [isSymbol, isKind, text, h, symbolLexeme, String.ofList_toList]
  rfl

theorem isSymbol_of_kind (h : t.lexeme.kind ≠ .symbol) (s : String) : t.isSymbol s = false := by
  rw [isSymbol, isKind, beq_eq_false_iff_ne.2 h]
  rfl

theorem isWord_word (h : t.lexeme = wordLexeme w) (w' : String) : t.isWord w' = (w == w') := by
  rw [isWord, isKind, text, h, wordLexeme, String.ofList_toList]
  rfl

theorem isWord_of_kind (h : t.lexeme.kind ≠ .lower) (w : String) : t.isWord w = false := by
  rw [isWord, isKind, beq_eq_false_iff_ne.2 h]
  rfl

theorem text_lower {n : LowerName} (h : t.lexeme = lowerLexeme n) : t.text = n.text := by
  rw [text, h, lowerLexeme, LowerName.chars, String.ofList_toList]

/-- A lower-case name is none of the words with a meaning of their own. -/
theorem isWord_lower {n : LowerName} (h : t.lexeme = lowerLexeme n)
    (hw : isSpecialWord w = true) : t.isWord w = false := by
  have hne : n.text ≠ w := by
    rintro rfl
    rw [n.isOrdinary] at hw
    cases hw
  rw [isWord, text_lower h, beq_eq_false_iff_ne.2 hne, Bool.and_false]

theorem isLowerName_lower {n : LowerName} (h : t.lexeme = lowerLexeme n) :
    t.isLowerName = true := by
  rw [isLowerName, text_lower h, n.isOrdinary, isKind, h]
  rfl

theorem isLowerName_of_kind (h : t.lexeme.kind ≠ .lower) : t.isLowerName = false := by
  rw [isLowerName, isKind, beq_eq_false_iff_ne.2 h]
  rfl

theorem isUpperName_name {n : DottedName} (h : t.lexeme = nameLexeme n) :
    t.isUpperName = true := by
  rw [isUpperName, isKind, isKind, h, nameLexeme]
  split <;> rfl

end Token

namespace Reads

variable {β : Type} {ps qs : List Piece} {lead : List Lexeme}

theorem symbol (s : String) : Reads (Reader.symbol s) [⟨lead, symbolLexeme s⟩] () qs :=
  taken fun t ht => by rw [Token.isSymbol_symbol (congrArg Piece.lexeme ht), beq_self_eq_true]

theorem word (w : String) : Reads (Reader.word w) [⟨lead, wordLexeme w⟩] () qs :=
  taken fun t ht => by rw [Token.isWord_word (congrArg Piece.lexeme ht), beq_self_eq_true]

theorem lower (n : LowerName) : Reads Reader.lower [⟨lead, lowerLexeme n⟩] n.text qs := by
  have h : Reads Reader.lower [⟨lead, lowerLexeme n⟩] (String.ofList (lowerLexeme n).text) qs :=
    text fun _ ht => Token.isLowerName_lower (congrArg Piece.lexeme ht)
  rwa [lowerLexeme, LowerName.chars, String.ofList_toList] at h

theorem upper (n : UpperName) : Reads Reader.upper [⟨lead, nameLexeme ⟨n, []⟩⟩] n.text qs := by
  have hlexeme : nameLexeme ⟨n, []⟩ = ⟨.upper, n.chars⟩ := by
    simp [nameLexeme, DottedName.chars]
  have h : Reads Reader.upper [⟨lead, ⟨.upper, n.chars⟩⟩] (String.ofList n.chars) qs :=
    text fun t ht => by
      rw [Token.isKind, show t.lexeme = ⟨.upper, n.chars⟩ from congrArg Piece.lexeme ht]
      rfl
  rw [hlexeme]
  rwa [show String.ofList n.chars = n.text from String.ofList_toList] at h

theorem upperName (n : DottedName) : Reads Reader.upperName [⟨lead, nameLexeme n⟩] n.text qs :=
  text fun _ ht => Token.isUpperName_name (congrArg Piece.lexeme ht)

/-! ## Lists -/

/-- What is behind an item of a list: nothing, or a symbol other than an opening bracket. -/
def SymbolNext (qs : List Piece) : Prop :=
  ∀ q ∈ qs.head?, ∃ s, q.lexeme = symbolLexeme s ∧ s ≠ "("

/-- A symbol is not ahead if the next one is another, or there is none. -/
theorem not_ahead_symbol {s : String} (h : ∀ q ∈ qs.head?, ∃ s', q.lexeme = symbolLexeme s' ∧ s' ≠ s) :
    Reads (Reader.ahead (·.isSymbol s)) [] false qs :=
  not_ahead fun q hq t ht => by
    obtain ⟨s', hs', hne⟩ := h q hq
    rw [Token.isSymbol_symbol (s := s') (by rw [← hs', ← ht]; rfl), beq_eq_false_iff_ne.2 hne]

theorem symbolNext_symbol {s : String} (hs : s ≠ "(") (us : List Piece) :
    SymbolNext (⟨lead, symbolLexeme s⟩ :: us) := by
  intro q hq
  obtain rfl := Option.some.inj hq
  exact ⟨s, rfl, hs⟩

theorem symbolNext_nil : SymbolNext [] :=
  fun _ hq => nomatch hq

/-- What starts with a symbol has the symbol ahead. -/
theorem ahead_symbol (s : String) (us : List Piece) :
    Reads (Reader.ahead (·.isSymbol s)) [] true (⟨lead, symbolLexeme s⟩ :: us) :=
  ahead fun t ht => by rw [Token.isSymbol_symbol (congrArg Piece.lexeme ht), beq_self_eq_true]

section Separated

variable {α : Type} {m : Mark} {P : List Spaced → α → Prop} {item : Reader α}

/-- There are no more items than words, except for one. -/
theorem length_separated {ws : List Spaced} {as : List α} (h : Separated m P ws as) :
    as.length ≤ ws.length + 1 := by
  induction h with
  | single _ => simp
  | cons gap _ _ ih =>
    simp only [List.length_cons, List.length_append]
    omega

theorem whileAhead_none {α : Type} {p : Token → Bool} {r : Reader α} {n : Nat}
    (h : Reads (Reader.ahead p) [] false qs) : Reads (Reader.whileAhead p r n) [] [] qs := by
  cases n with
  | zero => exact pure [] qs
  | succ n => exact ite_not_ahead h (pure [] qs)

variable (hm : m.text ≠ "(")
  (hitem : ∀ {ws a us}, P ws a → SymbolNext us → Reads item (piecesOf ws) a us)
  (hqs : SymbolNext qs) (hend : Reads (Reader.ahead (·.isSymbol m.text)) [] false qs)

include hm hitem hqs hend

/-- The items behind the first one are read one by one, each with the mark in front of it. -/
theorem whileAhead_separated {n : Nat} {ws : List Spaced} {as : List α} (h : Separated m P ws as)
    (hn : as.length ≤ n) (lead : List Lexeme) :
    Reads (Reader.whileAhead (·.isSymbol m.text) (do Reader.symbol m.text; item) n)
      (⟨lead, symbolLexeme m.text⟩ :: piecesOf ws) as qs := by
  induction h generalizing n lead with
  | single ha =>
    obtain ⟨k, rfl⟩ : ∃ k, n = k + 1 := ⟨n - 1, by simp at hn; omega⟩
    refine ite_ahead (ahead_symbol m.text _) ?_
    exact last (step (symbol m.text) (hitem ha hqs))
      (peek (whileAhead_none hend) (pure _ _))
  | @cons ws rest a others gap ha _ ih =>
    obtain ⟨k, rfl⟩ : ∃ k, n = k + 1 := ⟨n - 1, by simp at hn; omega⟩
    have hsplit : piecesOf (ws ++ ⟨gap, .mark m⟩ :: rest) =
        piecesOf ws ++ (⟨leadOf gap, symbolLexeme m.text⟩ :: piecesOf rest) := List.map_append
    have hrest := ih (n := k) (by simpa using hn) (leadOf gap)
    rw [hsplit]
    refine ite_ahead (ahead_symbol m.text _) ?_
    rw [← List.cons_append]
    exact bind (step (symbol m.text) (hitem ha (symbolNext_symbol hm _))) (last hrest (pure _ _))

/-- **Items with marks between them** are read one by one. -/
theorem separated {n : Nat} {ws : List Spaced} {as : List α} (h : Separated m P ws as)
    (hn : as.length ≤ n + 1) : Reads (Reader.separated m.text item n) (piecesOf ws) as qs := by
  cases h with
  | single ha => exact last (hitem ha hqs) (peek (whileAhead_none hend) (pure _ _))
  | @cons ws rest a others gap ha hrest =>
    have hsplit : piecesOf (ws ++ ⟨gap, .mark m⟩ :: rest) =
        piecesOf ws ++ (⟨leadOf gap, symbolLexeme m.text⟩ :: piecesOf rest) := List.map_append
    have hmore := whileAhead_separated hm hitem hqs hend hrest (n := n) (by simpa using hn)
      (leadOf gap)
    rw [hsplit]
    exact bind (hitem ha (symbolNext_symbol hm _)) (last hmore (pure _ _))

end Separated

end Reads

/-! ## Source text -/

/-- The text of pieces, without what is in front of the first. -/
def sourceText : List Piece → List Char
  | [] => []
  | p :: rest => p.lexeme.text ++ rest.flatMap fun q => flatten q.lead ++ q.lexeme.text

theorem sourceText_tokens (ts : List Token) :
    Token.sourceText ts = String.ofList (sourceText (ts.map Token.piece)) := by
  cases ts with
  | nil => rfl
  | cons t ts =>
    rw [Token.sourceText, List.map_cons, sourceText, List.flatMap_map]
    rfl

theorem Reads.sourceOf {r : Reader Unit} {ps qs : List Piece} (h : Reads r ps () qs) :
    Reads (Reader.sourceOf r) ps (String.ofList (sourceText ps)) qs := by
  intro ts hts
  obtain ⟨us, hus, hr⟩ := h ts hts
  refine ⟨us, hus, ?_⟩
  have hsum : ts.length = ps.length + us.length := by
    simpa [← hus] using congrArg List.length hts
  have hlength : ts.length - us.length = ps.length := by omega
  have htaken : (ts.take ps.length).map Token.piece = ps := by
    rw [List.map_take, hts, List.take_left]
  show (r ts >>= fun x => Pure.pure (Token.sourceText (ts.take (ts.length - x.2.length)), x.2)) = _
  rw [hr]
  show some (Token.sourceText (ts.take (ts.length - us.length)), us) = _
  rw [hlength, sourceText_tokens, htaken]

end ElmAssist.Elm.Plain
