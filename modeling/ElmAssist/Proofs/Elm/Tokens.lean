/-
  From lexemes to tokens and chunks.

  A `Piece` is what counts of a token: its lexeme and the blanks and comments in front of it.
  `placed` puts pieces one after the other.

  * `tokensOf_pieces`: the lexemes of some pieces give these pieces as tokens.
  * `chunks_placed`: a new chunk starts with each piece that is behind a line feed.
-/
import ElmAssist.Elm.Plain.Items
import ElmAssist.Proofs.Elm.Lexing
import Mathlib.Data.List.Forall2

namespace ElmAssist.Elm.Plain

/-! ## Pieces -/

/-- A lexeme with the blanks and comments in front of it. -/
structure Piece where
  lead : List Lexeme
  lexeme : Lexeme

namespace Piece

/-- The lexemes of a piece. -/
def lexemes (p : Piece) : List Lexeme :=
  p.lead ++ [p.lexeme]

/-- Only blanks and comments are in front of the lexeme, and it does not end in a line feed. -/
structure Proper (p : Piece) : Prop where
  lead : ∀ l ∈ p.lead, l.isTrivia = true
  lexeme : p.lexeme.isTrivia = false
  ends : ∃ c, p.lexeme.text.getLast? = some c ∧ c ≠ '\n'

/-- There is no line feed directly in front of the lexeme. -/
def Inline (p : Piece) : Prop :=
  (flatten p.lead).getLast? ≠ some '\n'

end Piece

/-- What counts of a token. -/
def Token.piece (t : Token) : Piece :=
  ⟨t.lead, t.lexeme⟩

/-! ## Places -/

/-- The place behind some text. -/
def behind (place : Place) (cs : List Char) : Place :=
  cs.foldl placeBehind place

theorem behind_append (place : Place) (cs ds : List Char) :
    behind place (cs ++ ds) = behind (behind place cs) ds :=
  List.foldl_append

/-- A line starts behind a line feed and nowhere else. -/
theorem column_behind {place : Place} {cs : List Char} {c : Char} (h : cs.getLast? = some c) :
    (behind place cs).column = 0 ↔ c = '\n' := by
  obtain ⟨ds, rfl⟩ := List.getLast?_eq_some_iff.1 h
  rw [behind_append]
  show (placeBehind _ c).column = 0 ↔ _
  rw [placeBehind]
  split
  · next hc => simpa using hc
  · next hc =>
    have hsize := c.utf8Size_pos
    have hne : c ≠ '\n' := by simpa using hc
    simp only [hne, iff_false]
    omega

/-! ## Tokens -/

/-- The tokens of some pieces, the first of which starts with its blanks at a place. -/
def placed (place : Place) : List Piece → List Token
  | [] => []
  | p :: rest =>
    ⟨p.lexeme, p.lead, behind place (flatten p.lead)⟩ ::
      placed (behind place (flatten p.lexemes)) rest

theorem map_piece_placed (place : Place) (ps : List Piece) :
    (placed place ps).map Token.piece = ps := by
  induction ps generalizing place with
  | nil => rfl
  | cons p ps ih => rw [placed, List.map_cons, ih]; rfl

theorem placed_append (place : Place) (ps qs : List Piece) :
    placed place (ps ++ qs) =
      placed place ps ++ placed (behind place (flatten (ps.flatMap Piece.lexemes))) qs := by
  induction ps generalizing place with
  | nil => rfl
  | cons p ps ih =>
    rw [List.cons_append, placed, placed, ih, ← behind_append, List.cons_append]
    simp [flatten]

theorem tokensOf_trivia {lead ls rest : List Lexeme} (place : Place)
    (h : ∀ l ∈ ls, l.isTrivia = true) :
    tokensOf lead place (ls ++ rest) = tokensOf (lead ++ ls) (behind place (flatten ls)) rest := by
  induction ls generalizing lead place with
  | nil => rw [List.nil_append, List.append_nil]; rfl
  | cons l ls ih =>
    rw [List.cons_append, tokensOf, if_pos (h l List.mem_cons_self),
      ih _ fun m hm => h m (List.mem_cons_of_mem l hm)]
    simp [flatten, behind]

/-- **Tokens of pieces.**  The lexemes of some pieces, with blanks and comments behind them,
    give the pieces as tokens. -/
theorem tokensOf_pieces {ps : List Piece} (place : Place) {trail : List Lexeme}
    (h : ∀ p ∈ ps, p.Proper) (htrail : ∀ l ∈ trail, l.isTrivia = true) :
    tokensOf [] place (ps.flatMap Piece.lexemes ++ trail) = (placed place ps, commentsOf trail) := by
  induction ps generalizing place with
  | nil =>
    have hnil := @tokensOf_trivia [] trail [] place htrail
    rw [List.append_nil] at hnil
    exact hnil
  | cons p ps ih =>
    have hp := h p List.mem_cons_self
    rw [List.flatMap_cons, Piece.lexemes, List.append_assoc, List.append_assoc,
      tokensOf_trivia place hp.lead, List.singleton_append, tokensOf, hp.lexeme,
      if_neg Bool.false_ne_true, placed, Piece.lexemes]
    show (_, _) = _
    have hbehind : p.lexeme.text.foldl placeBehind (behind place (flatten p.lead)) =
        behind place (flatten (p.lead ++ [p.lexeme])) := by
      simp [flatten, behind]
    rw [hbehind, ih _ fun q hq => h q (List.mem_cons_of_mem p hq)]
    rfl

/-! ## Chunks -/

theorem chunks_cons (t : Token) (rest : List Token) :
    ∃ others more, chunks (t :: rest) = (t :: others) :: more := by
  rw [chunks]
  split
  · split
    · exact ⟨_, _, rfl⟩
    · exact ⟨_, _, rfl⟩
  · exact ⟨_, _, rfl⟩

/-- A chunk goes on up to the next token in the first column. -/
theorem chunks_append {t : Token} {ts us : List Token}
    (hts : ∀ v ∈ ts, v.place.column ≠ 0) (hus : ∀ v ∈ us.head?, v.place.column = 0) :
    chunks (t :: ts ++ us) = (t :: ts) :: chunks us := by
  induction ts generalizing t with
  | nil =>
    cases us with
    | nil => rfl
    | cons u us =>
      obtain ⟨others, more, hchunks⟩ := chunks_cons u us
      have hu : u.place.column = 0 := hus u rfl
      rw [List.cons_append, List.nil_append, chunks, hchunks]
      simp only [hu, if_true]
  | cons s ts ih =>
    have hs : s.place.column ≠ 0 := hts s List.mem_cons_self
    have hrest := ih (t := s) fun v hv => hts v (List.mem_cons_of_mem s hv)
    rw [List.cons_append, chunks, hrest]
    simp only [hs, if_false]

/-- The pieces of a chunk: its first lexeme is at the start of a line, and all others are
    not. -/
structure Chunk where
  lead : List Lexeme
  head : Lexeme
  tail : List Piece

namespace Chunk

/-- The pieces of a chunk. -/
def pieces (c : Chunk) : List Piece :=
  ⟨c.lead, c.head⟩ :: c.tail

/-- All pieces of a chunk are proper, and those behind the first one are in a line. -/
structure Proper (c : Chunk) : Prop where
  pieces : ∀ p ∈ c.pieces, p.Proper
  tail : ∀ p ∈ c.tail, p.Inline

/-- A line starts in front of the chunk. -/
def OnNewLine (c : Chunk) : Prop :=
  (flatten c.lead).getLast? = some '\n'

end Chunk

/-- Behind the lexeme of a piece, no line starts. -/
theorem column_behind_piece {p : Piece} (h : p.Proper) (place : Place) :
    (behind place (flatten p.lexemes)).column ≠ 0 := by
  obtain ⟨c, hc, hne⟩ := h.ends
  have hlast : (flatten p.lexemes).getLast? = some c := by
    simp [flatten, Piece.lexemes, hc]
  exact fun h0 => hne ((column_behind hlast).1 h0)

theorem column_placed_inline {ps : List Piece} {place : Place} (hplace : place.column ≠ 0)
    (h : ∀ p ∈ ps, p.Proper ∧ p.Inline) : ∀ t ∈ placed place ps, t.place.column ≠ 0 := by
  induction ps generalizing place with
  | nil => exact fun t ht => absurd ht List.not_mem_nil
  | cons p ps ih =>
    obtain ⟨hproper, hinline⟩ := h p List.mem_cons_self
    rw [placed]
    refine List.forall_mem_cons.2 ⟨?_, ih (column_behind_piece hproper place) fun q hq =>
      h q (List.mem_cons_of_mem p hq)⟩
    show (behind place (flatten p.lead)).column ≠ 0
    cases hlast : (flatten p.lead).getLast? with
    | none =>
      rw [List.getLast?_eq_none_iff.1 hlast]
      exact hplace
    | some c =>
      intro h0
      rw [(column_behind hlast).1 h0] at hlast
      exact hinline hlast

/-- In a chunk, only the first token is in the first column. -/
theorem column_placed_tail {c : Chunk} (hc : c.Proper) (place : Place) :
    ∀ t ∈ placed (behind place (flatten (Piece.lexemes ⟨c.lead, c.head⟩))) c.tail,
      t.place.column ≠ 0 :=
  column_placed_inline (column_behind_piece (hc.pieces _ List.mem_cons_self) place) fun p hp =>
    ⟨hc.pieces p (List.mem_cons_of_mem _ hp), hc.tail p hp⟩

/-- Some tokens are those of a chunk, and start in the first column. -/
def IsChunk (ts : List Token) (c : Chunk) : Prop :=
  ts.map Token.piece = c.pieces ∧ ∀ t ∈ ts.head?, t.place.column = 0

/-- **Chunks of pieces.**  Chunks of pieces, of which all but the first one are on new lines,
    are cut where they meet. -/
theorem chunks_placed {c : Chunk} {cs : List Chunk} (hc : c.Proper)
    (hcs : ∀ d ∈ cs, d.Proper ∧ d.OnNewLine) {place : Place}
    (hstart : (behind place (flatten c.lead)).column = 0) :
    List.Forall₂ IsChunk (chunks (placed place ((c :: cs).flatMap Chunk.pieces))) (c :: cs) := by
  induction cs generalizing c place with
  | nil =>
    have hchunks := @chunks_append ⟨c.head, c.lead, behind place (flatten c.lead)⟩ _
      [] (column_placed_tail hc place) (by simp)
    rw [List.append_nil] at hchunks
    rw [List.flatMap_singleton]
    exact hchunks ▸ .cons ⟨map_piece_placed place c.pieces, by simpa using hstart⟩ .nil
  | cons d ds ih =>
    obtain ⟨hd, hnew⟩ := hcs d List.mem_cons_self
    have hds := fun e he => hcs e (List.mem_cons_of_mem d he)
    have hnext (place : Place) : (behind place (flatten d.lead)).column = 0 :=
      (column_behind hnew).2 rfl
    have hchunks := @chunks_append ⟨c.head, c.lead, behind place (flatten c.lead)⟩ _
      (placed (behind place (flatten (c.pieces.flatMap Piece.lexemes)))
        ((d :: ds).flatMap Chunk.pieces)) (column_placed_tail hc place) (by
          intro v hv
          obtain rfl := Option.some.inj hv
          exact hnext _)
    rw [List.flatMap_cons, placed_append]
    exact hchunks ▸ .cons ⟨map_piece_placed place c.pieces, by simpa using hstart⟩
      (ih hd hds (hnext _))

end ElmAssist.Elm.Plain
