/-
  How written words are cut.

  The lexeme of a word is visible text that ends in front of blanks, brackets and commas (`Solid`).
  Items that are spelled as the grammar asks are recovered from their text (`solid_chunkOf`), and
  so are the blanks and comments in front of them (`exists_isFront`), which makes chunks of items
  recoverable one after the other (`readBack_chunks`).  They only have lexemes that plainly written
  text may have (`common_chunk`), and their comments stand alone (`commentsApart_chunk`).
-/
import ElmAssist.Proofs.Elm.Items

namespace ElmAssist.Elm.Plain

open Canonical Grammar

/-! ## Solid lexemes -/

/-- A lexeme of visible characters, which ends in front of what ends a word. -/
structure Lexeme.Solid (l : Lexeme) : Prop where
  ne_nil : l.text ≠ []
  visible : (l.text.all fun c => isPlainChar c && !isBlank c) = true
  kind : l.kind ∉ [.blank, .lineComment, .blockComment, .stray]
  cut : ∀ rest, EndsWord rest → ReadBack [l] rest

theorem isWordPart_eq (c : Char) :
    isWordPart c = (c.isUpper || c.isLower || c.isDigit || c == '_') := rfl

theorem visible_of_isWordPart {c : Char} (h : isWordPart c = true) :
    (isPlainChar c && !isBlank c) = true := by
  have hrange : 33 ≤ c.toNat ∧ c.toNat ≤ 126 := by
    simp only [isWordPart_eq, Char.isDigit, Bool.or_eq_true, Bool.and_eq_true, decide_eq_true_eq,
      beq_iff_eq] at h
    rcases h with ((h | h) | h) | rfl
    · have := isUpper_toNat.1 h
      omega
    · have := isLower_toNat.1 h
      omega
    · have hlow : 48 ≤ c.val.toNat := h.1
      have hhigh : c.val.toNat ≤ 57 := h.2
      have hnat : c.toNat = c.val.toNat := rfl
      omega
    · decide
  have hsolid : isPlainChar c = true := by
    have hlow : ' ' ≤ c := by
      show (32 : Nat) ≤ c.toNat
      omega
    have hhigh : c ≤ '~' := by
      show c.toNat ≤ 126
      omega
    simp [isPlainChar, hlow, hhigh]
  rw [hsolid, not_isBlank_of_toNat (by omega)]
  rfl

theorem isWordPart_of_isUpper {c : Char} (h : c.isUpper = true) : isWordPart c = true := by
  simp [isWordPart_eq, h]

theorem isWordPart_of_isLower {c : Char} (h : c.isLower = true) : isWordPart c = true := by
  simp [isWordPart_eq, h]

theorem isWordPart_of_isWord {p : Char → Bool} {cs : List Char}
    (hp : ∀ c, p c = true → isWordPart c = true) (h : isWord p cs = true) :
    ∀ c ∈ cs, isWordPart c = true := by
  obtain ⟨c, rest, rfl, hc, hrest⟩ := exists_of_isWord h
  exact List.forall_mem_cons.2 ⟨hp c hc, List.all_eq_true.1 hrest⟩

theorem solid_lower {cs : List Char} (h : isWord Char.isLower cs = true) :
    Lexeme.Solid ⟨.lower, cs⟩ where
  ne_nil := by
    rintro rfl
    cases h
  visible := List.all_eq_true.2 fun c hc =>
    visible_of_isWordPart (isWordPart_of_isWord (fun _ => isWordPart_of_isLower) h c hc)
  kind := by show Kind.lower ∉ _; decide
  cut _ hrest := readBack_word h hrest

theorem solid_name (n : DottedName) : (nameLexeme n).Solid where
  ne_nil := by
    obtain ⟨c, cs, hfirst, -⟩ := exists_of_isWord n.first.isName
    simp [nameLexeme, DottedName.chars, UpperName.chars, hfirst]
  visible := by
    have hpart : ∀ part : UpperName, ∀ c ∈ part.chars, (isPlainChar c && !isBlank c) = true :=
      fun part c hc => visible_of_isWordPart
        (isWordPart_of_isWord (fun _ => isWordPart_of_isUpper) part.isName c hc)
    refine List.all_eq_true.2 fun c hc => ?_
    rcases List.mem_append.1 hc with hc | hc
    · exact hpart n.first c hc
    · obtain ⟨part, -, hc⟩ := List.mem_flatMap.1 hc
      rcases List.mem_cons.1 hc with rfl | hc
      · decide
      · exact hpart part c hc
  kind := by
    show (if n.rest = [] then Kind.upper else .upperPath) ∉ _
    split <;> decide
  cut _ hrest := readBack_name n hrest.endsName

theorem solid_mark (m : Mark) : (symbolLexeme m.text).Solid where
  ne_nil := by cases m <;> decide
  visible := by cases m <;> decide
  kind := by show Kind.symbol ∉ _; decide
  cut _ hrest := readBack_mark m hrest

theorem solid_number (n : Number) : Lexeme.Solid ⟨.number, n.digits⟩ where
  ne_nil := n.isSome
  visible := List.all_eq_true.2 fun c hc =>
    visible_of_isWordPart (by simp [isWordPart_eq, n.isNumber c hc])
  kind := by show Kind.number ∉ _; decide
  cut _ hrest := readBack_number n hrest

theorem solid_lexemeOf (w : Word) : (lexemeOf w).Solid := by
  cases w with
  | keyword w => exact solid_lower (by cases w <;> decide)
  | mark m => exact solid_mark m
  | lower name => exact solid_lower name.isName
  | upper name => exact solid_name name
  | number n => exact solid_number n

namespace Lexeme.Solid

variable {l : Lexeme}

theorem endsBlank (h : l.Solid) (rest : List Char) : EndsBlank (l.text ++ rest) := by
  cases htext : l.text with
  | nil => exact absurd htext h.ne_nil
  | cons c cs =>
    have hvisible := h.visible
    rw [htext] at hvisible
    have hc : isBlank c = false := by simp at hvisible; exact hvisible.1.2
    simp [EndsBlank, hc]

theorem getLast (h : l.Solid) : ∃ c, l.text.getLast? = some c ∧ c ≠ '\n' := by
  cases hlast : l.text.getLast? with
  | none => exact absurd (List.getLast?_eq_none_iff.1 hlast) h.ne_nil
  | some c =>
    refine ⟨c, rfl, ?_⟩
    rintro rfl
    have hvisible := List.all_eq_true.1 h.visible _ (List.mem_of_getLast? hlast)
    exact absurd hvisible (by decide)

theorem isComment (h : l.Solid) : l.isComment = false := by
  obtain ⟨-, hline, hblock, -⟩ : l.kind ≠ .blank ∧ l.kind ≠ .lineComment ∧
      l.kind ≠ .blockComment ∧ l.kind ≠ .stray := by simpa using h.kind
  rw [Lexeme.isComment, beq_eq_false_iff_ne.2 hblock, beq_eq_false_iff_ne.2 hline]
  rfl

theorem isTrivia (h : l.Solid) : l.isTrivia = false := by
  have hblank : l.kind ≠ .blank := fun hkind => h.kind (by simp [hkind])
  rw [Lexeme.isTrivia, h.isComment, beq_eq_false_iff_ne.2 hblank]
  rfl

end Lexeme.Solid

/-! ## Blanks -/

theorem all_isBlank {cs : List Char} (h : IsBlank cs) : cs.all isBlank = true :=
  List.all_eq_true.2 fun c hc => by rcases h c hc with rfl | rfl <;> rfl

/-- Blanks, if there are some, are followed by no others. -/
theorem readBack_leadOf {gap rest : List Char} (h : IsBlank gap) (hrest : EndsBlank rest) :
    ReadBack (leadOf gap) rest := by
  rw [leadOf]
  split
  · exact .nil rest
  · next hne => exact readBack_blank hne (all_isBlank h) hrest

theorem mem_leadOf {gap : List Char} {l : Lexeme} (h : l ∈ leadOf gap) : l = ⟨.blank, gap⟩ := by
  rw [leadOf] at h
  split at h
  · cases h
  · exact List.mem_singleton.1 h

theorem leadOf_isTrivia (gap : List Char) : ∀ l ∈ leadOf gap, l.isTrivia = true :=
  fun l hl => by rw [mem_leadOf hl]; rfl

theorem leadOf_isComment (gap : List Char) : ∀ l ∈ leadOf gap, l.isComment = false :=
  fun l hl => by rw [mem_leadOf hl]; rfl

theorem commentsOf_leadOf (gap : List Char) : commentsOf (leadOf gap) = [] := by
  rw [leadOf]
  split <;> rfl

/-- What starts with blanks, or ends, in front of what is blank at its start. -/
theorem head_isBlank {gap rest : List Char} (h : IsBlank gap)
    (hrest : rest.head?.all isBlank = true) : (gap ++ rest).head?.all isBlank = true := by
  cases gap with
  | nil => exact hrest
  | cons c gap => rcases h c List.mem_cons_self with rfl | rfl <;> rfl

/-! ## Pieces of items -/

/-- A solid lexeme in a line, or on an indented one. -/
structure Piece.Solid (p : Piece) : Prop where
  lead : ∃ gap, IsGap gap ∧ p.lead = leadOf gap
  lexeme : p.lexeme.Solid

namespace Piece.Solid

variable {p : Piece}

theorem proper (h : p.Solid) : p.Proper where
  lead := by
    obtain ⟨gap, -, hlead⟩ := h.lead
    exact hlead ▸ leadOf_isTrivia gap
  lexeme := h.lexeme.isTrivia
  ends := h.lexeme.getLast

theorem inline (h : p.Solid) : p.Inline := by
  obtain ⟨gap, hgap, hlead⟩ := h.lead
  rw [Piece.Inline, hlead, flatten_leadOf]
  exact hgap.stays

theorem comments (h : p.Solid) : commentsOf p.lead = [] := by
  obtain ⟨gap, -, hlead⟩ := h.lead
  rw [hlead, commentsOf_leadOf]

end Piece.Solid

/-- The lexemes of some pieces. -/
def lexemesOf (ps : List Piece) : List Lexeme :=
  ps.flatMap Piece.lexemes

theorem flatten_append (ls ms : List Lexeme) : flatten (ls ++ ms) = flatten ls ++ flatten ms :=
  List.flatMap_append

theorem lexemesOf_cons (p : Piece) (ps : List Piece) :
    lexemesOf (p :: ps) = p.lexemes ++ lexemesOf ps :=
  List.flatMap_cons

theorem flatten_piecesOf (ws : List Spaced) :
    flatten (lexemesOf (piecesOf ws)) = ws.flatMap Spaced.chars := by
  induction ws with
  | nil => rfl
  | cons w ws ih =>
    have hpiece : flatten (pieceOf w).lexemes = w.chars := by
      rw [Piece.lexemes, flatten_append, pieceOf, flatten_leadOf, Spaced.chars, ← text_lexemeOf]
      simp [flatten]
    rw [piecesOf, List.map_cons, lexemesOf_cons, flatten_append, hpiece, List.flatMap_cons, ← ih,
      piecesOf]

theorem solid_piecesOf {w : Word} {ws : List Spaced} (h : Spelled w ws) :
    ∀ p ∈ piecesOf ws, p.Solid := by
  induction h with
  | nil w => exact nofun
  | @cons w s rest gap _ _ ih =>
    exact List.forall_mem_cons.2 ⟨⟨⟨s.gap, gap, rfl⟩, solid_lexemeOf s.word⟩, ih⟩

/-- The lexeme of a word ends where the next one starts. -/
theorem readBack_touch {w v : Word} {gap : List Char} (hblank : IsBlank gap)
    (htouch : gap = [] → w.IsBracket ∨ v.IsBracket) (rest : List Char) :
    ReadBack [lexemeOf w] (gap ++ (v.chars ++ rest)) := by
  by_cases hgap : gap = []
  · rcases htouch hgap with hw | hv
    · cases w with
      | mark m => exact readBack_bracket hw _
      | keyword | lower | upper | number => exact hw.elim
    · refine (solid_lexemeOf w).cut _ ?_
      rw [hgap, List.nil_append]
      cases v with
      | mark m => cases m <;> first | exact hv.elim | simp [EndsWord, Word.chars, Mark.text]
      | keyword | lower | upper | number => exact hv.elim
  · refine (solid_lexemeOf w).cut _ (EndsWord.of_blank ?_)
    cases gap with
    | nil => exact absurd rfl hgap
    | cons c gap => rcases hblank c List.mem_cons_self with rfl | rfl <;> rfl

/-- **Spelled words are recovered** in front of blanks. -/
theorem readBack_spelled {w : Word} {ws : List Spaced} (h : Spelled w ws) {rest : List Char}
    (hrest : rest.head?.all isBlank = true) :
    ReadBack (lexemeOf w :: lexemesOf (piecesOf ws)) rest := by
  induction h with
  | nil w => exact (solid_lexemeOf w).cut rest (.of_blank hrest)
  | @cons w s ws gap touch _ ih =>
    have htext : flatten (lexemesOf (piecesOf (s :: ws))) ++ rest =
        s.gap ++ (s.word.chars ++ (ws.flatMap Spaced.chars ++ rest)) := by
      rw [flatten_piecesOf, List.flatMap_cons, Spaced.chars]
      simp only [List.append_assoc]
    have hfirst : ReadBack [lexemeOf w] (flatten (lexemesOf (piecesOf (s :: ws))) ++ rest) :=
      htext ▸ readBack_touch gap.isBlank touch _
    have hpiece : lexemesOf (piecesOf (s :: ws)) =
        leadOf s.gap ++ (lexemeOf s.word :: lexemesOf (piecesOf ws)) := by
      rw [piecesOf, List.map_cons, lexemesOf_cons, Piece.lexemes, List.append_assoc]
      rfl
    refine .cons hfirst (hpiece ▸ .append (readBack_leadOf gap.isBlank ?_) ih)
    rw [flatten, List.flatMap_cons, List.append_assoc]
    exact (solid_lexemeOf s.word).endsBlank _

/-! ## Comments -/

/-- Comments stand alone, whether a line starts in front of the lexemes or not, if they do
    in what is behind. -/
def CommentsApart (ls : List Lexeme) : Prop :=
  ∀ rest, (∀ fresh, commentsAlone fresh rest = true) → ∀ fresh, commentsAlone fresh (ls ++ rest) = true

theorem CommentsApart.append {ls ms : List Lexeme} (h : CommentsApart ls) (h' : CommentsApart ms) :
    CommentsApart (ls ++ ms) := fun rest hrest fresh => by
  rw [List.append_assoc]
  exact h _ (h' rest hrest) fresh

theorem commentsApart_of_none {ls : List Lexeme} (h : ∀ l ∈ ls, l.isComment = false) :
    CommentsApart ls := by
  induction ls with
  | nil => exact fun rest hrest => hrest
  | cons l ls ih =>
    intro rest hrest fresh
    rw [List.cons_append, commentsAlone, h l List.mem_cons_self]
    exact ih (fun m hm => h m (List.mem_cons_of_mem l hm)) rest hrest _

theorem isCommon_of_plain {l : Lexeme} (h : (l.text.all isPlainChar) = true) : l.isCommon = true :=
  List.all_eq_true.2 fun c hc => by rw [List.all_eq_true.1 h c hc]; rfl

theorem isPlainChar_of_isBlank {cs : List Char} (h : cs.all isBlank = true) :
    cs.all isPlainChar = true :=
  List.all_eq_true.2 fun c hc => by
    have hblank := List.all_eq_true.1 h c hc
    have hc : c = ' ' ∨ c = '\n' := by simpa [isBlank] using hblank
    rcases hc with rfl | rfl <;> decide

theorem common_blank {cs : List Char} (h : cs.all isBlank = true) :
    (Lexeme.isCommon ⟨.blank, cs⟩ && (Kind.blank != .stray)) = true := by
  rw [isCommon_of_plain (isPlainChar_of_isBlank h)]
  rfl

theorem Lexeme.Solid.common {l : Lexeme} (h : l.Solid) :
    (l.isCommon && l.kind != .stray) = true := by
  have hplain : l.text.all isPlainChar = true := List.all_eq_true.2 fun c hc => by
    have hvisible := List.all_eq_true.1 h.visible c hc
    simp only [Bool.and_eq_true] at hvisible
    exact hvisible.1
  have hstray : l.kind ≠ .stray := fun hkind => h.kind (by simp [hkind])
  rw [isCommon_of_plain hplain, bne_iff_ne.2 hstray]
  rfl

theorem common_comment (body : CommentBody) :
    (Lexeme.isCommon ⟨.blockComment, body.written⟩ && (Kind.blockComment != .stray)) = true := by
  have hnul : ∀ c ∈ body.written, (c.toNat != 0) = true := by
    intro c hc
    rcases (by simpa [CommentBody.written] using hc :
      c = '\x7b' ∨ c = '-' ∨ c ∈ body.chars ∨ c = '-' ∨ c = '\x7d') with rfl | rfl | hc | rfl | rfl
    · decide
    · decide
    · exact bne_iff_ne.2 (body.hasNoNul c hc)
    · decide
    · decide
  rw [Bool.and_eq_true]
  refine ⟨List.all_eq_true.2 fun c hc => ?_, rfl⟩
  rw [hnul c hc]
  simp

/-- The lexemes of blanks and comments in front of an item. -/
structure IsFront (ls : List Lexeme) (cs : List Char) (comments : List Comment) : Prop where
  text : flatten ls = cs
  cut : ∀ rest, EndsBlank rest → ReadBack ls rest
  common : ∀ l ∈ ls, (l.isCommon && l.kind != .stray) = true
  isTrivia : ∀ l ∈ ls, l.isTrivia = true
  apart : CommentsApart ls
  comments : commentsOf ls = comments
  starts : ∃ feeds more, feeds ≠ [] ∧ IsBlank feeds ∧ ls = ⟨.blank, feeds⟩ :: more
  ends : cs.getLast? = some '\n'

theorem ne_nil_of_isBreak {cs : List Char} (h : IsBreak cs) : cs ≠ [] := by
  rintro rfl
  exact nomatch h.ends

theorem isFront_blanks {cs : List Char} (h : IsBreak cs) : IsFront [⟨.blank, cs⟩] cs [] where
  text := List.append_nil cs
  cut _ hrest := readBack_blank (ne_nil_of_isBreak h) (all_isBlank h.isBlank) hrest
  common := by simpa using common_blank (all_isBlank h.isBlank)
  isTrivia := by simp [Lexeme.isTrivia]
  apart := commentsApart_of_none (by simp [Lexeme.isComment])
  comments := rfl
  starts := ⟨cs, [], ne_nil_of_isBreak h, h.isBlank, rfl⟩
  ends := h.ends

/-- Another comment in front: it starts a line of its own, and ends one. -/
theorem isFront_comment {cs rest : List Char} {comments : List Comment} {ls : List Lexeme}
    (body : CommentBody) (h : IsBreak cs) (hrest : rest.head? = some '\n')
    (hls : IsFront ls rest comments) :
    IsFront (⟨.blank, cs⟩ :: ⟨.blockComment, body.written⟩ :: ls) (cs ++ body.written ++ rest)
      (body.comment :: comments) where
  text := by simp [flatten, ← hls.text]
  cut more hmore := by
    refine .cons (readBack_blank (ne_nil_of_isBreak h) (all_isBlank h.isBlank) ?_)
      (.cons (readBack_comment body _) (hls.cut more hmore))
    show EndsBlank ('\x7b' :: _)
    rfl
  common := List.forall_mem_cons.2 ⟨common_blank (all_isBlank h.isBlank),
    List.forall_mem_cons.2 ⟨common_comment body, hls.common⟩⟩
  isTrivia := List.forall_mem_cons.2 ⟨rfl, List.forall_mem_cons.2 ⟨rfl, hls.isTrivia⟩⟩
  apart more hmore fresh := by
    obtain ⟨feeds, others, hfeeds, -, rfl⟩ := hls.starts
    have hfirst : feeds.head? = some '\n' := by
      have htext := hls.text
      rw [flatten, List.flatMap_cons] at htext
      rwa [← htext, List.head?_append_of_ne_nil _ hfeeds] at hrest
    have hnext : feeds.head? == some '\n' := by rw [hfirst]; rfl
    have hfresh : (cs.getLast? == some '\n') = true := by rw [h.ends]; rfl
    have hbehind := hls.apart more hmore
    rw [List.cons_append, commentsAlone, List.cons_append, commentsAlone, hfresh, hbehind]
    simp only [List.cons_append, List.head?_cons, Option.all_some, hnext]
    rfl
  comments := by
    rw [← hls.comments]
    rfl
  starts := ⟨cs, _, ne_nil_of_isBreak h, h.isBlank, rfl⟩
  ends := by rw [List.getLast?_append, hls.ends]; rfl

/-- **What stands in front of an item is recovered.** -/
theorem exists_isFront {cs : List Char} {comments : List Comment} (h : Front cs comments) :
    ∃ ls, IsFront ls cs comments := by
  induction h with
  | blanks h => exact ⟨_, isFront_blanks h⟩
  | comment body h hrest _ ih =>
    obtain ⟨ls, hls⟩ := ih
    exact ⟨_, isFront_comment body h hrest hls⟩

/-! ## Chunks -/

/-- A chunk of solid pieces that are recovered from their text in front of blanks. -/
structure Chunk.Solid (c : Chunk) : Prop where
  head : c.head.Solid
  tail : ∀ p ∈ c.tail, p.Solid
  cut : ∀ rest, rest.head?.all isBlank = true → ReadBack (c.head :: lexemesOf c.tail) rest

/-- **Items are recovered** from their text. -/
theorem solid_chunkOf (lead : List Lexeme) {i : Item} (h : Spelled i.head i.tail) :
    (chunkOf lead i).Solid where
  head := solid_lexemeOf i.head
  tail := solid_piecesOf h
  cut _ hrest := readBack_spelled h hrest

namespace Chunk

/-- The lexemes of a chunk. -/
def lexemes (c : Chunk) : List Lexeme :=
  lexemesOf c.pieces

/-- A chunk behind blanks and comments. -/
def Led (c : Chunk) : Prop :=
  ∃ cs comments, IsFront c.lead cs comments

theorem lexemes_eq (c : Chunk) : c.lexemes = c.lead ++ (c.head :: lexemesOf c.tail) := by
  rw [lexemes, pieces, lexemesOf_cons, Piece.lexemes, List.append_assoc]
  rfl

end Chunk

theorem flatten_chunkOf (lead : List Lexeme) (i : Item) :
    flatten (chunkOf lead i).lexemes = flatten lead ++ i.chars := by
  have htail : flatten (lexemeOf i.head :: lexemesOf (piecesOf i.tail)) = i.chars := by
    rw [flatten, List.flatMap_cons, ← flatten, flatten_piecesOf, text_lexemeOf, Item.chars]
  rw [Chunk.lexemes_eq, flatten_append]
  exact congrArg (flatten lead ++ ·) htail

/-- A chunk starts with a blank. -/
theorem head_chunk {c : Chunk} (h : c.Led) (rest : List Char) :
    (flatten c.lexemes ++ rest).head?.all isBlank = true := by
  obtain ⟨cs, comments, hfront⟩ := h
  obtain ⟨feeds, more, hne, hblank, hlead⟩ := hfront.starts
  rw [Chunk.lexemes_eq, hlead, List.cons_append, flatten, List.flatMap_cons, List.append_assoc]
  cases feeds with
  | nil => exact absurd rfl hne
  | cons c feeds => rcases hblank c List.mem_cons_self with rfl | rfl <;> rfl

/-- Chunks behind blanks and comments are recovered. -/
theorem readBack_chunks {cs : List Chunk} (h : ∀ c ∈ cs, c.Solid ∧ c.Led) {rest : List Char}
    (hrest : rest.head?.all isBlank = true) :
    ReadBack (cs.flatMap Chunk.lexemes) rest ∧
      (flatten (cs.flatMap Chunk.lexemes) ++ rest).head?.all isBlank = true := by
  induction cs with
  | nil => exact ⟨.nil rest, hrest⟩
  | cons c cs ih =>
    obtain ⟨hsolid, hled⟩ := h c List.mem_cons_self
    obtain ⟨hback, hnext⟩ := ih fun d hd => h d (List.mem_cons_of_mem c hd)
    rw [List.flatMap_cons]
    refine ⟨.append ?_ hback, ?_⟩
    · obtain ⟨front, comments, hfront⟩ := hled
      rw [Chunk.lexemes_eq]
      refine .append (hfront.cut _ ?_) (hsolid.cut _ hnext)
      rw [flatten, List.flatMap_cons, List.append_assoc]
      exact hsolid.head.endsBlank _
    · rw [flatten_append, List.append_assoc]
      exact head_chunk hled _

/-- The lexemes of solid pieces are common, and none is a comment. -/
theorem common_pieces {ps : List Piece} (h : ∀ p ∈ ps, p.Solid) :
    ∀ l ∈ lexemesOf ps, (l.isCommon && l.kind != .stray) = true ∧ l.isComment = false := by
  intro l hl
  obtain ⟨p, hp, hl⟩ := List.mem_flatMap.1 hl
  have hsolid := h p hp
  rcases List.mem_append.1 hl with hl | hl
  · obtain ⟨gap, hgap, hlead⟩ := hsolid.lead
    rw [hlead] at hl
    rw [mem_leadOf hl]
    exact ⟨common_blank (all_isBlank hgap.isBlank), rfl⟩
  · obtain rfl := List.mem_singleton.1 hl
    exact ⟨hsolid.lexeme.common, hsolid.lexeme.isComment⟩

theorem common_chunk {c : Chunk} (hsolid : c.Solid) (hled : c.Led) :
    ∀ l ∈ c.lexemes, (l.isCommon && l.kind != .stray) = true := by
  obtain ⟨cs, comments, hfront⟩ := hled
  rw [Chunk.lexemes_eq]
  exact List.forall_mem_append.2 ⟨hfront.common, List.forall_mem_cons.2 ⟨hsolid.head.common,
    fun l hl => (common_pieces hsolid.tail l hl).1⟩⟩

theorem commentsApart_chunk {c : Chunk} (hsolid : c.Solid) (hled : c.Led) :
    CommentsApart c.lexemes := by
  obtain ⟨cs, comments, hfront⟩ := hled
  rw [Chunk.lexemes_eq]
  refine hfront.apart.append (commentsApart_of_none ?_)
  exact List.forall_mem_cons.2 ⟨hsolid.head.isComment, fun l hl => (common_pieces hsolid.tail l hl).2⟩

/-! ## Tokens -/

theorem Chunk.Solid.proper {c : Chunk} (h : c.Solid) (hlead : ∀ l ∈ c.lead, l.isTrivia = true) :
    c.Proper where
  pieces := List.forall_mem_cons.2 ⟨⟨hlead, h.head.isTrivia, h.head.getLast⟩,
    fun p hp => (h.tail p hp).proper⟩
  tail p hp := (h.tail p hp).inline

theorem Chunk.Led.onNewLine {c : Chunk} (h : c.Led) : c.OnNewLine := by
  obtain ⟨cs, comments, hfront⟩ := h
  rw [Chunk.OnNewLine, hfront.text, hfront.ends]

theorem Chunk.Led.isTrivia {c : Chunk} (h : c.Led) : ∀ l ∈ c.lead, l.isTrivia = true := by
  obtain ⟨cs, comments, hfront⟩ := h
  exact hfront.isTrivia

end ElmAssist.Elm.Plain
