/-
  How text is cut into lexemes.

  `ReadBack ls rest` says that the texts of some lexemes, with more text behind them, are cut
  into just these lexemes again.  Where a lexeme ends can depend on the character behind it.
  Blanks, brackets and commas end all words (`EndsWord`); brackets and commas themselves end
  wherever they stand.
-/
import ElmAssist.Proofs.Elm.Grammar

namespace ElmAssist.Elm.Plain

open Canonical

/-! ## Reading lexemes back -/

/-- The texts of lexemes one after the other. -/
def flatten (ls : List Lexeme) : List Char :=
  ls.flatMap (·.text)

/-- Some lexemes are recovered from their texts in front of `rest`. -/
def ReadBack (ls : List Lexeme) (rest : List Char) : Prop :=
  lexemes (flatten ls ++ rest) = ls ++ lexemes rest

theorem ReadBack.nil (rest : List Char) : ReadBack [] rest :=
  rfl

theorem ReadBack.append {ls ms : List Lexeme} {rest : List Char}
    (h : ReadBack ls (flatten ms ++ rest)) (h' : ReadBack ms rest) : ReadBack (ls ++ ms) rest := by
  unfold ReadBack at *
  rw [flatten, List.flatMap_append, List.append_assoc, List.append_assoc, ← h']
  exact h

theorem ReadBack.cons {l : Lexeme} {ls : List Lexeme} {rest : List Char}
    (h : ReadBack [l] (flatten ls ++ rest)) (h' : ReadBack ls rest) : ReadBack (l :: ls) rest :=
  h.append h'

/-- A lexeme is recovered if it has the shape of the text. -/
theorem ReadBack.of_shape {kind : Kind} {c : Char} {cs rest : List Char}
    (h : shape c (cs ++ rest) = (kind, cs.length)) : ReadBack [⟨kind, c :: cs⟩] rest := by
  show lexemes (c :: cs ++ [] ++ rest) = _
  rw [List.append_nil, List.cons_append, lexemes, h]
  simp

/-! ## Blanks -/

/-- The text behind a blank does not start with another. -/
def EndsBlank (rest : List Char) : Prop :=
  rest.head?.all (!isBlank ·) = true

theorem run_append {p : Char → Bool} {cs rest : List Char} (h : cs.all p = true)
    (hrest : rest.head?.all (!p ·) = true) : run p (cs ++ rest) = cs.length := by
  have hstop : rest.takeWhile p = [] := by
    cases rest with
    | nil => rfl
    | cons c rest =>
      have hc : p c = false := by simpa using hrest
      rw [List.takeWhile_cons, hc]; rfl
  rw [run, List.takeWhile_append_of_pos (List.all_eq_true.1 h), hstop, List.append_nil]

theorem readBack_blank {cs rest : List Char} (hne : cs ≠ []) (h : cs.all isBlank = true)
    (hrest : EndsBlank rest) : ReadBack [⟨.blank, cs⟩] rest := by
  cases cs with
  | nil => exact absurd rfl hne
  | cons c cs =>
    obtain ⟨hc, hcs⟩ : isBlank c = true ∧ cs.all isBlank = true := by simpa using h
    apply ReadBack.of_shape
    rw [shape, if_pos hc, run_append hcs hrest]

/-! ## Words and names -/

/-- The text behind a word starts with a blank, a bracket or a comma. -/
def EndsWord (rest : List Char) : Prop :=
  ∀ c ∈ rest.head?, c ∈ [' ', '\n', '(', ')', ',']

theorem EndsWord.all {rest : List Char} (h : EndsWord rest) {p : Char → Bool}
    (hp : [' ', '\n', '(', ')', ','].all p = true) : rest.head?.all p = true := by
  cases rest with
  | nil => rfl
  | cons c rest => exact List.all_eq_true.1 hp c (h c rfl)

theorem EndsWord.of_blank {rest : List Char} (h : rest.head?.all isBlank = true) :
    EndsWord rest := by
  cases rest with
  | nil => exact nofun
  | cons c rest =>
    have hc : c = ' ' ∨ c = '\n' := by simpa [isBlank] using h
    intro d hd
    obtain rfl := Option.some.inj hd
    rcases hc with rfl | rfl <;> decide

/-- The text behind a name does not continue it. -/
def EndsName (rest : List Char) : Prop :=
  rest.head?.all (fun c => !isWordPart c && c != '.') = true

theorem EndsWord.endsName {rest : List Char} (h : EndsWord rest) : EndsName rest :=
  h.all (by decide)

theorem isLower_toNat {c : Char} : c.isLower = true ↔ 97 ≤ c.toNat ∧ c.toNat ≤ 122 := by
  show (decide (c.val ≥ 97) && decide (c.val ≤ 122)) = true ↔ _
  simp [UInt32.le_iff_toNat_le, ← Char.toNat_val]

theorem isUpper_toNat {c : Char} : c.isUpper = true ↔ 65 ≤ c.toNat ∧ c.toNat ≤ 90 := by
  show decide (c.val ≥ 65 ∧ c.val ≤ 90) = true ↔ _
  simp [UInt32.le_iff_toNat_le, ← Char.toNat_val]

theorem isDigit_toNat {c : Char} : c.isDigit = true ↔ 48 ≤ c.toNat ∧ c.toNat ≤ 57 := by
  show (decide (c.val ≥ 48) && decide (c.val ≤ 57)) = true ↔ _
  simp [UInt32.le_iff_toNat_le, ← Char.toNat_val]

/-- A character that is known by its number is no other one. -/
theorem beq_false_of_toNat {c d : Char} (h : c.toNat ≠ d.toNat) : (c == d) = false :=
  beq_eq_false_iff_ne.2 fun heq => h (congrArg Char.toNat heq)

theorem not_isBlank_of_toNat {c : Char} (h : 32 < c.toNat) : isBlank c = false := by
  rw [isBlank, beq_false_of_toNat (d := ' ') (by simp; omega),
    beq_false_of_toNat (d := '\n') (by simp; omega)]
  rfl

theorem exists_of_isWord {p : Char → Bool} {cs : List Char} (h : isWord p cs = true) :
    ∃ c rest, cs = c :: rest ∧ p c = true ∧ rest.all isWordPart = true := by
  cases cs with
  | nil => cases h
  | cons c cs => exact ⟨c, cs, rfl, by simpa [isWord] using h⟩

/-- A word that may have a meaning of its own. -/
theorem readBack_word {cs rest : List Char} (h : isWord Char.isLower cs = true)
    (hrest : EndsWord rest) : ReadBack [⟨.lower, cs⟩] rest := by
  obtain ⟨c, cs, rfl, hc, hcs⟩ := exists_of_isWord h
  have hblank : isBlank c = false := not_isBlank_of_toNat (by have := isLower_toNat.1 hc; omega)
  apply ReadBack.of_shape
  rw [shape, hblank, if_neg Bool.false_ne_true, if_pos hc, run_append hcs (hrest.all (by decide))]

/-! A dotted name is read part by part: `pathTail` goes on behind each dot. -/

theorem pathTail_wordPart {kind : Kind} {c : Char} {rest : List Char} (h : isWordPart c = true) :
    pathTail kind (c :: rest) = ((pathTail kind rest).1, (pathTail kind rest).2 + 1) := by
  cases rest with
  | nil => simp [pathTail, h]
  | cons d rest => rw [pathTail, if_pos h]

theorem pathTail_word {kind : Kind} {cs rest : List Char} (h : cs.all isWordPart = true) :
    pathTail kind (cs ++ rest) = ((pathTail kind rest).1, (pathTail kind rest).2 + cs.length) := by
  induction cs with
  | nil => rfl
  | cons c cs ih =>
    obtain ⟨hc, hcs⟩ : isWordPart c = true ∧ cs.all isWordPart = true := by simpa using h
    rw [List.cons_append, pathTail_wordPart hc, ih hcs, List.length_cons, Nat.add_assoc]

theorem pathTail_dot {kind : Kind} {d : Char} {rest : List Char} (h : d.isUpper = true) :
    pathTail kind ('.' :: d :: rest) =
      ((pathTail .upperPath rest).1, (pathTail .upperPath rest).2 + 2) := by
  rw [pathTail, if_neg (by decide), if_pos (by simpa using h)]

theorem pathTail_stop {kind : Kind} {rest : List Char} (h : EndsName rest) :
    pathTail kind rest = (kind, 0) := by
  unfold EndsName at h
  match rest with
  | [] => rfl
  | [c] =>
    have hc : isWordPart c = false := by simp_all
    rw [pathTail, hc]; rfl
  | c :: d :: rest =>
    obtain ⟨hc, hdot⟩ : isWordPart c = false ∧ c ≠ '.' := by simpa using h
    have hdot' : (c == '.') = false := beq_eq_false_iff_ne.2 hdot
    rw [pathTail, hc, hdot']
    rfl

/-- The parts of a dotted name behind its first one. -/
theorem pathTail_parts {kind : Kind} (parts : List UpperName) {rest : List Char}
    (h : EndsName rest) :
    pathTail kind (parts.flatMap (fun part => '.' :: part.chars) ++ rest) =
      (if parts = [] then kind else .upperPath,
        (parts.flatMap fun part => '.' :: part.chars).length) := by
  induction parts generalizing kind with
  | nil => exact pathTail_stop h
  | cons part parts ih =>
    obtain ⟨d, ds, hpart, hd, hds⟩ := exists_of_isWord part.isName
    have hkind : (if parts = [] then Kind.upperPath else .upperPath) = .upperPath := by
      split <;> rfl
    rw [List.flatMap_cons, UpperName.chars, hpart, List.cons_append, List.cons_append,
      List.append_assoc, List.cons_append, pathTail_dot hd, pathTail_word hds, ih, hkind,
      if_neg (List.cons_ne_nil _ _)]
    simp only [List.length_cons, List.length_append, Prod.mk.injEq, true_and]
    omega

/-- The lexeme of a dotted name. -/
def nameLexeme (n : DottedName) : Lexeme :=
  ⟨if n.rest = [] then .upper else .upperPath, n.chars⟩

theorem readBack_name (n : DottedName) {rest : List Char} (h : EndsName rest) :
    ReadBack [nameLexeme n] rest := by
  obtain ⟨c, cs, hfirst, hc, hcs⟩ := exists_of_isWord n.first.isName
  have hrange := isUpper_toNat.1 hc
  have hblank : isBlank c = false := not_isBlank_of_toNat (by omega)
  have hlower : c.isLower = false := by
    rw [Bool.eq_false_iff, Ne, isLower_toNat]
    omega
  rw [nameLexeme, DottedName.chars, UpperName.chars, hfirst, List.cons_append]
  apply ReadBack.of_shape
  rw [shape, hblank, hlower, if_neg Bool.false_ne_true, if_neg Bool.false_ne_true, if_pos hc,
    List.append_assoc, pathTail_word hcs, pathTail_parts n.rest h]
  simp [Nat.add_comm]

/-! ## Numbers and symbols -/

theorem not_isLetter_of_isDigit {c : Char} (h : c.isDigit = true) :
    isBlank c = false ∧ c.isLower = false ∧ c.isUpper = false := by
  have hrange := isDigit_toNat.1 h
  refine ⟨not_isBlank_of_toNat (by omega), ?_, ?_⟩
  · rw [Bool.eq_false_iff, Ne, isLower_toNat]
    omega
  · rw [Bool.eq_false_iff, Ne, isUpper_toNat]
    omega

theorem readBack_number (n : Grammar.Number) {rest : List Char} (h : EndsWord rest) :
    ReadBack [⟨.number, n.digits⟩] rest := by
  obtain ⟨digits, hne, hdigits⟩ := n
  cases digits with
  | nil => exact absurd rfl hne
  | cons c cs =>
    obtain ⟨hc, hcs⟩ := List.forall_mem_cons.1 hdigits
    obtain ⟨hblank, hlower, hupper⟩ := not_isLetter_of_isDigit hc
    have hrun : run Char.isDigit (cs ++ rest) = cs.length :=
      run_append (List.all_eq_true.2 hcs) (h.all (by decide))
    have hstop : (rest.head?.any fun c => isWordPart c || c == '.') = false := by
      have hnone : rest.head?.all (fun c => !(isWordPart c || c == '.')) = true := h.all (by decide)
      cases rest with
      | nil => rfl
      | cons d rest => simpa using hnone
    apply ReadBack.of_shape
    rw [shape, hblank, hlower, hupper, if_neg Bool.false_ne_true, if_neg Bool.false_ne_true,
      if_neg Bool.false_ne_true, if_pos hc]
    simp only [hrun, List.drop_left, hstop, Bool.false_eq_true, if_false]

/-- A symbol that is not continued to a longer one. -/
theorem symbolTail_eq {c : Char} {cs rest : List Char} (hlength : cs.length ≤ 2)
    (h : isSymbol (c :: cs) = true)
    (hmore : ∀ more, more ≠ [] → more <+: rest → isSymbol (c :: cs ++ more) = false) :
    symbolTail c (cs ++ rest) = some cs.length := by
  let fits := fun n => ((cs ++ rest).take n).length == n && isSymbol (c :: (cs ++ rest).take n)
  have hfits : fits cs.length = true := by
    simp [fits, h]
  have hlonger : ∀ n, cs.length < n → fits n = false := by
    intro n hn
    have htake : (cs ++ rest).take n = cs ++ rest.take (n - cs.length) := by
      rw [List.take_append, List.take_of_length_le (Nat.le_of_lt hn)]
    cases hrest : rest.take (n - cs.length) with
    | nil =>
      have hshort : ((cs ++ rest).take n).length ≠ n := by
        rw [htake, hrest, List.append_nil]
        omega
      simp only [fits, beq_eq_false_iff_ne.2 hshort, Bool.false_and]
    | cons d ds =>
      have hsymbol := hmore _ (List.cons_ne_nil d ds) (hrest ▸ List.take_prefix _ rest)
      simp only [fits, htake, hrest]
      rw [← List.cons_append, hsymbol, Bool.and_false]
  show [2, 1, 0].find? fits = _
  rcases (by omega : cs.length = 0 ∨ cs.length = 1 ∨ cs.length = 2) with h0 | h1 | h2
  · rw [h0] at hfits hlonger ⊢
    simp [hfits, hlonger]
  · rw [h1] at hfits hlonger ⊢
    simp [hfits, hlonger]
  · rw [h2] at hfits ⊢
    simp [hfits]

theorem exists_of_isSymbol {cs : List Char} (h : isSymbol cs = true) :
    ∃ s ∈ symbols, s.toList = cs :=
  ⟨_, List.contains_iff_mem.1 h, String.toList_ofList⟩

/-- Brackets, commas and double dots are not continued by anything. -/
theorem symbolTail_mark {c : Char} {cs : List Char} (hlength : cs.length ≤ 2)
    (h : isSymbol (c :: cs) = true)
    (honly : (symbols.all fun s => !(c :: cs).isPrefixOf s.toList || s.toList == c :: cs) = true)
    (rest : List Char) : symbolTail c (cs ++ rest) = some cs.length := by
  refine symbolTail_eq hlength h fun more hmore _ => ?_
  rw [Bool.eq_false_iff]
  intro hsymbol
  obtain ⟨s, hs, htext⟩ := exists_of_isSymbol hsymbol
  have hthis := List.all_eq_true.1 honly s hs
  rw [htext, List.isPrefixOf_iff_prefix.2 (List.prefix_append _ _)] at hthis
  have hnil : c :: cs ++ more = c :: cs := by simpa using hthis
  exact hmore (List.append_right_eq_self.1 hnil)

/-- Other signs are not continued by what ends a word. -/
theorem symbolTail_sign {c : Char} {cs rest : List Char} (hlength : cs.length ≤ 2)
    (h : isSymbol (c :: cs) = true) (hrest : EndsWord rest) :
    symbolTail c (cs ++ rest) = some cs.length := by
  refine symbolTail_eq hlength h fun more hmore hprefix => ?_
  rw [Bool.eq_false_iff]
  intro hsymbol
  obtain ⟨s, hs, htext⟩ := exists_of_isSymbol hsymbol
  have hnone : rest.head?.all (fun d => symbols.all fun s => !s.toList.tail.contains d) = true :=
    hrest.all (by decide)
  obtain ⟨tail, rfl⟩ := hprefix
  cases more with
  | nil => exact hmore rfl
  | cons d ds =>
    have hd : (!s.toList.tail.contains d) = true := List.all_eq_true.1 hnone s hs
    rw [htext] at hd
    simp at hd

theorem readBack_bracket {m : Grammar.Mark} (h : Grammar.Word.IsBracket (.mark m))
    (rest : List Char) : ReadBack [⟨.symbol, m.text.toList⟩] rest := by
  cases m with
  | opening | closing | comma =>
    apply ReadBack.of_shape
    show known .symbol (symbolTail _ _) = _
    rw [symbolTail_mark (by decide) (by decide) (by decide)]
    rfl
  | dots | equals | colon | bar | arrow => exact h.elim

theorem readBack_mark (m : Grammar.Mark) {rest : List Char} (hrest : EndsWord rest) :
    ReadBack [⟨.symbol, m.text.toList⟩] rest := by
  cases m
  all_goals
    apply ReadBack.of_shape
    show known .symbol (symbolTail _ _) = _
    rw [symbolTail_sign (by decide) (by decide) hrest]
    rfl

/-! ## Comments -/

/-- What is in a comment is passed over up to the closing sign. -/
theorem commentTail_body {cs : List Char} (rest : List Char) (hopens : ¬ ['\x7b', '-'] <:+: cs)
    (hend : cs.getLast? ≠ some '\x7b') (hcloses : ¬ ['-', '\x7d'] <:+: cs) :
    commentTail (cs ++ '-' :: '\x7d' :: rest) = some (cs.length + 2) := by
  induction cs with
  | nil => rfl
  | cons c cs ih =>
    have htail : ∀ {p : List Char}, ¬ p <:+: c :: cs → ¬ p <:+: cs := fun h hp =>
      h (hp.trans (List.suffix_cons c cs).isInfix)
    have hlast : cs.getLast? ≠ some '\x7b' := by
      cases cs with
      | nil => exact nofun
      | cons d ds => rwa [List.getLast?_cons_cons] at hend
    have hstep : commentTail (c :: (cs ++ '-' :: '\x7d' :: rest)) =
        (commentTail (cs ++ '-' :: '\x7d' :: rest)).map (· + 1) := by
      rw [commentTail]
      · rintro tail rfl htext
        cases cs with
        | nil => exact hend rfl
        | cons d ds =>
          obtain ⟨rfl, -⟩ := List.cons.inj htext
          exact hopens ⟨[], ds, rfl⟩
      · rintro tail rfl htext
        cases cs with
        | nil => cases htext
        | cons d ds =>
          obtain ⟨rfl, -⟩ := List.cons.inj htext
          exact hcloses ⟨[], ds, rfl⟩
    rw [List.cons_append, hstep, ih (htail hopens) hlast (htail hcloses)]
    rfl

theorem readBack_comment (body : Grammar.CommentBody) (rest : List Char) :
    ReadBack [⟨.blockComment, body.written⟩] rest := by
  apply ReadBack.of_shape
  have htail := commentTail_body rest body.opensNone body.opensNoneAtEnd body.closesNone
  show known .blockComment ((commentTail (body.chars ++ ['-', '\x7d'] ++ rest)).map (· + 1)) = _
  rw [List.append_assoc]
  show known .blockComment ((commentTail (body.chars ++ '-' :: '\x7d' :: rest)).map (· + 1)) = _
  rw [htail]
  simp [known]

end ElmAssist.Elm.Plain
