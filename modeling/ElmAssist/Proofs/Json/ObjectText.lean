/-
  Reading the text of an object.

  A reader takes a value off the front of a text and leaves the rest alone, so that a text is read
  in the same way where more text follows (`extends_read`).  The one exception is a number, which
  may go on in the text that follows (`Ends`).  Hence an object whose members are written one
  after the other has these members (`MemberText.read?_object`).
-/
import ElmAssist.Json.Reader
import Mathlib.Data.List.Basic
import Mathlib.Data.Option.Basic

namespace ElmAssist.Json

variable {α : Type} {bs t : Bytes}

/-- What one reader reads in a text, the other reads where more text follows.  If nothing was left,
    the text that follows has to end what was read. -/
def Extends (ends : Bytes → Prop) (r r' : Bytes → Option (α × Bytes)) : Prop :=
  ∀ ⦃bs v rest t⦄, r bs = some (v, rest) → (rest = [] → ends t) → r' (bs ++ t) = some (v, rest ++ t)

/-- A text behind a number that does not go on with it. -/
def Ends (t : Bytes) : Prop :=
  ∀ b ∈ t.head?, isDigit b = false ∧ b ≠ byte '.' ∧ b ≠ byte 'e' ∧ b ≠ byte 'E'

theorem skipSpace_append {b : UInt8} {rest : Bytes} (h : skipSpace bs = b :: rest) (t : Bytes) :
    skipSpace (bs ++ t) = b :: (rest ++ t) := by
  rw [skipSpace, List.dropWhile_append, ← skipSpace, h]
  rfl

/-! ## Readers -/

namespace Extends

variable {β : Type} {ends : Bytes → Prop} {r r' s s' : Bytes → Option (α × Bytes)}

theorem map (h : Extends ends r r') (f : α → β) :
    Extends ends (fun bs => (r bs).map fun (v, rest) => (f v, rest))
      (fun bs => (r' bs).map fun (v, rest) => (f v, rest)) := by
  intro bs v rest t hv hends
  obtain ⟨⟨v, rest⟩, hread, heq⟩ := Option.map_eq_some_iff.1 hv
  cases heq
  simp only [h hread hends, Option.map_some]

/-- One reader behind another, which needs something to read. -/
theorem bind {q q' : α → Bytes → Option (β × Bytes)} (h : Extends ends r r')
    (hq : ∀ a, Extends ends (q a) (q' a)) (hnil : ∀ a, q a [] = none) :
    Extends ends (fun bs => (r bs).bind fun p => q p.1 p.2)
      (fun bs => (r' bs).bind fun p => q' p.1 p.2) := by
  intro bs v rest t hv hends
  obtain ⟨⟨a, behind⟩, ha, hv⟩ := Option.bind_eq_some_iff.1 hv
  have hne : behind = [] → ends t := by
    rintro rfl
    simp [hnil] at hv
  simp only [h ha hne, Option.bind_some]
  exact hq a hv hends

/-- A choice that has been made. -/
theorem ite {c : Prop} [Decidable c] (h : Extends ends r r') (hs : Extends ends s s') :
    Extends ends (fun bs => if c then r bs else s bs) (fun bs => if c then r' bs else s' bs) := by
  by_cases hc : c
  · simpa only [if_pos hc] using h
  · simpa only [if_neg hc] using hs

theorem done (v : α) : Extends ends (fun bs => some (v, bs)) (fun bs => some (v, bs)) := by
  intro bs v' rest t hv _
  cases hv
  rfl

theorem none : Extends ends (fun _ => Option.none) r' :=
  nofun

/-- The first byte behind the blanks tells how to go on. -/
theorem next {q q' : UInt8 → Bytes → Option (α × Bytes)} (h : ∀ b, Extends ends (q b) (q' b)) :
    Extends ends (fun bs => match skipSpace bs with | [] => Option.none | b :: rest => q b rest)
      (fun bs => match skipSpace bs with | [] => Option.none | b :: rest => q' b rest) := by
  intro bs v rest t hv hends
  cases hbs : skipSpace bs with
  | nil => simp [hbs] at hv
  | cons b behind =>
    simp only [hbs, skipSpace_append hbs] at hv ⊢
    exact h b hv hends

/-- The byte that told is read once more. -/
theorem cons (h : Extends ends r r') (b : UInt8) :
    Extends ends (fun rest => r (b :: rest)) (fun rest => r' (b :: rest)) :=
  fun _ _ _ _ hv hends => h hv hends

end Extends

/-! ## Strings -/

theorem stringBody_append {l : Literal} {s : Option String} {rest : Bytes}
    (h : stringBody l bs = some (s, rest)) (t : Bytes) :
    stringBody l (bs ++ t) = some (s, rest ++ t) := by
  fun_induction stringBody l bs with
  | case1 => cases h
  | case2 =>
    rw [stringBody.eq_def]
    simp_all
  | case3 l b hb hslash e he h₁ h₂ h₃ h₄ bs ih =>
    simp only [bind, Option.bind_eq_some_iff] at h
    obtain ⟨d₁, hd₁, d₂, hd₂, d₃, hd₃, d₄, hd₄, h⟩ := h
    rw [stringBody.eq_def]
    simp_all
  | case4 => cases h
  | case5 l b hb hslash e bs he ih =>
    simp only [bind, Option.bind_eq_some_iff] at h
    obtain ⟨c, hc, h⟩ := h
    rw [stringBody.eq_def]
    simp_all
  | case6 => cases h
  | case7 => cases h
  | case8 =>
    rw [stringBody.eq_def]
    simp_all

theorem extends_stringBody {ends : Bytes → Prop} (l : Literal) :
    Extends ends (stringBody l) (stringBody l) :=
  fun _ _ _ t h _ => stringBody_append h t

/-! ## Numbers -/

/-- Digits end where they do, or in front of the text that follows. -/
theorem digits_append (h : bs.dropWhile isDigit = [] → Ends t) :
    (bs ++ t).takeWhile isDigit = bs.takeWhile isDigit ∧
      (bs ++ t).dropWhile isDigit = bs.dropWhile isDigit ++ t := by
  induction bs with
  | nil =>
    cases t with
    | nil => exact ⟨rfl, rfl⟩
    | cons b t =>
      have hb : isDigit b = false := (h rfl b rfl).1
      simp [hb]
  | cons b bs ih =>
    cases hb : isDigit b with
    | false => simp [hb]
    | true =>
      rw [List.dropWhile_cons_of_pos hb] at h
      simp [hb, ih h]

theorem extends_fraction? : Extends Ends fraction? fraction? := by
  intro bs ds rest t h hends
  cases bs with
  | nil =>
    cases h
    cases t with
    | nil => rfl
    | cons b t => simp [fraction?, (hends rfl b rfl).2.1]
  | cons b bs =>
    simp only [fraction?, List.cons_append] at h ⊢
    by_cases hpoint : (b == byte '.') = true
    · rw [if_pos hpoint] at h ⊢
      obtain ⟨hne, h⟩ := Option.ite_none_left_eq_some.1 h
      cases h
      rw [(digits_append hends).1, (digits_append hends).2, if_neg hne]
    · rw [if_neg hpoint] at h ⊢
      cases h
      rfl

/-- An exponent behind its mark is digits behind a sign, if there is one. -/
theorem exponentBody?_cons (b : UInt8) (bs : Bytes) :
    exponentBody? (b :: bs) =
      let digits := if b == byte '+' || b == byte '-' then bs else b :: bs
      let ds := digits.takeWhile isDigit
      if ds.isEmpty then none else some ((b == byte '-', ds), digits.dropWhile isDigit) :=
  rfl

theorem extends_exponentBody? : Extends Ends exponentBody? exponentBody? := by
  intro bs e rest t h hends
  cases bs with
  | nil => cases h
  | cons b bs =>
    rw [List.cons_append, exponentBody?_cons]
    rw [exponentBody?_cons] at h
    have hdigits : (if b == byte '+' || b == byte '-' then bs ++ t else b :: (bs ++ t)) =
        (if b == byte '+' || b == byte '-' then bs else b :: bs) ++ t := by
      split <;> rfl
    simp only [hdigits]
    obtain ⟨hne, h⟩ := Option.ite_none_left_eq_some.1 h
    cases h
    rw [(digits_append hends).1, (digits_append hends).2, if_neg hne]

theorem extends_exponent? : Extends Ends exponent? exponent? := by
  intro bs e rest t h hends
  cases bs with
  | nil =>
    cases h
    cases t with
    | nil => rfl
    | cons b t => simp [exponent?, (hends rfl b rfl).2.2]
  | cons b bs =>
    simp only [exponent?, List.cons_append] at h ⊢
    by_cases hmark : (b == byte 'e' || b == byte 'E') = true
    · rw [if_pos hmark] at h ⊢
      obtain ⟨⟨e, rest⟩, he, heq⟩ := Option.map_eq_some_iff.1 h
      cases heq
      rw [extends_exponentBody? he hends]
      rfl
    · rw [if_neg hmark] at h ⊢
      cases h
      rfl

/-- The bytes of a number behind its sign. -/
def unsigned : Bytes → Bytes
  | [] => []
  | b :: bs => if b == byte '-' then bs else b :: bs

theorem unsigned_append (hne : bs ≠ []) : unsigned (bs ++ t) = unsigned bs ++ t := by
  cases bs with
  | nil => exact absurd rfl hne
  | cons b bs =>
    simp only [List.cons_append, unsigned]
    split <;> rfl

/-- A number is digits, a fraction and an exponent. -/
theorem number?_eq_some_iff {n : NumberText} {rest : Bytes} :
    number? bs = some (n, rest) ↔
      n.negative = (bs.head? == some (byte '-')) ∧ n.whole = (unsigned bs).takeWhile isDigit ∧
      (!n.whole.isEmpty && (n.whole.length == 1 || n.whole.head? != some (byte '0'))) = true ∧
      ∃ behind, fraction? ((unsigned bs).dropWhile isDigit) = some (n.fraction, behind) ∧
        exponent? behind = some (n.exponent, rest) := by
  have hunsigned : (if bs.head? == some (byte '-') then bs.tail else bs) = unsigned bs := by
    cases bs <;> rfl
  obtain ⟨negative, whole, fraction, exponent⟩ := n
  simp only [number?, hunsigned, bind, Option.bind_eq_some_iff, pure]
  constructor
  · rintro ⟨_, hguard, ⟨ds, behind⟩, hfraction, ⟨e, rest'⟩, hexponent, heq⟩
    cases heq
    exact ⟨rfl, rfl, (Option.ite_none_right_eq_some.1 hguard).1, behind, hfraction, hexponent⟩
  · rintro ⟨rfl, rfl, hguard, behind, hfraction, hexponent⟩
    exact ⟨(), Option.ite_none_right_eq_some.2 ⟨hguard, rfl⟩, _, hfraction, _, hexponent, rfl⟩

theorem extends_number? : Extends Ends number? number? := by
  intro bs n rest t h hends
  obtain ⟨hnegative, hwhole, hguard, behind, hfraction, hexponent⟩ := number?_eq_some_iff.1 h
  have hne : bs ≠ [] := by
    rintro rfl
    simp [hwhole, unsigned] at hguard
  -- What is left in the end is empty where a part in between leaves nothing.
  have hbehind : behind = [] → Ends t := by
    rintro rfl
    exact hends (Prod.ext_iff.1 (Option.some.inj hexponent)).2.symm
  have hdigits : (unsigned bs).dropWhile isDigit = [] → Ends t := by
    intro hnil
    rw [hnil] at hfraction
    exact hbehind (Prod.ext_iff.1 (Option.some.inj hfraction)).2.symm
  refine number?_eq_some_iff.2 ⟨?_, ?_, hguard, behind ++ t, ?_,
    extends_exponent? hexponent hends⟩
  · rw [hnegative, List.head?_append_of_ne_nil bs hne]
  · rw [hwhole, unsigned_append hne, (digits_append hdigits).1]
  · rw [unsigned_append hne, (digits_append hdigits).2]
    exact extends_fraction? hfraction hbehind

/-! ## Values -/

theorem extends_keyword? {ends : Bytes → Prop} (word : String) (value : Raw) :
    Extends ends (keyword? word value) (keyword? word value) := by
  intro bs v rest t h _
  obtain ⟨behind, hbehind, heq⟩ := Option.map_eq_some_iff.1 h
  cases heq
  have hbs : word.toUTF8.toList ++ rest = bs := List.isPrefixOf?_eq_some_iff_append_eq.1 hbehind
  refine Option.map_eq_some_iff.2 ⟨rest ++ t, List.isPrefixOf?_eq_some_iff_append_eq.2 ?_, rfl⟩
  rw [← hbs, List.append_assoc]

/-- What stands behind an opening bracket: the closing one, or items and the closing one. -/
def readBody (close : UInt8) (more : Bytes → Option (List α × Bytes)) (value : List α → Raw)
    (bs : Bytes) : Option (Raw × Bytes) :=
  match skipSpace bs with
  | [] => none
  | b :: rest =>
    if b == close then some (value [], rest)
    else (more bs).map fun (xs, rest) => (value xs, rest)

/-- What stands behind an item or a member: the end, or a comma and further ones. -/
def readMore (close : UInt8) (more : Bytes → Option (List α × Bytes)) (x : α) (bs : Bytes) :
    Option (List α × Bytes) :=
  match skipSpace bs with
  | [] => none
  | b :: rest =>
    if b == close then some ([x], rest)
    else if b == byte ',' then (more rest).map fun (xs, rest) => (x :: xs, rest)
    else none

/-- What stands behind a key. -/
def readColon (key : Option String) (bs : Bytes) : Option (Option String × Bytes) :=
  match skipSpace bs with
  | [] => none
  | b :: rest => if b == byte ':' then some (key, rest) else none

/-- The key of a member, with its colon. -/
def readKey (bs : Bytes) : Option (Option String × Bytes) :=
  match skipSpace bs with
  | [] => none
  | b :: rest =>
    if b == byte '"' then (stringBody {} rest).bind fun p => readColon p.1 p.2 else none

variable {fuel fuel' : Nat}

theorem readValue_succ : readValue (fuel + 1) bs =
    match skipSpace bs with
    | [] => none
    | b :: rest =>
      if b == byte '"' then (stringBody {} rest).map fun (s, rest) => (.string s, rest)
      else if b == byte '[' then readBody (byte ']') (readItems fuel) .array rest
      else if b == byte '\x7b' then readBody (byte '\x7d') (readMembers fuel) .object rest
      else if b == byte 'n' then keyword? "null" .null (b :: rest)
      else if b == byte 't' then keyword? "true" (.bool true) (b :: rest)
      else if b == byte 'f' then keyword? "false" (.bool false) (b :: rest)
      else (number? (b :: rest)).map fun (n, rest) => (.number n, rest) := by
  rw [readValue]
  rfl

theorem readItems_succ : readItems (fuel + 1) bs =
    (readValue fuel bs).bind fun p => readMore (byte ']') (readItems fuel) p.1 p.2 := by
  simp only [readItems, readMore, Option.map_eq_bind]
  rfl

theorem readMembers_succ : readMembers (fuel + 1) bs =
    (readKey bs).bind fun p => (readValue fuel p.2).bind fun q =>
      readMore (byte '\x7d') (readMembers fuel) (p.1, q.1) q.2 := by
  rw [readMembers, readKey]
  cases skipSpace bs with
  | nil => rfl
  | cons b bs =>
    simp only [readMore, readColon, guard, Option.map_eq_bind]
    by_cases hquote : (b == byte '"') = true
    · rw [if_pos hquote, if_pos hquote]
      cases stringBody {} bs with
      | none => rfl
      | some p =>
        simp only [bind, Option.bind_some, pure]
        cases skipSpace p.2 with
        | nil => rfl
        | cons b bs =>
          by_cases hcolon : (b == byte ':') = true
          · simp only [if_pos hcolon]
            rfl
          · simp only [if_neg hcolon]
            rfl
    · rw [if_neg hquote, if_neg hquote]
      rfl

theorem extends_readBody {ends : Bytes → Prop} {more more' : Bytes → Option (List α × Bytes)}
    (h : Extends ends more more') (close : UInt8) (value : List α → Raw) :
    Extends ends (readBody close more value) (readBody close more' value) := by
  intro bs v rest t hv hends
  unfold readBody at hv ⊢
  cases hbs : skipSpace bs with
  | nil => simp [hbs] at hv
  | cons b behind =>
    simp only [hbs, skipSpace_append hbs] at hv ⊢
    by_cases hclosed : (b == close) = true
    · rw [if_pos hclosed] at hv ⊢
      cases hv
      rfl
    · rw [if_neg hclosed] at hv ⊢
      exact h.map value hv hends

theorem extends_readMore {ends : Bytes → Prop} {more more' : Bytes → Option (List α × Bytes)}
    (h : Extends ends more more') (close : UInt8) (x : α) :
    Extends ends (readMore close more x) (readMore close more' x) :=
  .next fun _ => .ite (.done _) (.ite (h.map _) .none)

theorem extends_readKey {ends : Bytes → Prop} : Extends ends readKey readKey := by
  refine .next fun _ => .ite ?_ .none
  refine (extends_stringBody _).bind (fun key => ?_) fun _ => rfl
  exact .next fun _ => .ite (.done _) .none

theorem readValue_nil : readValue fuel [] = none := by
  cases fuel <;> rfl

theorem extends_readValue_succ (hitems : Extends Ends (readItems fuel) (readItems fuel'))
    (hmembers : Extends Ends (readMembers fuel) (readMembers fuel')) :
    Extends Ends (readValue (fuel + 1)) (readValue (fuel' + 1)) := by
  simp only [Extends, readValue_succ]
  refine Extends.next fun b => ?_
  refine .ite ((extends_stringBody _).map _) ?_
  refine .ite (extends_readBody hitems _ _) (.ite (extends_readBody hmembers _ _) ?_)
  refine .ite ((extends_keyword? _ _).cons b) (.ite ((extends_keyword? _ _).cons b) ?_)
  exact .ite ((extends_keyword? _ _).cons b) ((extends_number?.map _).cons b)

/-- **A text is read in the same way** where more text follows, and with more steps allowed. -/
theorem extends_read (hle : fuel ≤ fuel') :
    Extends Ends (readValue fuel) (readValue fuel') ∧
      Extends Ends (readItems fuel) (readItems fuel') ∧
      Extends Ends (readMembers fuel) (readMembers fuel') := by
  induction fuel generalizing fuel' with
  | zero => exact ⟨nofun, nofun, nofun⟩
  | succ fuel ih =>
    cases fuel' with
    | zero => omega
    | succ fuel' =>
      obtain ⟨hvalue, hitems, hmembers⟩ := ih (Nat.le_of_succ_le_succ hle)
      refine ⟨extends_readValue_succ hitems hmembers, ?_, ?_⟩
      · simp only [Extends, readItems_succ]
        exact hvalue.bind (extends_readMore hitems _) fun _ => rfl
      · simp only [Extends, readMembers_succ]
        have hmember (key : Option String) := hvalue.bind
          (fun value => extends_readMore hmembers (byte '\x7d') (key, value)) fun _ => rfl
        exact extends_readKey.bind hmember fun _ => by rw [readValue_nil, Option.bind_none]

/-- A key begins with a quote. -/
theorem skipSpace_of_readKey {key : Option String} {rest : Bytes}
    (h : readKey bs = some (key, rest)) : ∃ behind, skipSpace bs = byte '"' :: behind := by
  unfold readKey at h
  cases hbs : skipSpace bs with
  | nil => simp [hbs] at h
  | cons b behind =>
    simp only [hbs] at h
    obtain rfl := beq_iff_eq.1 (Option.ite_none_right_eq_some.1 h).1
    exact ⟨behind, rfl⟩

theorem readValue_brace {key : Option String} {rest : Bytes} (h : readKey bs = some (key, rest)) :
    readValue (fuel + 1) (byte '\x7b' :: bs) =
      (readMembers fuel bs).map fun (members, rest) => (.object members, rest) := by
  obtain ⟨behind, hbehind⟩ := skipSpace_of_readKey h
  have hbrace : skipSpace (byte '\x7b' :: bs) = byte '\x7b' :: bs := rfl
  rw [readValue, hbrace]
  simp only [hbehind]
  rfl

/-! ## The text of an object -/

/-- A value that is read, with the blanks behind it. -/
theorem readValue_of_read? {v : Raw} (h : Raw.read? bs = some v) :
    ∃ rest, readValue (2 * bs.length + 1) bs = some (v, rest) ∧ skipSpace rest = [] := by
  simp only [Raw.read?, bind, Option.bind_eq_some_iff] at h
  obtain ⟨⟨v, rest⟩, hread, _, hguard, heq⟩ := h
  cases heq
  exact ⟨rest, hread, List.isEmpty_iff.1 (Option.ite_none_right_eq_some.1 hguard).1⟩

/-- A text that is a string literal. -/
theorem read?_string {s : Option String} (hquote : bs.head? = some (byte '"'))
    (h : stringBody {} bs.tail = some (s, [])) : Raw.read? bs = some (.string s) := by
  obtain ⟨rest, rfl⟩ := List.head?_eq_some_iff.1 hquote
  have hbs : skipSpace (byte '"' :: rest) = byte '"' :: rest := rfl
  have hbody : stringBody {} rest = some (s, []) := h
  rw [Raw.read?, readValue, hbs]
  simp only [hbody]
  rfl

/-- A member as it is written. -/
structure MemberText where
  /-- Its key with the colon, perhaps with blanks before and between them. -/
  keyText : Bytes
  key : Option String
  /-- Its value, perhaps between blanks. -/
  valueText : Bytes
  value : Raw
  reads_key : readKey keyText = some (key, [])
  reads_value : Raw.read? valueText = some value

namespace MemberText

/-- What is written. -/
def text (m : MemberText) : Bytes :=
  m.keyText ++ m.valueText

/-- What it is read as. -/
def member (m : MemberText) : Option String × Raw :=
  (m.key, m.value)

/-- What is written behind a member: further ones, and the end. -/
def behind : List MemberText → Bytes
  | [] => [byte '\x7d']
  | m :: ms => byte ',' :: (m.text ++ behind ms)

/-- An object with the members in this order. -/
def object : List MemberText → Bytes
  | [] => [byte '\x7b', byte '\x7d']
  | m :: ms => byte '\x7b' :: (m.text ++ behind ms)

/-- What stands behind a member does not go on with its value, and no blank stands in front. -/
theorem exists_behind (ms : List MemberText) :
    ∃ b t, behind ms = b :: t ∧ isSpace b = false ∧ Ends (behind ms) := by
  cases ms with
  | nil => exact ⟨_, _, rfl, by decide, by rintro _ ⟨⟩; decide⟩
  | cons m ms => exact ⟨_, _, rfl, by decide, by rintro _ ⟨⟩; decide⟩

variable (m : MemberText) (ms : List MemberText)

theorem keyText_pos : 0 < m.keyText.length := by
  rw [List.length_pos_iff]
  intro hnil
  have h := m.reads_key
  rw [hnil] at h
  cases h

theorem readKey_text (t : Bytes) : readKey (m.text ++ t) = some (m.key, m.valueText ++ t) := by
  have hkey : Extends (fun _ => True) readKey readKey := extends_readKey
  rw [text, List.append_assoc]
  exact hkey m.reads_key fun _ => trivial

/-- A member in front of others: its key and its value are read. -/
theorem read_text {fuel : Nat} (hfuel : 2 * m.text.length ≤ fuel + 1) :
    ∃ rest, skipSpace rest = behind ms ∧
      readMembers (fuel + 1) (m.text ++ behind ms) =
        readMore (byte '\x7d') (readMembers fuel) m.member rest := by
  have hbound : 2 * m.valueText.length + 1 ≤ fuel := by
    have hpos := m.keyText_pos
    rw [text, List.length_append] at hfuel
    omega
  obtain ⟨blanks, hread, hblanks⟩ := readValue_of_read? m.reads_value
  obtain ⟨b, t, hb, hspace, hends⟩ := exists_behind ms
  refine ⟨blanks ++ behind ms, ?_, ?_⟩
  · rw [skipSpace, List.dropWhile_append, ← skipSpace, hblanks, hb]
    simp [hspace]
  · rw [readMembers_succ, readKey_text, Option.bind_some, (extends_read hbound).1 hread fun _ => hends]
    rfl

/-- Every byte pays for two steps. -/
theorem readMembers_text {fuel : Nat} (hfuel : 2 * (m.text ++ behind ms).length ≤ fuel) :
    readMembers fuel (m.text ++ behind ms) = some ((m :: ms).map member, []) := by
  induction ms generalizing m fuel with
  | nil =>
    simp only [List.length_append, behind, List.length_cons] at hfuel
    obtain ⟨fuel, rfl⟩ : ∃ n, fuel = n + 1 := ⟨fuel - 1, by omega⟩
    have hbound : 2 * m.text.length ≤ fuel + 1 := by omega
    obtain ⟨rest, hrest, hread⟩ := m.read_text [] hbound
    rw [hread, readMore, hrest]
    rfl
  | cons m' ms ih =>
    simp only [List.length_append, behind, List.length_cons] at hfuel
    obtain ⟨fuel, rfl⟩ : ∃ n, fuel = n + 1 := ⟨fuel - 1, by omega⟩
    have hbound : 2 * m.text.length ≤ fuel + 1 := by omega
    obtain ⟨rest, hrest, hread⟩ := m.read_text (m' :: ms) hbound
    have hmore : readMembers fuel (m'.text ++ behind ms) = some ((m' :: ms).map member, []) := by
      refine ih m' ?_
      rw [List.length_append]
      omega
    rw [hread, readMore, hrest, behind]
    simp only [hmore]
    rfl

/-- **An object** has the members that are written in it, in their order. -/
theorem read?_object : Raw.read? (object ms) = some (.object (ms.map member)) := by
  cases ms with
  | nil => rfl
  | cons m ms =>
    have hbound : 2 * (m.text ++ behind ms).length ≤
        2 * (byte '\x7b' :: (m.text ++ behind ms)).length := by
      rw [List.length_cons]
      omega
    rw [Raw.read?, object, readValue_brace (m.readKey_text _), readMembers_text m ms hbound]
    rfl

end MemberText

end ElmAssist.Json
