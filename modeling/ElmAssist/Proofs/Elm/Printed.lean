/-
  Printed modules are derived.

  Each part of a description is given as words (`exposingWords`, `importItem` and so on), which
  the grammar derives as nodes.  Their texts are what is printed.

  `derives_print`: a printed module is derived with the nodes of its description (`fileNodes`).
-/
import ElmAssist.Proofs.Elm.Grammar

namespace ElmAssist.Elm.Canonical

open Grammar hiding ImportClause ExposingList Declaration

/-! ## Nodes of a description -/

def entryNode : Exposed → ExposedNode
  | .value name => .value name.text
  | .type name constructors => .type (some name.text) constructors

def entryNodes : ExposingList → List ExposedNode
  | .everything => [.everything]
  | .entries first rest => (first :: rest).map entryNode

theorem not_infix_cons {a b c : Char} {cs : List Char} (hc : c ≠ a) (h : ¬ [a, b] <:+: cs) :
    ¬ [a, b] <:+: c :: cs := by
  intro hinfix
  rcases List.infix_cons_iff.1 hinfix with hprefix | hinfix
  · exact hc (List.cons_prefix_cons.1 hprefix).1.symm
  · exact h hinfix

theorem not_infix_concat {a b c : Char} {cs : List Char} (hc : c ≠ b) (h : ¬ [a, b] <:+: cs) :
    ¬ [a, b] <:+: cs ++ [c] := by
  intro hinfix
  rcases List.infix_concat_iff.1 hinfix with hsuffix | hinfix
  · obtain ⟨front, hfront⟩ := hsuffix
    have hlast := congrArg List.getLast? hfront
    simp only [List.getLast?_append, List.getLast?_cons_cons, List.getLast?_singleton] at hlast
    exact hc (by simpa using hlast.symm)
  · exact h hinfix

/-- What stands in a documentation comment between its signs. -/
def docBody (doc : DocText) : CommentBody where
  chars := '|' :: ' ' :: (doc.text.toList ++ ['\n'])
  opensNone := not_infix_cons (by decide) (not_infix_cons (by decide)
    (not_infix_concat (by decide) doc.opensNone))
  opensNoneAtEnd := by
    rw [List.getLast?_cons_cons, List.getLast?_cons, List.getLast?_append]
    exact nofun
  closesNone := not_infix_cons (by decide) (not_infix_cons (by decide)
    (not_infix_concat (by decide) doc.closesNone))
  hasNoNul := by
    have hnul := doc.hasNoNul
    intro c hc
    rcases (by simpa using hc : c = '|' ∨ c = ' ' ∨ c ∈ doc.text.toList ∨ c = '\n') with
      rfl | rfl | hc | rfl
    · decide
    · decide
    · exact hnul c hc
    · decide

def docComments : Option DocText → List Comment
  | some doc => [(docBody doc).comment]
  | none => []

/-- The comment that documentation is. -/
def docNodes (doc : Option DocText) : List Node :=
  (docComments doc).map Node.comment

def importNode (i : ImportClause) : Node :=
  .importClause false (some i.moduleName.text) (i.shortName.map (·.text))
    (i.exposing.map entryNodes)

/-- The nodes of a declaration: its documentation, an annotation and the declaration itself. -/
def declarationNodes : Declaration → List Node
  | .function doc none name => docNodes doc ++ [.value false (some name.text)]
  | .function doc (some s) name =>
    docNodes doc ++ [.signature false (some name.text) (some s.text), .value false (some name.text)]
  | .customType doc name first rest =>
    docNodes doc ++ [.customType false (some name.text) ((first :: rest).map fun c => some c.text)]
  | .typeAlias doc name _ => docNodes doc ++ [.typeAlias false (some name.text)]

/-- The nodes of a module; `place` is where it starts. -/
def fileNodes (place : Place) (d : Description) : List Node :=
  .header place false (some d.name.text) (some (entryNodes d.exposing)) ::
    (d.imports.map importNode ++ d.declarations.flatMap declarationNodes)

/-! ## Words of a description -/

/-- A word behind a single space. -/
def spaced (w : Word) : Spaced :=
  ⟨[' '], w⟩

/-- A word directly behind another. -/
def attached (w : Word) : Spaced :=
  ⟨[], w⟩

def upperWord (name : UpperName) : Word :=
  .upper ⟨name, []⟩

def entryWords (gap : List Char) : Exposed → List Spaced
  | .value name => [⟨gap, .lower name⟩]
  | .type name true =>
    [⟨gap, upperWord name⟩, attached (.mark .opening), attached (.mark .dots),
      attached (.mark .closing)]
  | .type name false => [⟨gap, upperWord name⟩]

def exposingWords : ExposingList → List Spaced
  | .everything =>
    [spaced (.keyword .exposing), spaced (.mark .opening), attached (.mark .dots),
      attached (.mark .closing)]
  | .entries first rest =>
    spaced (.keyword .exposing) :: spaced (.mark .opening) ::
      ((entryWords [] first ++
        rest.flatMap fun e => attached (.mark .comma) :: entryWords [' '] e) ++
        [attached (.mark .closing)])

def headerItem (d : Description) : Item :=
  ⟨.keyword .module, spaced (.upper d.name) :: exposingWords d.exposing⟩

def shortNameWords : Option UpperName → List Spaced
  | some short => [spaced (.keyword .as), spaced (upperWord short)]
  | none => []

def importedWords : Option ExposingList → List Spaced
  | some exposing => exposingWords exposing
  | none => []

def importItem (i : ImportClause) : Item :=
  ⟨.keyword .import,
    spaced (.upper i.moduleName) :: (shortNameWords i.shortName ++ importedWords i.exposing)⟩

def signatureWords (s : Signature) : List Spaced :=
  spaced (.upper s.first) ::
    s.rest.flatMap fun type => [spaced (.mark .arrow), spaced (.upper type)]

def annotationItem (name : LowerName) (s : Signature) : Item :=
  ⟨.lower name, spaced (.mark .colon) :: signatureWords s⟩

/-- The number that is the body of all functions. -/
def zero : Number :=
  ⟨['0'], List.cons_ne_nil _ _, by simp⟩

def functionItem (l : Spacing) (name : LowerName) : Item :=
  ⟨.lower name, [spaced (.mark .equals), ⟨gap (some l.bodyIndentation), .number zero⟩]⟩

def customTypeItem (l : Spacing) (name first : UpperName) (rest : List UpperName) : Item :=
  ⟨.keyword .type, spaced (upperWord name) :: ⟨gap l.constructors, .mark .equals⟩ ::
    (spaced (upperWord first) ::
      rest.flatMap fun c => [⟨gap l.constructors, .mark .bar⟩, spaced (upperWord c)])⟩

def typeAliasItem (l : Spacing) (name : UpperName) (type : DottedName) : Item :=
  ⟨.keyword .type, [spaced (.keyword .alias), spaced (upperWord name), spaced (.mark .equals),
    ⟨gap l.aliased, .upper type⟩]⟩

/-! ## Spelling -/

theorem isGap_nil : IsGap [] :=
  ⟨nofun, nofun⟩

theorem isGap_gap (g : Option Nat) : IsGap (gap g) where
  isBlank c hc := by
    cases g with
    | none => exact .inl (List.mem_singleton.1 hc)
    | some n =>
      rcases List.mem_cons.1 hc with rfl | hc
      · exact .inr rfl
      · exact .inl (List.eq_of_mem_replicate hc)
  stays := by
    cases g with
    | none => decide
    | some n =>
      rw [gap, List.getLast?_cons, List.getLast?_replicate]
      simp

theorem gap_ne_nil (g : Option Nat) : gap g ≠ [] := by
  cases g <;> exact List.cons_ne_nil _ _

section Spelling

variable {w : Word} {ws us : List Spaced}

/-- A word behind a space or on a new line. -/
theorem spelled_gap (g : Option Nat) {v : Word} (h : Spelled v ws) :
    Spelled w (⟨gap g, v⟩ :: ws) :=
  .cons (isGap_gap g) (fun h => absurd h (gap_ne_nil g)) h

theorem spelled_space {v : Word} (h : Spelled v ws) : Spelled w (spaced v :: ws) :=
  spelled_gap none h

/-- A bracket or a comma directly behind a word. -/
theorem spelled_bracket {v : Word} (hv : v.IsBracket) (h : Spelled v ws) :
    Spelled w (attached v :: ws) :=
  .cons isGap_nil (fun _ => .inr hv) h

theorem spelled_entry {gap : List Char} (hgap : IsGap gap) (htouch : gap = [] → w.IsBracket)
    (e : Exposed) : Spelled w (entryWords gap e) := by
  have hword : ∀ {v : Word} {ws : List Spaced}, Spelled v ws → Spelled w (⟨gap, v⟩ :: ws) :=
    fun h => .cons hgap (fun hnil => .inl (htouch hnil)) h
  cases e with
  | value name => exact hword (.nil _)
  | type name constructors =>
    cases constructors with
    | false => exact hword (.nil _)
    | true =>
      exact hword (spelled_bracket trivial (.cons isGap_nil (fun _ => .inl trivial)
        (spelled_bracket trivial (.nil _))))

theorem spelled_exposing (w : Word) (e : ExposingList) : Spelled w (exposingWords e) := by
  have hclose : ∀ v, Spelled v [attached (.mark .closing)] :=
    fun v => spelled_bracket trivial (.nil _)
  cases e with
  | everything =>
    exact spelled_space (spelled_space (.cons isGap_nil (fun _ => .inl trivial) (hclose _)))
  | entries first rest =>
    have hfirst : Spelled (.mark .opening) (entryWords [] first) :=
      spelled_entry (w := .mark .opening) isGap_nil (fun _ => trivial) first
    have hlater : ∀ e, Spelled (.mark .comma) (entryWords [' '] e) :=
      spelled_entry (isGap_gap none) nofun
    have hother : ∀ e v, Spelled v (attached (.mark .comma) :: entryWords [' '] e) :=
      fun e v => spelled_bracket trivial (hlater e)
    have hentries := hfirst.append (Spelled.flatMap hother rest)
    exact spelled_space (spelled_space (hentries.append hclose))

end Spelling

/-! ## Texts -/

@[simp]
theorem chars_gap (gap : List Char) (w : Word) : Spaced.chars ⟨gap, w⟩ = gap ++ w.chars :=
  rfl

@[simp]
theorem chars_spaced (w : Word) : (spaced w).chars = ' ' :: w.chars :=
  rfl

@[simp]
theorem chars_attached (w : Word) : (attached w).chars = w.chars :=
  rfl

@[simp]
theorem chars_keyword (w : Keyword) : (Word.keyword w).chars = w.text.toList :=
  rfl

@[simp]
theorem chars_mark (m : Mark) : (Word.mark m).chars = m.text.toList :=
  rfl

@[simp]
theorem chars_lower (name : LowerName) : (Word.lower name).chars = name.chars :=
  rfl

@[simp]
theorem chars_upper (name : DottedName) : (Word.upper name).chars = name.chars :=
  rfl

@[simp]
theorem chars_number (n : Number) : (Word.number n).chars = n.digits :=
  rfl

@[simp]
theorem chars_upperWord (name : UpperName) : (upperWord name).chars = name.chars :=
  List.append_nil _

theorem chars_entry (gap : List Char) (e : Exposed) :
    (entryWords gap e).flatMap Spaced.chars = gap ++ e.chars := by
  cases e with
  | value name => simp [entryWords, Exposed.chars]
  | type name constructors =>
    cases constructors <;>
      simp [entryWords, Mark.text, Exposed.chars]

theorem chars_exposing (e : ExposingList) :
    (exposingWords e).flatMap Spaced.chars = ' ' :: e.chars := by
  cases e with
  | everything =>
    simp [exposingWords, Keyword.text, Mark.text,
      ExposingList.chars_everything]
  | entries first rest =>
    have hrest : (rest.flatMap fun e => attached (.mark .comma) :: entryWords [' '] e).flatMap
        Spaced.chars = rest.flatMap fun e => ", ".toList ++ e.chars := by
      rw [List.flatMap_assoc]
      refine congrArg (rest.flatMap ·) (funext fun e => ?_)
      rw [List.flatMap_cons, chars_entry]
      rfl
    rw [exposingWords, List.flatMap_cons, List.flatMap_cons, List.flatMap_append,
      List.flatMap_append, chars_entry, hrest, ExposingList.chars_entries]
    simp [Keyword.text, Mark.text]

theorem chars_header (d : Description) :
    (headerItem d).chars = "module ".toList ++ d.name.chars ++ ' ' :: d.exposing.chars := by
  rw [headerItem, Item.chars, List.flatMap_cons, chars_exposing]
  simp [Keyword.text]

theorem chars_import (i : ImportClause) : (importItem i).chars = i.chars := by
  have hshort : (shortNameWords i.shortName).flatMap Spaced.chars = shortNameChars i.shortName := by
    cases i.shortName with
    | none => rfl
    | some short =>
      simp [shortNameWords, shortNameChars_some, Keyword.text]
  have himported : (importedWords i.exposing).flatMap Spaced.chars = importedChars i.exposing := by
    cases i.exposing with
    | none => rfl
    | some exposing => exact chars_exposing exposing
  rw [importItem, Item.chars, List.flatMap_cons, List.flatMap_append, hshort, himported,
    ImportClause.chars_eq]
  simp [Keyword.text]

theorem chars_signature (s : Signature) :
    (signatureWords s).flatMap Spaced.chars = ' ' :: s.chars := by
  rw [signatureWords, List.flatMap_cons, List.flatMap_assoc]
  simp [Mark.text, Signature.chars]

/-- The text of an annotation is that of its type. -/
theorem textOf_signature (s : Signature) : String.ofList (textOf (signatureWords s)) = s.text := by
  have htext := chars_signature s
  rw [signatureWords, List.flatMap_cons] at htext
  exact congrArg String.ofList (List.cons.inj htext).2

theorem chars_signatureItem (name : LowerName) (s : Signature) :
    (annotationItem name s).chars = name.chars ++ " : ".toList ++ s.chars := by
  rw [annotationItem, Item.chars, List.flatMap_cons, chars_signature]
  simp [Mark.text]

theorem chars_function (l : Spacing) (name : LowerName) :
    (functionItem l name).chars =
      name.chars ++ " =".toList ++ gap (some l.bodyIndentation) ++ "0".toList := by
  simp [functionItem, Item.chars, Mark.text, zero]

theorem chars_customType (l : Spacing) (name first : UpperName) (rest : List UpperName) :
    (customTypeItem l name first rest).chars =
      "type ".toList ++ name.chars ++ gap l.constructors ++ "= ".toList ++ first.chars ++
        rest.flatMap fun c => gap l.constructors ++ "| ".toList ++ c.chars := by
  rw [customTypeItem, Item.chars, List.flatMap_cons, List.flatMap_cons, List.flatMap_cons,
    List.flatMap_assoc]
  simp [Keyword.text, Mark.text]

theorem chars_typeAlias (l : Spacing) (name : UpperName) (type : DottedName) :
    (typeAliasItem l name type).chars =
      "type alias ".toList ++ name.chars ++ " =".toList ++ gap l.aliased ++ type.chars := by
  simp [typeAliasItem, Item.chars, Keyword.text, Mark.text]

/-! ## Rules -/

theorem exposedEntry_entry (gap : List Char) (e : Exposed) :
    ExposedEntry (entryWords gap e) (entryNode e) := by
  cases e with
  | value name => exact .value gap name
  | type name constructors =>
    cases constructors with
    | true => exact .constructors gap _ _ _ name
    | false => exact .type gap name

theorem exposingList_exposing (e : ExposingList) :
    Grammar.ExposingList (exposingWords e) (entryNodes e) := by
  cases e with
  | everything => exact .everything _ _ _ _
  | entries first rest =>
    exact .entries _ _ _ (.list [] (exposedEntry_entry [' ']) (exposedEntry_entry [] first)
      rest)

theorem header_header (d : Description) :
    Header (headerItem d) (.header {} false (some d.name.text) (some (entryNodes d.exposing))) :=
  .mk _ d.name (exposingList_exposing d.exposing)

theorem importClause_import (i : ImportClause) :
    Grammar.ImportClause (importItem i) (importNode i) := by
  refine .mk _ i.moduleName ?_ ?_
  · cases i.shortName with
    | none => exact .none
    | some short => exact .some _ _ short
  · cases i.exposing with
    | none => exact .none
    | some e => exact .some (exposingList_exposing e)

theorem declaration_signature (name : LowerName) (s : Signature) :
    Grammar.Declaration (annotationItem name s)
      (.signature false (some name.text) (some s.text)) := by
  have hname : ∀ type : DottedName, TypeTerm [spaced (.upper type)] () := fun type => .name _ type
  rw [← textOf_signature]
  exact .signature _ name (.list [' '] hname (hname s.first) s.rest)

theorem declaration_function (l : Spacing) (name : LowerName) :
    Grammar.Declaration (functionItem l name) (.value false (some name.text)) :=
  .constant _ _ name zero

theorem declaration_customType (l : Spacing) (name first : UpperName) (rest : List UpperName) :
    Grammar.Declaration (customTypeItem l name first rest)
      (.customType false (some name.text) ((first :: rest).map fun c => some c.text)) := by
  have hname : ∀ c : UpperName, Variant [spaced (upperWord c)] (some c.text) := fun c => .name _ c
  exact .customType _ _ name (.list (gap l.constructors) hname (hname first) rest)

theorem declaration_typeAlias (l : Spacing) (name : UpperName) (type : DottedName) :
    Grammar.Declaration (typeAliasItem l name type) (.typeAlias false (some name.text)) :=
  .typeAlias _ _ _ name (.single (.name _ type))

/-! ## Fronts -/

theorem isBreak_lines (n : Nat) : IsBreak (lines (n + 1)) where
  isBlank _ hc := .inr (List.eq_of_mem_replicate hc)
  ends := by simp [lines, List.getLast?_replicate]

/-- Line feeds and documentation stand in front of an item. -/
theorem front_doc (feeds : Nat) (doc : Option DocText) :
    Front (lines (feeds + 1) ++ docChars doc) (docComments doc) := by
  cases doc with
  | none => exact (List.append_nil (lines (feeds + 1))).symm ▸ .blanks (isBreak_lines feeds)
  | some doc =>
    have htext : docChars (some doc) = (docBody doc).written ++ lines 1 := by
      simp [docChars_some, docBody, CommentBody.written, lines]
    rw [htext, ← List.append_assoc]
    exact .comment (docBody doc) (isBreak_lines feeds) rfl (.blanks (isBreak_lines 0))

/-! ## Modules -/

theorem spelled_import (i : ImportClause) : Spelled (importItem i).head (importItem i).tail := by
  have himported : ∀ v, Spelled v (importedWords i.exposing) := fun v => by
    cases i.exposing with
    | none => exact .nil v
    | some e => exact spelled_exposing v e
  refine spelled_space ?_
  cases i.shortName with
  | none => exact himported _
  | some short => exact spelled_space (spelled_space (himported _))

theorem items_import (feeds : Nat) (i : ImportClause) :
    Items Grammar.ImportClause (lines (feeds + 1) ++ i.chars) [importNode i] := by
  have h := Items.single (.blanks (isBreak_lines feeds)) (importClause_import i) (spelled_import i)
  rwa [chars_import] at h

theorem items_imports (l : Spacing) (is : List ImportClause) :
    Items Grammar.ImportClause (importChars l is) (is.map importNode) := by
  cases is with
  | nil => exact .nil
  | cons first rest =>
    have hrest := Items.flatMap (items_import l.betweenImports) rest
    rw [← List.map_eq_flatMap] at hrest
    exact Items.append (items_import l.aboveImports first) hrest

theorem spelled_signature (name : LowerName) (s : Signature) :
    Spelled (annotationItem name s).head (annotationItem name s).tail :=
  spelled_space (spelled_space
    (Spelled.flatMap (fun _ _ => spelled_space (spelled_space (.nil _))) s.rest _))

theorem spelled_function (l : Spacing) (name : LowerName) :
    Spelled (functionItem l name).head (functionItem l name).tail :=
  spelled_space (spelled_gap _ (.nil _))

theorem spelled_customType (l : Spacing) (name first : UpperName) (rest : List UpperName) :
    Spelled (customTypeItem l name first rest).head (customTypeItem l name first rest).tail :=
  spelled_space (spelled_gap _ (spelled_space
    (Spelled.flatMap (fun _ _ => spelled_gap _ (spelled_space (.nil _))) rest _)))

theorem spelled_typeAlias (l : Spacing) (name : UpperName) (type : DottedName) :
    Spelled (typeAliasItem l name type).head (typeAliasItem l name type).tail :=
  spelled_space (spelled_space (spelled_space (spelled_gap _ (.nil _))))

/-- A declaration is one item, or two if there is an annotation. -/
theorem items_declaration (l : Spacing) (decl : Declaration) :
    Items Grammar.Declaration (lines (l.aboveDeclarations + 2) ++ decl.chars l)
      (declarationNodes decl) := by
  have hfront := front_doc (l.aboveDeclarations + 1)
  cases decl with
  | function doc signature name =>
    cases signature with
    | none =>
      have h := Items.single (hfront doc) (declaration_function l name) (spelled_function l name)
      rw [chars_function] at h
      simpa [Declaration.chars_function, annotationChars_none, declarationNodes, docNodes] using h
    | some s =>
      have hsignature := Items.single (hfront doc) (declaration_signature name s)
        (spelled_signature name s)
      have hfunction := Items.single (.blanks (isBreak_lines 0)) (declaration_function l name)
        (spelled_function l name)
      have h := Items.append hsignature hfunction
      rw [chars_signatureItem, chars_function] at h
      simpa [Declaration.chars_function, annotationChars_some, declarationNodes, docNodes, lines]
        using h
  | customType doc name first rest =>
    have h := Items.single (hfront doc) (declaration_customType l name first rest)
      (spelled_customType l name first rest)
    rw [chars_customType] at h
    simpa [Declaration.chars_customType, declarationNodes, docNodes] using h
  | typeAlias doc name type =>
    have h := Items.single (hfront doc) (declaration_typeAlias l name type)
      (spelled_typeAlias l name type)
    rw [chars_typeAlias] at h
    simpa [Declaration.chars_typeAlias, declarationNodes, docNodes] using h

/-- **A printed module is derived**, with the nodes of its description. -/
theorem derives_print (l : Spacing) (d : Description) :
    Derives (d.print l) ⟨fileNodes {} d, false⟩ := by
  have hdeclarations := Items.flatMap (items_declaration l) d.declarations
  have hspelled : Spelled (headerItem d).head (headerItem d).tail :=
    spelled_space (spelled_exposing _ d.exposing)
  have htrail : IsBlank (lines l.atEnd) := fun c hc => .inr (List.eq_of_mem_replicate hc)
  have hfile := Derives.module (header_header d) hspelled (items_imports l d.imports) hdeclarations
    htrail
  rwa [chars_header] at hfile

end ElmAssist.Elm.Canonical
