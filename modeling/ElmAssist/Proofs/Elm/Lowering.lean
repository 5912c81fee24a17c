/-
  The module of a plainly written file.

  What a declaration means depends on the nodes in front of it: documentation and an annotation
  that belong to it.  `Settled` says that the nodes in front have nothing that could belong to
  the next declaration, and it holds behind each declaration (`settled_declaration`), so that
  each one gets what is its own (`filterMap_declarations`).
-/
import ElmAssist.Elm.Parse
import ElmAssist.Proofs.Elm.Declarations
import ElmAssist.Proofs.Elm.Nodes
import ElmAssist.Proofs.Elm.Printed
import ElmAssist.Proofs.Text.Collapsed

namespace ElmAssist.Elm.Plain

open Canonical

/-! ## Texts -/

/-- Visible characters are not blank. -/
theorem not_isBlank_of_visible {c : Char} (h : (isPlainChar c && !isBlank c) = true) :
    Text.isBlank c = false := by
  obtain ⟨hplain, hblank⟩ : isPlainChar c = true ∧ isBlank c = false := by simpa using h
  have hne : c ≠ ' ' ∧ c ≠ '\n' := by simpa [isBlank] using hblank
  have hrange : 33 ≤ c.toNat ∧ c.toNat ≤ 126 := by
    obtain ⟨hlow, hhigh⟩ : ' ' ≤ c ∧ c ≤ '~' := by simpa [isPlainChar, hne.2] using hplain
    have hlow : 32 ≤ c.toNat := hlow
    have hhigh : c.toNat ≤ 126 := hhigh
    have hspace : c.toNat ≠ 32 := fun h32 => hne.1 (Char.toNat_inj.1 h32)
    omega
  simp only [Text.isBlank, Bool.or_eq_false_iff, Bool.and_eq_false_iff, beq_eq_false_iff_ne,
    decide_eq_false_iff_not]
  omega

theorem Lexeme.Solid.isWord {x : Lexeme} (h : x.Solid) : Text.IsWord x.text where
  ne_nil := h.ne_nil
  notBlank c hc := not_isBlank_of_visible (List.all_eq_true.1 h.visible c hc)

theorem collapse_lower (n : LowerName) : Text.collapse n.text = n.text := by
  have h := Text.collapse_word (solid_lower n.isName).isWord
  rwa [String.ofList_toList] at h

theorem collapse_name (n : DottedName) : Text.collapse n.text = n.text :=
  Text.collapse_word (solid_name n).isWord

theorem collapse_signature (s : Signature) : Text.collapse s.text = s.text := by
  have hjoined : s.chars = Text.joined s.first.chars
      (s.rest.flatMap fun type => [(symbolLexeme "->").text, type.chars]) := by
    rw [Signature.chars, Text.joined, List.flatMap_assoc]
    simp [symbolLexeme]
  rw [Signature.text, hjoined]
  refine Text.collapse_joined (List.forall_mem_cons.2 ⟨(solid_name s.first).isWord, fun w hw => ?_⟩)
  obtain ⟨type, -, hw⟩ := List.mem_flatMap.1 hw
  rcases (by simpa using hw : w = _ ∨ w = _) with rfl | rfl
  · exact (solid_mark .arrow).isWord
  · exact (solid_name type).isWord

/-- The body of a documentation comment is what is between its delimiters. -/
theorem documentation_body (body : List Char) :
    Comment.documentation? ⟨true, String.ofList ("\x7b-|".toList ++ (body ++ "-\x7d".toList))⟩ =
      some (Text.trim (String.ofList body)) := by
  have hopened : "\x7b-|".toList.isPrefixOf?
      (String.ofList ("\x7b-|".toList ++ (body ++ "-\x7d".toList))).toList =
        some (body ++ "-\x7d".toList) := by
    rw [String.toList_ofList (l := _ ++ _)]
    rfl
  have hclosed : "-\x7d".toList.isSuffixOf (body ++ "-\x7d".toList) = true :=
    List.isSuffixOf_iff_suffix.2 (List.suffix_append _ _)
  have hbody : (body ++ "-\x7d".toList).take ((body ++ "-\x7d".toList).length - "-\x7d".toList.length) =
      body := by
    rw [List.length_append, Nat.add_sub_cancel, List.take_left]
  rw [Comment.documentation?, if_pos rfl, hopened, Option.map_some]
  simp only [hclosed, if_true, hbody]

/-- Documentation is read as its text. -/
theorem documentation_doc (doc : DocText) :
    Comment.documentation? (docBody doc).comment = some doc.text := by
  have htext : (docBody doc).written =
      "\x7b-|".toList ++ ([' '] ++ (doc.text.toList ++ ['\n']) ++ "-\x7d".toList) := by
    simp [docBody, Grammar.CommentBody.written]
  rw [Grammar.CommentBody.comment, htext, documentation_body, Text.trim_around _ rfl rfl,
    String.ofList_toList, doc.isTrimmed]

/-! ## Exposing lists -/

theorem ofNodes_entries (e : ExposingList) : Exposing.ofNodes (entryNodes e) = e.exposing := by
  cases e with
  | everything => rfl
  | entries first rest =>
    have hnone : ((first :: rest).map entryNode).contains .everything = false := by
      refine Bool.eq_false_iff.2 fun h => ?_
      obtain ⟨x, -, hx⟩ := List.mem_map.1 (List.contains_iff_mem.1 h)
      cases x <;> cases hx
    have hitem : ∀ x : Exposed, (entryNode x).item? = some x.item := fun x => by
      cases x with
      | value name => simp [entryNode, ExposedNode.item?, Exposed.item, collapse_lower]
      | type name constructors => rfl
    rw [Exposing.ofNodes, entryNodes, hnone, if_neg Bool.false_ne_true, List.filterMap_map,
      show ExposedNode.item? ∘ entryNode = some ∘ Exposed.item from funext hitem,
      List.filterMap_eq_map]
    rfl

theorem import?_importNode (i : ImportClause) : import? (importNode i) = some i.import := by
  have hexposing : (i.exposing.map entryNodes).map Exposing.ofNodes =
      i.exposing.map (·.exposing) := by
    rw [Option.map_map]
    exact Option.map_congr fun e _ => ofNodes_entries e
  rw [importNode, import?, collapse_name, hexposing]
  rfl

/-! ## Declarations -/

/-- Nothing in the nodes in front of a declaration belongs to it. -/
structure Settled (before : List Node) : Prop where
  documentation : documentation? before = none
  attached : ∀ name, attached? name before = none

/-- The nodes in front of a declaration, with its documentation. -/
theorem documentation_docNodes {before : List Node} (h : Settled before) (doc : Option DocText) :
    documentation? ((docNodes doc).reverse ++ before) = doc.map (·.text) := by
  cases doc with
  | none => exact h.documentation
  | some doc => exact documentation_doc doc

theorem attached_docNodes {before : List Node} (h : Settled before) (doc : Option DocText)
    (name : String) : attached? name ((docNodes doc).reverse ++ before) = none := by
  cases doc with
  | none => exact h.attached name
  | some doc => rfl

/-- Behind a declaration, nothing is left over for the next one. -/
theorem settled_declaration (before : List Node) (decl : Declaration) :
    Settled ((declarationNodes decl).reverse ++ before) := by
  cases decl with
  | function doc signature name =>
    cases signature <;> constructor <;> intros <;> simp [declarationNodes, documentation?, attached?]
  | customType => constructor <;> intros <;> simp [declarationNodes, documentation?, attached?]
  | typeAlias => constructor <;> intros <;> simp [declarationNodes, documentation?, attached?]

section Entries

variable {α : Type} {f : List Node × Node → Option α} (before : List Node)

theorem filterMap_single (node : Node) :
    (withBefore before [node]).filterMap f = (f (before, node)).toList := by
  cases h : f (before, node) <;> simp [withBefore, h]

/-- A declaration with documentation, which is nothing in itself. -/
theorem filterMap_documented (hf : ∀ before comment, f (before, .comment comment) = none)
    (doc : Option DocText) (node : Node) :
    (withBefore before (docNodes doc ++ [node])).filterMap f =
      (f ((docNodes doc).reverse ++ before, node)).toList := by
  cases doc with
  | none => exact filterMap_single before node
  | some doc => exact (List.filterMap_cons_none (hf _ _)).trans (filterMap_single _ node)

/-- A declaration with documentation and an annotation, which are nothing in themselves. -/
theorem filterMap_annotated (hf : ∀ before comment, f (before, .comment comment) = none)
    (doc : Option DocText) {signature : Node} (ha : ∀ before, f (before, signature) = none)
    (node : Node) :
    (withBefore before (docNodes doc ++ [signature, node])).filterMap f =
      (f (signature :: ((docNodes doc).reverse ++ before), node)).toList := by
  have hpair : ∀ before, (withBefore before [signature, node]).filterMap f =
      (f (signature :: before, node)).toList := fun before =>
    (List.filterMap_cons_none (ha before)).trans (filterMap_single _ node)
  cases doc with
  | none => exact hpair before
  | some doc => exact (List.filterMap_cons_none (hf _ _)).trans (hpair _)

end Entries

/-- What a declaration means, seen with the nodes in front of it. -/
structure Meant (before : List Node) (decl : Declaration) : Prop where
  function : (withBefore before (declarationNodes decl)).filterMap function? = decl.function?.toList
  customType :
    (withBefore before (declarationNodes decl)).filterMap customType? = decl.customType?.toList
  typeAlias : (withBefore before (declarationNodes decl)).filterMap typeAlias? = decl.typeAlias?.toList

section Meanings

variable {before : List Node} (h : Settled before) (doc : Option DocText)

include h

/-- A function without an annotation does not get one from the nodes in front of it. -/
theorem meant_function (name : LowerName) : Meant before (.function doc none name) := by
  have hfunction : function? ((docNodes doc).reverse ++ before, .value false (some name.text)) =
      some ⟨name.text, none, doc.map (·.text)⟩ := by
    rw [function?, attached_docNodes h, documentation_docNodes h]
  exact {
    function := (filterMap_documented before (fun _ _ => rfl) doc _).trans (by rw [hfunction]; rfl)
    customType := filterMap_documented before (fun _ _ => rfl) doc _
    typeAlias := filterMap_documented before (fun _ _ => rfl) doc _ }

/-- A function gets its annotation, and the documentation in front of that. -/
theorem meant_annotated (s : Signature) (name : LowerName) :
    Meant before (.function doc (some s) name) := by
  have hfunction : function? (.signature false (some name.text) (some s.text) ::
      ((docNodes doc).reverse ++ before), .value false (some name.text)) =
      some ⟨name.text, some s.text, doc.map (·.text)⟩ := by
    rw [function?, attached?, if_pos rfl]
    show some (Function.mk _ (some (Text.collapse s.text)) (documentation? _)) = _
    rw [collapse_signature, documentation_docNodes h]
  exact {
    function := (filterMap_annotated before (fun _ _ => rfl) doc (fun _ => rfl) _).trans
      (by rw [hfunction]; rfl)
    customType := filterMap_annotated before (fun _ _ => rfl) doc (fun _ => rfl) _
    typeAlias := filterMap_annotated before (fun _ _ => rfl) doc (fun _ => rfl) _ }

theorem meant_customType (name first : UpperName) (rest : List UpperName) :
    Meant before (.customType doc name first rest) := by
  have htype : customType? ((docNodes doc).reverse ++ before,
      .customType false (some name.text) ((first :: rest).map fun c => some c.text)) =
      some ⟨name.text, (first :: rest).map (·.text), doc.map (·.text)⟩ := by
    rw [customType?, documentation_docNodes h, List.filterMap_map]
    simp
  exact {
    function := filterMap_documented before (fun _ _ => rfl) doc _
    customType := (filterMap_documented before (fun _ _ => rfl) doc _).trans (by rw [htype]; rfl)
    typeAlias := filterMap_documented before (fun _ _ => rfl) doc _ }

theorem meant_typeAlias (name : UpperName) (type : DottedName) :
    Meant before (.typeAlias doc name type) := by
  have halias : typeAlias? ((docNodes doc).reverse ++ before, .typeAlias false (some name.text)) =
      some ⟨name.text, doc.map (·.text)⟩ := by
    rw [typeAlias?, documentation_docNodes h]
  exact {
    function := filterMap_documented before (fun _ _ => rfl) doc _
    customType := filterMap_documented before (fun _ _ => rfl) doc _
    typeAlias := (filterMap_documented before (fun _ _ => rfl) doc _).trans (by rw [halias]; rfl) }

/-- **A declaration gets its own** documentation and annotation, and nothing else. -/
theorem meant_declaration (decl : Declaration) : Meant before decl := by
  cases decl with
  | function doc signature name =>
    cases signature with
    | none => exact meant_function h doc name
    | some s => exact meant_annotated h doc s name
  | customType doc name first rest => exact meant_customType h doc name first rest
  | typeAlias doc name type => exact meant_typeAlias h doc name type

end Meanings

/-- Declarations are read one by one: behind each, the nodes are settled for the next one. -/
theorem filterMap_declarations {α : Type} {f : List Node × Node → Option α}
    {meaning : Declaration → Option α}
    (hf : ∀ before decl, Settled before →
      (withBefore before (declarationNodes decl)).filterMap f = (meaning decl).toList)
    {before : List Node} (h : Settled before) (decls : List Declaration) :
    (withBefore before (decls.flatMap declarationNodes)).filterMap f = decls.filterMap meaning := by
  induction decls generalizing before with
  | nil => rfl
  | cons decl decls ih =>
    rw [List.flatMap_cons, withBefore_append, List.filterMap_append, hf before decl h,
      ih (settled_declaration before decl)]
    cases hmeaning : meaning decl <;> simp [hmeaning]

/-! ## Modules -/

/-- A node of a declaration is neither a header nor an import. -/
theorem header?_declarationNodes (decl : Declaration) : ∀ node ∈ declarationNodes decl,
    header? node = none ∧ brokenHeader? node = none ∧ import? node = none := by
  have hdoc : ∀ doc : Option DocText, ∀ node ∈ docNodes doc,
      header? node = none ∧ brokenHeader? node = none ∧ import? node = none := fun doc => by
    cases doc <;> simp [docNodes, docComments, header?, brokenHeader?, import?]
  cases decl with
  | function doc signature name =>
    cases signature <;> refine List.forall_mem_append.2 ⟨hdoc doc, ?_⟩ <;>
      simp [header?, brokenHeader?, import?]
  | customType doc | typeAlias doc =>
    refine List.forall_mem_append.2 ⟨hdoc doc, ?_⟩
    simp [header?, brokenHeader?, import?]

/-- The header and the imports. -/
def importNodes (place : Place) (d : Description) : List Node :=
  .header place false (some d.name.text) (some (entryNodes d.exposing)) :: d.imports.map importNode

theorem fileNodes_eq (place : Place) (d : Description) :
    fileNodes place d = importNodes place d ++ d.declarations.flatMap declarationNodes :=
  rfl

/-- Behind the imports, nothing belongs to the first declaration. -/
theorem settled_importNodes (place : Place) (d : Description) :
    Settled ((importNodes place d).reverse ++ []) := by
  rcases List.eq_nil_or_concat d.imports with himports | ⟨is, i, himports⟩
  · rw [importNodes, himports]
    exact ⟨rfl, fun _ => rfl⟩
  · have hreverse : (importNodes place d).reverse ++ [] =
        importNode i :: (.header place false (some d.name.text) (some (entryNodes d.exposing)) ::
          is.map importNode).reverse := by
      rw [importNodes, himports]
      simp
    rw [hreverse]
    exact ⟨rfl, fun _ => rfl⟩

/-- The header and the imports declare nothing. -/
theorem filterMap_importNodes {α : Type} {f : List Node × Node → Option α}
    (hheader : ∀ before place broken name exposing,
      f (before, .header place broken name exposing) = none)
    (himport : ∀ before broken name short exposing,
      f (before, .importClause broken name short exposing) = none)
    (place : Place) (d : Description) : (withBefore [] (importNodes place d)).filterMap f = [] := by
  have himports : ∀ before (is : List ImportClause),
      (withBefore before (is.map importNode)).filterMap f = [] := by
    intro before is
    induction is generalizing before with
    | nil => rfl
    | cons i is ih => exact (List.filterMap_cons_none (himport _ _ _ _ _)).trans (ih _)
  exact (List.filterMap_cons_none (hheader _ _ _ _ _)).trans (himports _ _)

/-- **Entries of a module.**  They are those of its declarations. -/
theorem filterMap_fileNodes {α : Type} {f : List Node × Node → Option α}
    {meaning : Declaration → Option α}
    (hheader : ∀ before place broken name exposing,
      f (before, .header place broken name exposing) = none)
    (himport : ∀ before broken name short exposing,
      f (before, .importClause broken name short exposing) = none)
    (hf : ∀ before decl, Settled before →
      (withBefore before (declarationNodes decl)).filterMap f = (meaning decl).toList)
    (place : Place) (d : Description) :
    (withBefore [] (fileNodes place d)).filterMap f = d.declarations.filterMap meaning := by
  rw [fileNodes_eq, withBefore_append, List.filterMap_append,
    filterMap_importNodes hheader himport, List.nil_append,
    filterMap_declarations hf (settled_importNodes place d)]

/-- No declaration is a header or an import. -/
theorem filterMap_declarationNodes (d : Description) :
    (d.declarations.flatMap declarationNodes).filterMap header? = [] ∧
      (d.declarations.flatMap declarationNodes).findSome? brokenHeader? = none ∧
      (d.declarations.flatMap declarationNodes).filterMap import? = [] := by
  have hnode : ∀ node ∈ d.declarations.flatMap declarationNodes,
      header? node = none ∧ brokenHeader? node = none ∧ import? node = none := fun node hnode => by
    obtain ⟨decl, -, hnode⟩ := List.mem_flatMap.1 hnode
    exact header?_declarationNodes decl node hnode
  exact ⟨List.filterMap_eq_nil_iff.2 fun node h => (hnode node h).1,
    List.findSome?_eq_none_iff.2 fun node h => (hnode node h).2.1,
    List.filterMap_eq_nil_iff.2 fun node h => (hnode node h).2.2⟩

/-- **The module of a description.** -/
theorem moduleOf_fileNodes (place : Place) (d : Description) :
    moduleOf (fileNodes place d) = d.module := by
  obtain ⟨hheaders, -, himports⟩ := filterMap_declarationNodes d
  have hheader : (fileNodes place d).filterMap header? = [(d.name.text, d.exposing.exposing)] := by
    have hfirst : header? (.header place false (some d.name.text) (some (entryNodes d.exposing))) =
        some (d.name.text, d.exposing.exposing) := by
      rw [header?, collapse_name, Option.map_some, ofNodes_entries]
      rfl
    have hnone : (d.imports.map importNode).filterMap header? = [] := by
      simp [List.filterMap_map, importNode, header?, Function.comp_def]
    rw [fileNodes, List.filterMap_cons_some hfirst, List.filterMap_append, hnone, hheaders,
      List.append_nil]
  have himport : (fileNodes place d).filterMap import? = d.imports.map (·.import) := by
    have hclauses : (d.imports.map importNode).filterMap import? = d.imports.map (·.import) := by
      rw [List.filterMap_map, show import? ∘ importNode = some ∘ (·.import) from
        funext import?_importNode, List.filterMap_eq_map]
    rw [fileNodes, List.filterMap_cons_none rfl, List.filterMap_append, hclauses, himports,
      List.append_nil]
  have hfunctions := filterMap_fileNodes (f := function?) (fun _ _ _ _ _ => rfl) (fun _ _ _ _ _ => rfl)
    (fun _ decl h => (meant_declaration h decl).function) place d
  have htypes := filterMap_fileNodes (f := customType?) (fun _ _ _ _ _ => rfl) (fun _ _ _ _ _ => rfl)
    (fun _ decl h => (meant_declaration h decl).customType) place d
  have haliases := filterMap_fileNodes (f := typeAlias?) (fun _ _ _ _ _ => rfl) (fun _ _ _ _ _ => rfl)
    (fun _ decl h => (meant_declaration h decl).typeAlias) place d
  rw [moduleOf, hheader, himport, hfunctions, htypes, haliases]
  rfl

/-- A tree without faults that starts with a good header has no error. -/
theorem lower_fileNodes (source : String) (place : Place) (d : Description) :
    Tree.lower ⟨fileNodes place d, false⟩ source = .ok d.module := by
  obtain ⟨-, hbroken, -⟩ := filterMap_declarationNodes d
  have hfault : faultyHeader? source (fileNodes place d) = none := by
    have himports : (d.imports.map importNode).findSome? brokenHeader? = none := by
      simp [importNode, brokenHeader?]
    have hreadable : unreadableHeader? source (fileNodes place d) = none := rfl
    have hheader : (fileNodes place d).findSome? brokenHeader? =
        (d.imports.map importNode ++ d.declarations.flatMap declarationNodes).findSome? brokenHeader? :=
      rfl
    rw [faultyHeader?, hreadable, hheader, List.findSome?_append, himports, hbroken]
    rfl
  rw [Tree.lower, hfault, moduleOf_fileNodes, Bool.and_false]
  rfl

end ElmAssist.Elm.Plain

namespace ElmAssist.Elm.Canonical

/-! ## The round trip -/

/-- **Printed modules are parsed exactly** by a parser that follows the grammar.  Whatever the
    description and its spacing, the result is the module that is described. -/
theorem parse_print {treeOf : String → Tree} (h : Grammar.FollowsGrammar treeOf) (l : Spacing)
    (d : Description) : parseWith treeOf (d.print l) = .ok d.module := by
  rw [parseWith, h.tree_eq (derives_print l d), Plain.lower_fileNodes]

/-- A module with one declaration of each kind. -/
def shapes : Description where
  name := ⟨⟨"Shapes", by decide⟩, [⟨"Flat", by decide⟩]⟩
  exposing := .entries (.type ⟨"Shape", by decide⟩ true) [.value ⟨"unit", by decide, by decide⟩]
  imports := [{ moduleName := ⟨⟨"Dict", by decide⟩, []⟩, shortName := some ⟨"D", by decide⟩ }]
  declarations :=
    [.customType (some ⟨"Has no size.", rfl, by decide +kernel, by decide +kernel, by simp⟩)
        ⟨"Shape", by decide⟩ ⟨"Line", by decide⟩ [⟨"Disk", by decide⟩],
      .typeAlias none ⟨"Form", by decide⟩ ⟨⟨"Shape", by decide⟩, []⟩,
      .function (some ⟨"One.", rfl, by decide +kernel, by decide +kernel, by simp⟩)
        (some ⟨⟨⟨"Shape", by decide⟩, []⟩, [⟨⟨"Int", by decide⟩, []⟩]⟩)
        ⟨"unit", by decide, by decide⟩]

theorem parse_print_shapes :
    let source := "module Shapes.Flat exposing (Shape(..), unit)\n\nimport Dict as D\n\n\n" ++
      "\x7b-| Has no size.\n-\x7d\ntype Shape\n    = Line\n    | Disk\n\n\n" ++
      "type alias Form =\n    Shape\n\n\n" ++
      "\x7b-| One.\n-\x7d\nunit : Shape -> Int\nunit =\n    0\n"
    Grammar.FollowsGrammar Tree.ofSource ∧ shapes.print {} = source ∧
      parse source = .ok {
        name := "Shapes.Flat"
        exposing := .explicit [.type "Shape" true, .value "unit"]
        imports := [⟨"Dict", some "D", none⟩]
        functions := [⟨"unit", some "Shape -> Int", some "One."⟩]
        types := [⟨"Shape", ["Line", "Disk"], some "Has no size."⟩]
        aliases := [⟨"Form", none⟩] } := by
  intro source
  have hprint : shapes.print {} = source := by decide +kernel
  have hparse := parse_print Grammar.followsGrammar_ofSource {} shapes
  rw [hprint] at hparse
  exact ⟨Grammar.followsGrammar_ofSource, hprint, hparse⟩

/-- A parser that takes a NUL for the end of the text, and so finds nothing but a fault at its
    start, makes the header of the text look broken. -/
example : Tree.lower ⟨[.unreadable {}], true⟩
    "module A exposing (..)\n\n\x7b-| a\x00b\n-\x7d\nf =\n    0\n" =
      .error (.malformedHeader 0 0) := by
  decide +kernel

end ElmAssist.Elm.Canonical
