/-
  Files with faults.

  * `HasFaultyHeader`, `HoldsNothing`: the two reasons for which a file is no module.
  * `lower_cases`: without them it is the module of its nodes.
  * `lower_replace`: a broken declaration is as good as any other one.
  * `lower_tolerant`: a file is a module unless one of the reasons applies, holds what is declared
    without faults, and does not depend on what its broken declarations look like.
-/
import ElmAssist.Proofs.Elm.Declarations
import ElmAssist.Proofs.Text.Words

namespace ElmAssist.Elm

/-! ## Faulty headers -/

/-- A header that is broken or has no name. -/
inductive Node.IsFaultyHeader : Node → Prop
  | broken {place : Place} {name : Option String} {exposing : Option (List ExposedNode)} :
      IsFaultyHeader (.header place true name exposing)
  | nameless {place : Place} {broken : Bool} {exposing : Option (List ExposedNode)} :
      IsFaultyHeader (.header place broken none exposing)

/-- A text that begins with `module`, but for blanks. -/
def BeginsAsHeader (source : String) : Prop :=
  ∃ blanks rest, source.toList = blanks ++ ("module".toList ++ rest) ∧
    ∀ c ∈ blanks, Text.isBlank c = true

/-- One of the headers is faulty, or the file starts with text that could not be read and begins as
    a header does. -/
def Tree.HasFaultyHeader (tree : Tree) (source : String) : Prop :=
  (∃ node ∈ tree.nodes, node.IsFaultyHeader) ∨
    ∃ place rest, tree.nodes = .unreadable place :: rest ∧ place.offset = 0 ∧ BeginsAsHeader source

theorem prefix_dropWhile_iff {p : Char → Bool} {c : Char} {word cs : List Char}
    (hc : p c = false) : c :: word <+: cs.dropWhile p ↔
      ∃ blanks rest, cs = blanks ++ (c :: word ++ rest) ∧ ∀ b ∈ blanks, p b = true := by
  constructor
  · rintro ⟨rest, hrest⟩
    refine ⟨cs.takeWhile p, rest, ?_, fun b hb => List.mem_takeWhile_imp hb⟩
    rw [hrest, List.takeWhile_append_dropWhile]
  · rintro ⟨blanks, rest, rfl, hblanks⟩
    refine ⟨rest, ?_⟩
    rw [List.dropWhile_append_of_pos hblanks, List.cons_append,
      List.dropWhile_cons_of_neg (by simp [hc])]

theorem beginsAsHeader_iff {source : String} :
    "module".toList.isPrefixOf (Text.trimStart source).toList = true ↔ BeginsAsHeader source := by
  have htrim : (Text.trimStart source).toList = source.toList.dropWhile Text.isBlank :=
    String.toList_ofList
  rw [List.isPrefixOf_iff_prefix, htrim]
  exact prefix_dropWhile_iff (by decide)

theorem exists_brokenHeader?_iff {node : Node} :
    (∃ place, brokenHeader? node = some place) ↔ node.IsFaultyHeader := by
  constructor
  · rintro ⟨place, h⟩
    rw [brokenHeader?.eq_def] at h
    split at h
    · next place' broken name exposing =>
      cases broken with
      | true => exact .broken
      | false =>
        cases name with
        | none => exact .nameless
        | some => cases h
    · cases h
  · rintro (_ | @⟨place, broken, _⟩)
    · exact ⟨_, rfl⟩
    · exact ⟨place, by cases broken <;> rfl⟩

theorem unreadableHeader?_eq_some_iff {source : String} {nodes : List Node} {place : Place} :
    unreadableHeader? source nodes = some place ↔
      (∃ rest, nodes = .unreadable place :: rest) ∧ place.offset = 0 ∧ BeginsAsHeader source := by
  rw [← beginsAsHeader_iff]
  constructor
  · intro h
    rw [unreadableHeader?.eq_def] at h
    split at h
    · next place' rest =>
      split at h <;> cases h
      exact ⟨⟨rest, rfl⟩, ‹_›⟩
    · cases h
  · rintro ⟨⟨rest, rfl⟩, h⟩
    exact if_pos h

/-- **Where a header is faulty**, the place of a fault is found. -/
theorem exists_faultyHeader?_iff {tree : Tree} {source : String} :
    (∃ place, faultyHeader? source tree.nodes = some place) ↔ tree.HasFaultyHeader source := by
  simp only [← Option.isSome_iff_exists, faultyHeader?, Option.isSome_or, Bool.or_eq_true,
    List.findSome?_isSome_iff]
  simp only [Option.isSome_iff_exists, exists_brokenHeader?_iff, unreadableHeader?_eq_some_iff]
  rw [or_comm, Tree.HasFaultyHeader]
  simp only [exists_and_right]

/-! ## Modules of files -/

/-- A text with a character that is not blank. -/
def NotBlank (source : String) : Prop :=
  ∃ c ∈ source.toList, Text.isBlank c = false

/-- Nothing is recognised in a text that is not blank, and has faults. -/
structure Tree.HoldsNothing (tree : Tree) (source : String) : Prop where
  notRecognized : ∀ node ∈ tree.nodes, ¬node.IsRecognized
  notBlank : NotBlank source
  hasFault : tree.hasFault = true

theorem isAllBlank_eq_false_iff {source : String} :
    Text.isAllBlank source = false ↔ NotBlank source := by
  rw [Text.isAllBlank, List.all_eq_false]
  simp only [Bool.not_eq_true, NotBlank]

theorem holdsNothing_iff {tree : Tree} {source : String} :
    (!(withBefore [] tree.nodes).any isRecognized && !Text.isAllBlank source &&
      tree.hasFault) = true ↔ tree.HoldsNothing source := by
  rw [Bool.and_eq_true, Bool.and_eq_true, Bool.not_eq_true', Bool.not_eq_true',
    isAllBlank_eq_false_iff, ← Bool.not_eq_true, any_isRecognized_iff]
  constructor
  · rintro ⟨⟨hnone, hblank⟩, hfault⟩
    exact ⟨fun node hnode hrecognized => hnone ⟨node, hnode, hrecognized⟩, hblank, hfault⟩
  · rintro ⟨hnone, hblank, hfault⟩
    exact ⟨⟨fun ⟨node, hnode, hrecognized⟩ => hnone node hnode hrecognized, hblank⟩, hfault⟩

/-- **What becomes of a file.** -/
theorem lower_cases (tree : Tree) (source : String) :
    (tree.HasFaultyHeader source ∧
      ∃ row column, tree.lower source = .error (.malformedHeader row column)) ∨
    (¬tree.HasFaultyHeader source ∧ tree.HoldsNothing source ∧
      tree.lower source = .error .unrecognized) ∨
    ¬tree.HasFaultyHeader source ∧ ¬tree.HoldsNothing source ∧
      tree.lower source = .ok (moduleOf tree.nodes) := by
  rw [← exists_faultyHeader?_iff, ← holdsNothing_iff]
  cases hheader : faultyHeader? source tree.nodes with
  | some place =>
    refine .inl ⟨⟨place, rfl⟩, place.row, place.column, ?_⟩
    rw [Tree.lower, hheader]
  | none =>
    have hnot : ¬∃ place, (none : Option Place) = some place := by simp
    refine .inr ?_
    by_cases hnothing : (!(withBefore [] tree.nodes).any isRecognized &&
        !Text.isAllBlank source && tree.hasFault) = true
    · refine .inl ⟨hnot, hnothing, ?_⟩
      rw [Tree.lower, hheader]
      exact if_pos hnothing
    · refine .inr ⟨hnot, hnothing, ?_⟩
      rw [Tree.lower, hheader]
      exact if_neg hnothing

theorem lower_malformedHeader_iff {tree : Tree} {source : String} :
    (∃ row column, tree.lower source = .error (.malformedHeader row column)) ↔
      tree.HasFaultyHeader source := by
  rcases lower_cases tree source with
    ⟨hheader, hlower⟩ | ⟨hheader, -, hlower⟩ | ⟨hheader, -, hlower⟩
  · exact iff_of_true hlower hheader
  · exact iff_of_false (by simp [hlower]) hheader
  · exact iff_of_false (by simp [hlower]) hheader

theorem lower_eq_unrecognized_iff {tree : Tree} {source : String} :
    tree.lower source = .error .unrecognized ↔
      ¬tree.HasFaultyHeader source ∧ tree.HoldsNothing source := by
  rcases lower_cases tree source with
    ⟨hheader, row, column, hlower⟩ | ⟨hheader, hnothing, hlower⟩ | ⟨-, hnothing, hlower⟩
  · exact iff_of_false (by simp [hlower]) fun h => h.1 hheader
  · exact iff_of_true hlower ⟨hheader, hnothing⟩
  · exact iff_of_false (by simp [hlower]) fun h => hnothing h.2

theorem lower_eq_ok_iff {tree : Tree} {source : String} {m : Module} :
    tree.lower source = .ok m ↔
      ¬tree.HasFaultyHeader source ∧ ¬tree.HoldsNothing source ∧ m = moduleOf tree.nodes := by
  rcases lower_cases tree source with
    ⟨hheader, row, column, hlower⟩ | ⟨-, hnothing, hlower⟩ | ⟨hheader, hnothing, hlower⟩
  · exact iff_of_false (by simp [hlower]) fun h => h.1 hheader
  · exact iff_of_false (by simp [hlower]) fun h => h.2.1 hnothing
  · rw [hlower, Except.ok.injEq, and_iff_right hheader, and_iff_right hnothing, eq_comm]

/-! ## Broken declarations -/

/-- A declaration that is broken. -/
inductive Node.IsBrokenDeclaration : Node → Prop
  | value {name : Option String} : IsBrokenDeclaration (.value true name)
  | port {name type : Option String} : IsBrokenDeclaration (.port true name type)
  | customType {name : Option String} {variants : List (Option String)} :
      IsBrokenDeclaration (.customType true name variants)
  | typeAlias {name : Option String} : IsBrokenDeclaration (.typeAlias true name)

/-- A node that gives a module nothing. -/
structure Node.GivesNothing (node : Node) : Prop where
  header : header? node = none
  brokenHeader : brokenHeader? node = none
  imports : import? node = none
  function : ∀ front, function? (front, node) = none
  customType : ∀ front, customType? (front, node) = none
  typeAlias : ∀ front, typeAlias? (front, node) = none

/-- Two nodes, seen with those in front of them, that declare the same. -/
structure DeclareAlike (entry entry' : List Node × Node) : Prop where
  function : function? entry = function? entry'
  customType : customType? entry = customType? entry'
  typeAlias : typeAlias? entry = typeAlias? entry'

section Replace

variable {node node' : Node} (h : node.IsBrokenDeclaration) (h' : node'.IsBrokenDeclaration)

include h

theorem Node.IsBrokenDeclaration.givesNothing : node.GivesNothing := by
  cases h <;> exact ⟨rfl, rfl, rfl, fun _ => rfl, fun _ => rfl, fun _ => rfl⟩

theorem Node.IsBrokenDeclaration.not_isRecognized : ¬node.IsRecognized := by
  rintro (_ | himports | (hfunction | htype | halias))
  · cases h
  · cases himports
    cases h
  · cases hfunction <;> cases h
  · cases htype
    cases h
  · cases halias
    cases h

include h'

/-- What stands behind a broken declaration has no documentation from it. -/
theorem documentation?_behind (recent front : List Node) :
    documentation? (recent ++ node :: front) = documentation? (recent ++ node' :: front) := by
  cases recent with
  | nil => cases h <;> cases h' <;> rfl
  | cons last rest => cases last <;> rfl

/-- An annotation behind a broken declaration belongs to what it belongs to. -/
theorem attached?_behind (name : String) (recent front : List Node) :
    (attached? name (recent ++ node :: front) = none ∧
      attached? name (recent ++ node' :: front) = none) ∨
    ∃ type rest, attached? name (recent ++ node :: front) = some (type, rest ++ node :: front) ∧
      attached? name (recent ++ node' :: front) = some (type, rest ++ node' :: front) := by
  cases recent with
  | nil => cases h <;> cases h' <;> exact .inl ⟨rfl, rfl⟩
  | cons last rest =>
    cases last with
    | signature broken other type =>
      by_cases hname : other = some name
      · exact .inr ⟨type, rest, if_pos hname, if_pos hname⟩
      · exact .inl ⟨if_neg hname, if_neg hname⟩
    | _ => exact .inl ⟨rfl, rfl⟩

/-- A declaration behind a broken one declares what it declares behind another one. -/
theorem declareAlike_behind (recent front : List Node) (x : Node) :
    DeclareAlike (recent ++ node :: front, x) (recent ++ node' :: front, x) := by
  have hdocumentation := documentation?_behind h h'
  cases x with
  | value broken name =>
    refine ⟨?_, rfl, rfl⟩
    cases broken with
    | true => rfl
    | false =>
      cases name with
      | none => rfl
      | some name =>
        rcases attached?_behind h h' name recent front with
          ⟨hold, hnew⟩ | ⟨type, rest, hold, hnew⟩ <;>
            simp only [function?, hold, hnew, hdocumentation]
  | port broken name type =>
    refine ⟨?_, rfl, rfl⟩
    cases broken <;> cases name <;> simp only [function?, hdocumentation]
  | customType broken name variants =>
    refine ⟨rfl, ?_, rfl⟩
    cases broken <;> cases name <;> simp only [customType?, hdocumentation]
  | typeAlias broken name =>
    refine ⟨rfl, rfl, ?_⟩
    cases broken <;> cases name <;> simp only [typeAlias?, hdocumentation]
  | _ => exact ⟨rfl, rfl, rfl⟩

omit h h'

/-- What is taken from the nodes one by one, if a node gives nothing and does not bear on others. -/
theorem filterMap_replace {α : Type} {f : List Node × Node → Option α}
    (hnode : ∀ front, f (front, node) = none) (hnode' : ∀ front, f (front, node') = none)
    (hbehind : ∀ recent front x, f (recent ++ node :: front, x) = f (recent ++ node' :: front, x))
    (front back : List Node) :
    (withBefore [] (front ++ node :: back)).filterMap f =
      (withBefore [] (front ++ node' :: back)).filterMap f := by
  -- However many nodes have been passed since, those in front differ in the one replaced only.
  have hback : ∀ recent, (withBefore (recent ++ node :: front.reverse) back).filterMap f =
      (withBefore (recent ++ node' :: front.reverse) back).filterMap f := by
    induction back with
    | nil => exact fun _ => rfl
    | cons x back ih =>
      intro recent
      have hrest := ih (x :: recent)
      rw [withBefore, withBefore, List.filterMap_cons, List.filterMap_cons, hbehind]
      rw [List.cons_append, List.cons_append] at hrest
      rw [hrest]
  rw [withBefore_append, withBefore_append, List.filterMap_append, List.filterMap_append,
    List.append_nil, withBefore, withBefore, List.filterMap_cons_none (hnode _),
    List.filterMap_cons_none (hnode' _)]
  exact congrArg _ (hback [])

end Replace

/-! ## Replacing a broken declaration -/

/-- Texts that are alike in all that counts beside their nodes. -/
structure LooksAlike (source source' : String) : Prop where
  notBlank : NotBlank source ↔ NotBlank source'
  header : BeginsAsHeader source ↔ BeginsAsHeader source'

theorem BeginsAsHeader.notBlank {source : String} (h : BeginsAsHeader source) :
    NotBlank source := by
  obtain ⟨blanks, rest, hsource, -⟩ := h
  refine ⟨'m', ?_, rfl⟩
  rw [hsource]
  exact List.mem_append_right _ List.mem_cons_self

/-- Texts that begin with a header look alike. -/
theorem looksAlike_of_header {source source' : String} (h : BeginsAsHeader source)
    (h' : BeginsAsHeader source') : LooksAlike source source' :=
  ⟨iff_of_true h.notBlank h'.notBlank, iff_of_true h h'⟩

section Outcome

variable {node node' : Node} (h : node.IsBrokenDeclaration) (h' : node'.IsBrokenDeclaration)
  (front back : List Node)

include h h'

omit h h' in
theorem filterMap_leave {α : Type} {f : Node → Option α} (hnode : f node = none) :
    (front ++ node :: back).filterMap f = (front ++ back).filterMap f := by
  rw [List.filterMap_append, List.filterMap_cons_none hnode, List.filterMap_append]

theorem moduleOf_replace :
    moduleOf (front ++ node :: back) = moduleOf (front ++ node' :: back) := by
  have hold := h.givesNothing
  have hnew := h'.givesNothing
  have hbehind := declareAlike_behind h h'
  have hfunctions := filterMap_replace hold.function hnew.function
    (fun recent front x => (hbehind recent front x).function) front back
  have htypes := filterMap_replace hold.customType hnew.customType
    (fun recent front x => (hbehind recent front x).customType) front back
  have haliases := filterMap_replace hold.typeAlias hnew.typeAlias
    (fun recent front x => (hbehind recent front x).typeAlias) front back
  have hheaders : (front ++ node :: back).filterMap header? =
      (front ++ node' :: back).filterMap header? := by
    rw [filterMap_leave _ _ hold.header, filterMap_leave _ _ hnew.header]
  have himports : (front ++ node :: back).filterMap import? =
      (front ++ node' :: back).filterMap import? := by
    rw [filterMap_leave _ _ hold.imports, filterMap_leave _ _ hnew.imports]
  rw [moduleOf, moduleOf, hfunctions, htypes, haliases, hheaders, himports]

theorem any_isRecognized_replace :
    (withBefore [] (front ++ node :: back)).any isRecognized =
      (withBefore [] (front ++ node' :: back)).any isRecognized := by
  rw [Bool.eq_iff_iff, any_isRecognized_iff, any_isRecognized_iff]
  simp only [List.mem_append, List.mem_cons, or_and_right, exists_or, exists_eq_left,
    h.not_isRecognized, h'.not_isRecognized]

theorem faultyHeader?_replace {source source' : String}
    (hheader : BeginsAsHeader source ↔ BeginsAsHeader source') :
    faultyHeader? source (front ++ node :: back) =
      faultyHeader? source' (front ++ node' :: back) := by
  have hbroken : (front ++ node :: back).findSome? brokenHeader? =
      (front ++ node' :: back).findSome? brokenHeader? := by
    rw [List.findSome?_append, List.findSome?_append, List.findSome?_cons, List.findSome?_cons,
      h.givesNothing.brokenHeader, h'.givesNothing.brokenHeader]
  have hunreadable : unreadableHeader? source (front ++ node :: back) =
      unreadableHeader? source' (front ++ node' :: back) := by
    cases front with
    | nil => cases h <;> cases h' <;> rfl
    | cons first rest =>
      cases first with
      | unreadable place =>
        rw [← beginsAsHeader_iff, ← beginsAsHeader_iff] at hheader
        exact if_congr (and_congr_right fun _ => hheader) rfl rfl
      | _ => rfl
  rw [faultyHeader?, faultyHeader?, hunreadable, hbroken]

/-- **A broken declaration** may be replaced by another one. -/
theorem lower_replace {source source' : String} (hsource : LooksAlike source source') :
    Tree.lower ⟨front ++ node :: back, true⟩ source =
      Tree.lower ⟨front ++ node' :: back, true⟩ source' := by
  have hblank : Text.isAllBlank source = Text.isAllBlank source' := by
    rw [Bool.eq_iff_iff, ← not_iff_not, Bool.not_eq_true, Bool.not_eq_true,
      isAllBlank_eq_false_iff, isAllBlank_eq_false_iff]
    exact hsource.notBlank
  rw [Tree.lower, Tree.lower, faultyHeader?_replace h h' front back hsource.header,
    any_isRecognized_replace h h', moduleOf_replace h h', hblank]

end Outcome

/-! ## Tolerance -/

/-- **Faults stay where they are.**  A file is no module if a header of it is faulty, or if nothing
    in it is recognised although it is not blank and has faults.  Otherwise it is a module, and
    holds the imports, functions, types and aliases of the clauses with a name and of the sound
    declarations with a name, in order.  A broken declaration may be replaced by any other one. -/
theorem lower_tolerant (tree : Tree) (source : String) :
    ((∃ row column, tree.lower source = .error (.malformedHeader row column)) ↔
      tree.HasFaultyHeader source) ∧
    (tree.lower source = .error .unrecognized ↔
      ¬tree.HasFaultyHeader source ∧ tree.HoldsNothing source) ∧
    (¬tree.HasFaultyHeader source → ¬tree.HoldsNothing source →
      ∃ m, tree.lower source = .ok m ∧
        InOrder (fun i x => ∃ node, tree.nodes[i]? = some node ∧ node.Imports x) m.imports ∧
        InOrder (fun i (f : Function) =>
          ∃ node, tree.nodes[i]? = some node ∧ node.DeclaresFunction f.name) m.functions ∧
        InOrder (fun i (t : CustomType) =>
          ∃ node, tree.nodes[i]? = some node ∧ node.DeclaresType t.name t.constructors) m.types ∧
        InOrder (fun i (a : TypeAlias) =>
          ∃ node, tree.nodes[i]? = some node ∧ node.DeclaresAlias a.name) m.aliases) ∧
    ∀ front node node' back source', tree = ⟨front ++ node :: back, true⟩ →
      node.IsBrokenDeclaration → node'.IsBrokenDeclaration → LooksAlike source source' →
      Tree.lower ⟨front ++ node' :: back, true⟩ source' = tree.lower source := by
  refine ⟨lower_malformedHeader_iff, lower_eq_unrecognized_iff, fun hheader hnothing => ?_, ?_⟩
  · exact ⟨_, lower_eq_ok_iff.2 ⟨hheader, hnothing, rfl⟩, inOrder_imports _, inOrder_functions _,
      inOrder_types _, inOrder_aliases _⟩
  · rintro front node node' back source' rfl h h' hsource
    exact (lower_replace h h' front back hsource).symm

/-- A broken value in front of a port, and a broken type alias in its place. -/
theorem lower_tolerant_brokenValue :
    let front : List Node :=
      [.header {} false (some "A") none, .importClause true (some "List") none none]
    let back : List Node := [.port false (some "f") (some "Int")]
    let tree : Tree := ⟨front ++ .value true (some "g") :: back, true⟩
    let source := "module A exposing (..)\nimport List as\ng = (\nport f : Int\n"
    let source' := "module A exposing (..)\nimport List as\ntype alias\nport f : Int\n"
    ¬tree.HasFaultyHeader source ∧ ¬tree.HoldsNothing source ∧
      (∃ m, tree.lower source = .ok m ∧ InOrder (fun i (f : Function) =>
        ∃ node, tree.nodes[i]? = some node ∧ node.DeclaresFunction f.name) m.functions) ∧
      Node.IsBrokenDeclaration (.value true (some "g")) ∧
      Node.IsBrokenDeclaration (.typeAlias true none) ∧ LooksAlike source source' ∧
      Tree.lower ⟨front ++ .typeAlias true none :: back, true⟩ source' = tree.lower source := by
  intro front back tree source source'
  obtain ⟨-, -, hmodule, hreplace⟩ := lower_tolerant tree source
  have hheader : ¬tree.HasFaultyHeader source := by
    have hnone : faultyHeader? source tree.nodes = none := by decide
    rw [← exists_faultyHeader?_iff, hnone]
    simp
  have hnothing : ¬tree.HoldsNothing source := fun h =>
    h.notRecognized _ List.mem_cons_self .header
  have hsource : LooksAlike source source' :=
    looksAlike_of_header (beginsAsHeader_iff.1 (by decide)) (beginsAsHeader_iff.1 (by decide))
  obtain ⟨m, hm, -, hfunctions, -⟩ := hmodule hheader hnothing
  exact ⟨hheader, hnothing, ⟨m, hm, hfunctions⟩, .value, .typeAlias, hsource,
    hreplace front _ _ back source' rfl .value .typeAlias hsource⟩

end ElmAssist.Elm
