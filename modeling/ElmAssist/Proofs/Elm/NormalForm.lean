/-
  The texts of parsed modules.

  A name or a type may be written over several lines, and documentation with blank lines around it.
  However a file is laid out, its module has them in normal form.

  * `Module.IsNormal`: names and types are collapsed, and documentation is trimmed.
  * `lower_isNormal`: so they are in the module of any syntax tree.
  * `parse_isNormal`: so they are in any module that is parsed, and what that says about a text.
-/
import ElmAssist.Elm.Parse
import ElmAssist.Proofs.Elm.Attachment
import ElmAssist.Proofs.Text.Collapsed

namespace ElmAssist.Elm

/-! ## Normal form -/

/-- A value that is listed by its name. -/
inductive Exposing.ListsValue : Exposing → String → Prop
  | explicit {items : List ExposedItem} {name : String} : .value name ∈ items →
      ListsValue (.explicit items) name

/-- The listed values have collapsed names. -/
def Exposing.IsNormal (e : Exposing) : Prop :=
  ∀ name, e.ListsValue name → Text.collapse name = name

/-- The module and the listed values have collapsed names. -/
structure Import.IsNormal (i : Import) : Prop where
  name : Text.collapse i.moduleName = i.moduleName
  exposing : ∀ e ∈ i.exposing, e.IsNormal

/-- Documentation without blanks at its ends. -/
def IsNormalComment (comment : Option String) : Prop :=
  ∀ body ∈ comment, Text.IsTrimmed body.toList

/-- Names and types are collapsed, and documentation is trimmed. -/
structure Module.IsNormal (m : Module) : Prop where
  name : Text.collapse m.name = m.name
  exposing : m.exposing.IsNormal
  imports : ∀ i ∈ m.imports, i.IsNormal
  signatures : ∀ f ∈ m.functions, ∀ type ∈ f.signature, Text.collapse type = type
  functionComments : ∀ f ∈ m.functions, IsNormalComment f.comment
  typeComments : ∀ t ∈ m.types, IsNormalComment t.comment
  aliasComments : ∀ a ∈ m.aliases, IsNormalComment a.comment

/-! ## Headers and imports -/

section Clauses

variable {node : Node}

theorem Exposing.isNormal_all : all.IsNormal :=
  fun _ hlisted => nomatch hlisted

theorem Exposing.isNormal_ofNodes (nodes : List ExposedNode) : (ofNodes nodes).IsNormal := by
  intro name h
  rw [ofNodes] at h
  split at h <;> cases h
  next hmem =>
  obtain ⟨node, -, hitem⟩ := List.mem_filterMap.1 hmem
  cases node with
  | value text =>
    cases hitem
    exact Text.collapse_collapse text
  | type name constructors => cases name <;> cases hitem
  | _ => cases hitem

theorem Node.Imports.isNormal {i : Import} (h : node.Imports i) : i.IsNormal := by
  cases h
  refine ⟨Text.collapse_collapse _, fun e he => ?_⟩
  obtain ⟨nodes, -, rfl⟩ := Option.map_eq_some_iff.1 he
  exact Exposing.isNormal_ofNodes nodes

theorem isNormal_header? {name : String} {exposing : Exposing}
    (h : header? node = some (name, exposing)) :
    Text.collapse name = name ∧ exposing.IsNormal := by
  rw [header?.eq_def] at h
  split at h <;> cases h
  next exposing =>
  refine ⟨Text.collapse_collapse _, ?_⟩
  cases exposing with
  | none => exact Exposing.isNormal_all
  | some nodes => exact Exposing.isNormal_ofNodes nodes

/-- The last header counts, and a file without one has the default name. -/
theorem isNormal_headerOf (nodes : List Node) :
    Text.collapse (moduleOf nodes).name = (moduleOf nodes).name ∧
      (moduleOf nodes).exposing.IsNormal := by
  have hname : (moduleOf nodes).name =
    ((nodes.filterMap header?).getLast?.map (·.1)).getD defaultModuleName := rfl
  have hexposing : (moduleOf nodes).exposing =
    ((nodes.filterMap header?).getLast?.map (·.2)).getD .all := rfl
  rw [hname, hexposing]
  cases hlast : (nodes.filterMap header?).getLast? with
  | none => exact ⟨by decide, Exposing.isNormal_all⟩
  | some header =>
    obtain ⟨node, -, hnode⟩ := List.mem_filterMap.1 (List.mem_of_getLast? hlast)
    exact isNormal_header? hnode

end Clauses

/-! ## Declarations -/

section Declarations

variable {nodes : List Node} {i : ℕ}

theorem Comment.IsDocumentation.isTrimmed {c : Comment} {body : String}
    (h : c.IsDocumentation body) : Text.IsTrimmed body.toList := by
  obtain ⟨-, inner, -, ⟨text, -, rfl⟩ | ⟨-, rfl⟩⟩ := h
  · exact Text.isTrimmed_trim _
  · exact Text.isTrimmed_trim _

theorem Commented.isNormal {comment : Option String} (h : Commented nodes i comment) :
    IsNormalComment comment := by
  intro body hbody
  obtain ⟨j, c, -, hc⟩ := (h body).1 hbody
  exact hc.isTrimmed

theorem Typed.collapse_eq {signature : Option String} (h : Typed nodes i signature) :
    ∀ type ∈ signature, Text.collapse type = type := by
  intro type htype
  rcases (h type).1 htype with ⟨_, written, -, rfl⟩ | ⟨_, written, -, rfl⟩
  · exact Text.collapse_collapse written
  · exact Text.collapse_collapse written

end Declarations

/-! ## Modules -/

theorem isNormal_moduleOf (nodes : List Node) : (moduleOf nodes).IsNormal where
  name := (isNormal_headerOf nodes).1
  exposing := (isNormal_headerOf nodes).2
  imports i hi := by
    obtain ⟨node, -, hnode⟩ := List.mem_filterMap.1 hi
    exact (import?_eq_some_iff.1 hnode).isNormal
  signatures f hf := by
    obtain ⟨i, hi⟩ := (inOrder_functionAt nodes).exists_place hf
    exact hi.typed.collapse_eq
  functionComments f hf := by
    obtain ⟨i, hi⟩ := (inOrder_functionAt nodes).exists_place hf
    exact hi.commented.isNormal
  typeComments t ht := by
    obtain ⟨i, hi⟩ := (inOrder_customTypeAt nodes).exists_place ht
    exact hi.commented.isNormal
  aliasComments a ha := by
    obtain ⟨i, hi⟩ := (inOrder_typeAliasAt nodes).exists_place ha
    exact hi.commented.isNormal

theorem lower_isNormal {tree : Tree} {source : String} {m : Module}
    (h : tree.lower source = .ok m) : m.IsNormal := by
  obtain ⟨-, -, rfl⟩ := lower_eq_ok_iff.1 h
  exact isNormal_moduleOf tree.nodes

/-- **Parsed modules are in normal form**, whatever the parser: their names and types are
    collapsed, and their documentation is trimmed.  Collapsed texts have no blank at either end and
    single spaces within.  A second time, collapsing changes nothing, and it never changes what is
    not blank. -/
theorem parse_isNormal :
    (∀ treeOf source m, parseWith treeOf source = .ok m → m.IsNormal) ∧
    (∀ s, Text.collapse s = s ↔ Text.IsCollapsed s.toList) ∧
    (∀ s, Text.collapse (Text.collapse s) = Text.collapse s) ∧
    ∀ s, (Text.collapse s).toList.filter (!Text.isBlank ·) = s.toList.filter (!Text.isBlank ·) := by
  refine ⟨fun treeOf source m h => ?_, fun s => Text.collapse_eq_self_iff, Text.collapse_collapse,
    Text.filter_collapse⟩
  rw [parseWith] at h
  exact lower_isNormal h

/-- A type over two lines, and documentation with blanks around it. -/
theorem parse_isNormal_twoLines :
    let source :=
      "import B exposing (g)\n\n\x7b-|  Adds\n  one. -\x7d\nf : Int\n   -> Int\nf x =\n    x\n"
    let m : Module := {
      imports := [⟨"B", none, some (.explicit [.value "g"])⟩]
      functions := [⟨"f", some "Int -> Int", some "Adds\n  one."⟩] }
    parse source = .ok m ∧ m.IsNormal ∧ Text.IsCollapsed "Int -> Int".toList ∧
      Text.IsTrimmed "Adds\n  one.".toList := by
  intro source m
  have hparse : parse source = .ok m := by decide +kernel
  obtain ⟨hnormal, hcollapsed, -⟩ := parse_isNormal
  have hm := hnormal Tree.ofSource source m hparse
  have htype := hm.signatures _ List.mem_cons_self "Int -> Int" rfl
  have hbody := hm.functionComments _ List.mem_cons_self "Adds\n  one." rfl
  exact ⟨hparse, hm, (hcollapsed _).1 htype, hbody⟩

end ElmAssist.Elm
