/-
  What is attached to declarations.

  * `AnnotationOf`, `CommentOf`: the annotation in front of a value declaration, and the comment in
    front of a declaration or of its annotation.
  * `documentation?_nodesBefore`, `attached?_nodesBefore`: what is seen from a place.
  * `AnnotationOf.place_unique`, `CommentOf.place_unique`: neither belongs to two declarations.
  * `lower_attachments`: a declaration has the type of its annotation, or of itself if it is a port,
    and the documentation of its comment, and nothing else is attached to it.
-/
import ElmAssist.Proofs.Elm.Tolerance
import Mathlib.Data.List.Basic

namespace ElmAssist.Elm

/-! ## Documentation -/

/-- The body of a documentation comment: what stands between its delimiters, without the blanks at
    both ends. -/
def Comment.IsDocumentation (c : Comment) (body : String) : Prop :=
  c.block = true ∧ ∃ inner, c.text.toList = "\x7b-|".toList ++ inner ∧
    ((∃ text, inner = text ++ "-\x7d".toList ∧ body = Text.trim (String.ofList text)) ∨
      ¬"-\x7d".toList <:+ inner ∧ body = Text.trim (String.ofList inner))

theorem Comment.documentation?_eq_some_iff {c : Comment} {body : String} :
    c.documentation? = some body ↔ c.IsDocumentation body := by
  have htake : ∀ text cut : List Char,
      (text ++ cut).take ((text ++ cut).length - cut.length) = text := fun text cut => by
    rw [List.length_append, Nat.add_sub_cancel, List.take_left]
  rw [documentation?, IsDocumentation]
  cases c.block with
  | false => simp
  | true =>
    rw [if_pos rfl, Option.map_eq_some_iff]
    simp only [List.isPrefixOf?_eq_some_iff_append_eq, List.isSuffixOf_iff_suffix]
    constructor
    · rintro ⟨inner, hinner, rfl⟩
      refine ⟨trivial, inner, hinner.symm, ?_⟩
      split
      · next hend =>
        obtain ⟨text, rfl⟩ := hend
        exact .inl ⟨text, rfl, by rw [htake]⟩
      · next hend => exact .inr ⟨hend, rfl⟩
    · rintro ⟨-, inner, hinner, ⟨text, rfl, rfl⟩ | ⟨hend, rfl⟩⟩
      · exact ⟨_, hinner.symm, by rw [if_pos (List.suffix_append _ _), htake]⟩
      · exact ⟨inner, hinner.symm, by rw [if_neg hend]⟩

/-! ## Attachment -/

/-- The annotation at place `j`, of a type, belongs to the function at place `i`: it stands directly
    in front of its declaration, and has its name. -/
def AnnotationOf (nodes : List Node) (j i : ℕ) (type : Option String) : Prop :=
  i = j + 1 ∧ ∃ broken name, nodes[j]? = some (.signature broken (some name) type) ∧
    nodes[i]? = some (.value false (some name))

/-- A comment at place `j` belongs to the declaration at place `i`: it stands directly in front of
    the declaration, or of the annotation that belongs to it. -/
inductive CommentOf (nodes : List Node) : ℕ → ℕ → Comment → Prop
  | declaration {j : ℕ} {c : Comment} {node : Node} : nodes[j]? = some (.comment c) →
      nodes[j + 1]? = some node → node.IsDeclaration → CommentOf nodes j (j + 1) c
  | annotated {j i : ℕ} {c : Comment} {type : Option String} : nodes[j]? = some (.comment c) →
      AnnotationOf nodes (j + 1) i type → CommentOf nodes j i c

section Places

variable {nodes : List Node} {i i' j j' : ℕ} {type type' : Option String} {c c' : Comment}

theorem AnnotationOf.place_unique (h : AnnotationOf nodes j i type)
    (h' : AnnotationOf nodes j i' type') : i = i' :=
  h.1.trans h'.1.symm

theorem AnnotationOf.not_isDeclaration (h : AnnotationOf nodes j i type) {node : Node}
    (hnode : nodes[j]? = some node) : ¬node.IsDeclaration := by
  obtain ⟨-, broken, name, hsignature, -⟩ := h
  obtain rfl := Option.some.inj (hnode.symm.trans hsignature)
  rintro (⟨⟨⟩⟩ | ⟨⟨⟩⟩ | ⟨⟨⟩⟩)

/-- **A comment belongs to one declaration**: to what stands behind it, or if that is an annotation,
    to what the annotation belongs to. -/
theorem CommentOf.place_unique (h : CommentOf nodes j i c) (h' : CommentOf nodes j i' c') :
    i = i' := by
  cases h with
  | declaration _ hnode hdeclaration =>
    cases h' with
    | declaration => rfl
    | annotated _ hannotated => exact absurd hdeclaration (hannotated.not_isDeclaration hnode)
  | annotated _ hannotated =>
    cases h' with
    | declaration _ hnode hdeclaration =>
      exact absurd hdeclaration (hannotated.not_isDeclaration hnode)
    | annotated _ hannotated' => exact hannotated.place_unique hannotated'

/-! ## Looking back -/

variable {name body : String} {rest : List Node}

/-- The documentation that is seen from a place. -/
theorem documentation?_nodesBefore (hi : i ≤ nodes.length) :
    documentation? (nodesBefore nodes i) = some body ↔
      ∃ j c, i = j + 1 ∧ nodes[j]? = some (.comment c) ∧ c.IsDocumentation body := by
  constructor
  · intro h
    rw [documentation?.eq_def] at h
    split at h
    · next c rest hbefore =>
      obtain ⟨j, rfl, hj, -⟩ := exists_of_nodesBefore hi hbefore
      exact ⟨j, c, rfl, hj, Comment.documentation?_eq_some_iff.1 h⟩
    · cases h
  · rintro ⟨j, c, rfl, hj, h⟩
    rw [nodesBefore_succ hj]
    exact Comment.documentation?_eq_some_iff.2 h

theorem attached?_nodesBefore (hi : i ≤ nodes.length) :
    attached? name (nodesBefore nodes i) = some (type, rest) ↔
      ∃ j broken, i = j + 1 ∧ nodes[j]? = some (.signature broken (some name) type) ∧
        rest = nodesBefore nodes j := by
  constructor
  · intro h
    rw [attached?.eq_def] at h
    split at h
    · next broken n type before hbefore =>
      split at h <;> cases h
      next hname =>
      obtain ⟨j, rfl, hj, rfl⟩ := exists_of_nodesBefore hi hbefore
      exact ⟨j, broken, rfl, hname ▸ hj, rfl⟩
    · cases h
  · rintro ⟨j, broken, rfl, hj, rfl⟩
    rw [nodesBefore_succ hj]
    exact if_pos rfl

/-! ## What declarations have -/

/-- The documentation of the declaration at place `i` is that of the comment that belongs to it. -/
def Commented (nodes : List Node) (i : ℕ) (comment : Option String) : Prop :=
  ∀ body, comment = some body ↔ ∃ j c, CommentOf nodes j i c ∧ c.IsDocumentation body

/-- The type of the declaration at place `i` is that of the annotation that belongs to it, or that
    of the declaration itself if it is a port, with single spaces. -/
def Typed (nodes : List Node) (i : ℕ) (signature : Option String) : Prop :=
  ∀ s, signature = some s ↔
    (∃ j type, AnnotationOf nodes j i (some type) ∧ s = Text.collapse type) ∨
    ∃ name type, nodes[i]? = some (.port false (some name) (some type)) ∧ s = Text.collapse type

theorem commented_of_annotated (h : AnnotationOf nodes j i type) :
    Commented nodes i (documentation? (nodesBefore nodes j)) := by
  obtain ⟨rfl, broken, name, hsignature, -⟩ := id h
  have hj : j ≤ nodes.length := (List.getElem?_eq_some_iff.1 hsignature).1.le
  intro body
  rw [documentation?_nodesBefore hj]
  constructor
  · rintro ⟨k, c, rfl, hk, hc⟩
    exact ⟨k, c, .annotated hk h, hc⟩
  · rintro ⟨k, c, hcomment, hc⟩
    cases hcomment with
    | declaration hk =>
      -- The annotation stands where the comment would have to.
      rw [hsignature] at hk
      cases hk
    | annotated hk hannotated => exact ⟨k, c, Nat.succ_injective hannotated.1, hk, hc⟩

theorem commented_of_bare {node : Node} (hnode : nodes[i]? = some node)
    (hdeclaration : node.IsDeclaration) (h : ∀ j type, ¬AnnotationOf nodes j i type) :
    Commented nodes i (documentation? (nodesBefore nodes i)) := by
  have hi : i ≤ nodes.length := (List.getElem?_eq_some_iff.1 hnode).1.le
  intro body
  rw [documentation?_nodesBefore hi]
  constructor
  · rintro ⟨j, c, rfl, hj, hc⟩
    exact ⟨j, c, .declaration hj hnode hdeclaration, hc⟩
  · rintro ⟨j, c, hcomment, hc⟩
    cases hcomment with
    | declaration hj => exact ⟨j, c, rfl, hj, hc⟩
    | annotated _ hannotated => exact absurd hannotated (h _ _)

theorem AnnotationOf.value (h : AnnotationOf nodes j i type) :
    ∃ name, nodes[i]? = some (.value false (some name)) := by
  obtain ⟨-, -, name, -, hvalue⟩ := h
  exact ⟨name, hvalue⟩

theorem AnnotationOf.type_unique (h : AnnotationOf nodes j i type)
    (h' : AnnotationOf nodes j' i type') : type = type' := by
  obtain ⟨rfl, _, _, hsignature, -⟩ := h
  obtain ⟨hj, _, _, hsignature', -⟩ := h'
  obtain rfl := Nat.succ_injective hj
  rw [hsignature] at hsignature'
  cases hsignature'
  rfl

theorem typed_of_annotated (h : AnnotationOf nodes j i type) :
    Typed nodes i (type.map Text.collapse) := by
  intro s
  rw [Option.map_eq_some_iff]
  constructor
  · rintro ⟨t, rfl, rfl⟩
    exact .inl ⟨j, t, h, rfl⟩
  · rintro (⟨j', t, h', rfl⟩ | ⟨name, t, hport, -⟩)
    · exact ⟨t, h.type_unique h', rfl⟩
    · obtain ⟨_, hvalue⟩ := h.value
      rw [hvalue] at hport
      cases hport

theorem typed_of_bare (hvalue : nodes[i]? = some (.value false (some name)))
    (h : ∀ j type, ¬AnnotationOf nodes j i type) : Typed nodes i none := by
  intro s
  refine iff_of_false (by simp) ?_
  rintro (⟨j, t, h', -⟩ | ⟨_, _, hport, -⟩)
  · exact h j _ h'
  · rw [hvalue] at hport
    cases hport

theorem typed_of_port (hport : nodes[i]? = some (.port false (some name) type)) :
    Typed nodes i (type.map Text.collapse) := by
  intro s
  rw [Option.map_eq_some_iff]
  constructor
  · rintro ⟨t, rfl, rfl⟩
    exact .inr ⟨name, t, hport, rfl⟩
  · rintro (⟨j, t, h, -⟩ | ⟨_, t, hport', rfl⟩)
    · obtain ⟨_, hvalue⟩ := h.value
      rw [hvalue] at hport
      cases hport
    · rw [hport] at hport'
      cases hport'
      exact ⟨t, rfl, rfl⟩

/-! ## Declarations with what is attached to them -/

/-- The function that is declared at a place. -/
structure FunctionAt (nodes : List Node) (i : ℕ) (f : Function) : Prop where
  declared : ∃ node, nodes[i]? = some node ∧ node.DeclaresFunction f.name
  typed : Typed nodes i f.signature
  commented : Commented nodes i f.comment

/-- The custom type that is declared at a place. -/
structure CustomTypeAt (nodes : List Node) (i : ℕ) (t : CustomType) : Prop where
  declared : ∃ node, nodes[i]? = some node ∧ node.DeclaresType t.name t.constructors
  commented : Commented nodes i t.comment

/-- The type alias that is declared at a place. -/
structure TypeAliasAt (nodes : List Node) (i : ℕ) (a : TypeAlias) : Prop where
  declared : ∃ node, nodes[i]? = some node ∧ node.DeclaresAlias a.name
  commented : Commented nodes i a.comment

variable {node : Node}

/-- Only values have annotations. -/
theorem not_annotated (hnode : nodes[i]? = some node)
    (hvalue : ∀ name, node ≠ .value false (some name)) (j : ℕ) (type : Option String) :
    ¬AnnotationOf nodes j i type := by
  intro h
  obtain ⟨name, hname⟩ := h.value
  exact hvalue name (Option.some.inj (hnode.symm.trans hname))

theorem functionAt_of_function? {f : Function} (hnode : nodes[i]? = some node)
    (h : function? (nodesBefore nodes i, node) = some f) : FunctionAt nodes i f := by
  have hi : i ≤ nodes.length := (List.getElem?_eq_some_iff.1 hnode).1.le
  have hdeclares := Node.DeclaresFunction.of_function? h
  suffices hattached : Typed nodes i f.signature ∧ Commented nodes i f.comment from
    ⟨⟨node, hnode, hdeclares⟩, hattached.1, hattached.2⟩
  -- The cases of a declaration need a name that does not depend on `f`.
  generalize f.name = name at hdeclares
  cases hdeclares with
  | value =>
    rw [function?] at h
    cases hseen : attached? name (nodesBefore nodes i) with
    | some seen =>
      obtain ⟨type, rest⟩ := seen
      obtain ⟨j, broken, rfl, hsignature, rfl⟩ := (attached?_nodesBefore hi).1 hseen
      have hannotated : AnnotationOf nodes j (j + 1) type := ⟨rfl, broken, name, hsignature, hnode⟩
      rw [hseen] at h
      cases h
      exact ⟨typed_of_annotated hannotated, commented_of_annotated hannotated⟩
    | none =>
      have hnone : ∀ j type, ¬AnnotationOf nodes j i type := by
        rintro j type ⟨rfl, broken, other, hsignature, hvalue⟩
        obtain rfl : name = other := by simpa using hnode.symm.trans hvalue
        have hsome := (attached?_nodesBefore hi).2 ⟨j, broken, rfl, hsignature, rfl⟩
        rw [hseen] at hsome
        cases hsome
      rw [hseen] at h
      cases h
      exact ⟨typed_of_bare hnode hnone,
        commented_of_bare hnode (.function .value) hnone⟩
  | port =>
    cases h
    exact ⟨typed_of_port hnode, commented_of_bare hnode (.function .port)
      (not_annotated hnode (by simp))⟩

theorem customTypeAt_of_customType? {t : CustomType} (hnode : nodes[i]? = some node)
    (h : customType? (nodesBefore nodes i, node) = some t) : CustomTypeAt nodes i t := by
  obtain ⟨hdeclares, hcomment⟩ := customType?_eq_some_iff.1 h
  refine ⟨⟨node, hnode, hdeclares⟩, ?_⟩
  rw [hcomment]
  refine commented_of_bare hnode (.customType hdeclares) (not_annotated hnode ?_)
  rintro name rfl
  cases hdeclares

theorem typeAliasAt_of_typeAlias? {a : TypeAlias} (hnode : nodes[i]? = some node)
    (h : typeAlias? (nodesBefore nodes i, node) = some a) : TypeAliasAt nodes i a := by
  obtain ⟨hdeclares, hcomment⟩ := typeAlias?_eq_some_iff.1 h
  refine ⟨⟨node, hnode, hdeclares⟩, ?_⟩
  rw [hcomment]
  refine commented_of_bare hnode (.typeAlias hdeclares) (not_annotated hnode ?_)
  rintro name rfl
  cases hdeclares

end Places

/-! ## Modules -/

theorem inOrder_functionAt (nodes : List Node) :
    InOrder (FunctionAt nodes) (moduleOf nodes).functions :=
  inOrder_declared functionAt_of_function? FunctionAt.declared fun h => h.exists_function?

theorem inOrder_customTypeAt (nodes : List Node) :
    InOrder (CustomTypeAt nodes) (moduleOf nodes).types :=
  inOrder_declared customTypeAt_of_customType? CustomTypeAt.declared fun h => h.exists_customType?

theorem inOrder_typeAliasAt (nodes : List Node) :
    InOrder (TypeAliasAt nodes) (moduleOf nodes).aliases :=
  inOrder_declared typeAliasAt_of_typeAlias? TypeAliasAt.declared fun h => h.exists_typeAlias?

/-- **What is attached to declarations.**  The functions, types and aliases of a module stand in
    the order of their declarations.  A function has the type of the annotation that belongs to it,
    and a port its own; each has the documentation of the comment that belongs to it.  No annotation
    and no comment belongs to two declarations. -/
theorem lower_attachments {tree : Tree} {source : String} {m : Module}
    (h : tree.lower source = .ok m) :
    InOrder (FunctionAt tree.nodes) m.functions ∧ InOrder (CustomTypeAt tree.nodes) m.types ∧
      InOrder (TypeAliasAt tree.nodes) m.aliases ∧
      (∀ j i i' type type', AnnotationOf tree.nodes j i type → AnnotationOf tree.nodes j i' type' →
        i = i') ∧
      ∀ j i i' c c', CommentOf tree.nodes j i c → CommentOf tree.nodes j i' c' → i = i' := by
  obtain ⟨-, -, rfl⟩ := lower_eq_ok_iff.1 h
  exact ⟨inOrder_functionAt _, inOrder_customTypeAt _, inOrder_typeAliasAt _,
    fun _ _ _ _ _ => AnnotationOf.place_unique, fun _ _ _ _ _ => CommentOf.place_unique⟩

/-- A documented function with an annotation, and a port behind it. -/
theorem lower_attachments_annotated :
    let comment : Comment := ⟨true, "\x7b-| Adds one.\n-\x7d"⟩
    let tree : Tree := ⟨[.header {} false (some "A") none, .comment comment,
      .signature false (some "f") (some "Int\n    -> Int"), .value false (some "f"),
      .port false (some "g") (some "Int")], false⟩
    let m : Module := { name := "A", functions :=
      [⟨"f", some "Int -> Int", some "Adds one."⟩, ⟨"g", some "Int", none⟩] }
    tree.lower "" = .ok m ∧ InOrder (FunctionAt tree.nodes) m.functions ∧
      AnnotationOf tree.nodes 2 3 (some "Int\n    -> Int") ∧ CommentOf tree.nodes 1 3 comment ∧
      (∀ i type, AnnotationOf tree.nodes 2 i type → i = 3) ∧
      ∀ i c, CommentOf tree.nodes 1 i c → i = 3 := by
  intro comment tree m
  have hlower : tree.lower "" = .ok m := by decide
  obtain ⟨hfunctions, -, -, hunique, hcomments⟩ := lower_attachments hlower
  have hannotated : AnnotationOf tree.nodes 2 3 (some "Int\n    -> Int") :=
    ⟨rfl, false, "f", rfl, rfl⟩
  have hcomment : CommentOf tree.nodes 1 3 comment := .annotated rfl hannotated
  exact ⟨hlower, hfunctions, hannotated, hcomment,
    fun i type h => hunique 2 i 3 type _ h hannotated,
    fun i c h => hcomments 1 i 3 c comment h hcomment⟩

/-- A port has a type without any annotation. -/
theorem port_typed_by_itself :
    let tree : Tree := ⟨[.header {} false (some "A") (some [.everything]),
      .port false (some "f") (some "Int -> Cmd msg")], false⟩
    tree.lower "port module A exposing (..)\n\nport f : Int -> Cmd msg\n" =
        .ok { name := "A", functions := [⟨"f", some "Int -> Cmd msg", none⟩] } ∧
      ∀ node ∈ tree.nodes, ∀ broken name type, node ≠ .signature broken name type := by
  intro tree
  exact ⟨by decide, by simp [tree]⟩

end ElmAssist.Elm
