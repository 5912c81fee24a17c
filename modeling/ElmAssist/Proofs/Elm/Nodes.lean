/-
  The syntax tree of a plainly written module.

  A module that the grammar derives is cut into chunks (`fileLexemes`), and each chunk is read as
  the nodes that its item derives (`Yields`): imports behind the header and behind other imports,
  declarations anywhere.

  * `plain?_of_derives`: what the grammar derives is read as it is derived.
  * `Derives.unique`: a text has no more than one tree.
  * `followsGrammar_ofSource`: the parser follows the grammar.
-/
import ElmAssist.Elm.Parse
import ElmAssist.Proofs.Elm.Written

namespace ElmAssist.Elm.Plain

open Canonical Grammar

/-! ## The lexemes of a file -/

/-- The lexemes of a file: those of its header, of the chunks behind it, and the blanks at the
    end. -/
def fileLexemes (header : Item) (body : List Chunk) (trail : List Char) : List Lexeme :=
  (chunkOf [] header).lexemes ++ (body.flatMap Chunk.lexemes ++ leadOf trail)

theorem flatten_fileLexemes (header : Item) (body : List Chunk) (trail : List Char) :
    flatten (fileLexemes header body trail) =
      header.chars ++ (flatten (body.flatMap Chunk.lexemes) ++ trail) := by
  rw [fileLexemes, flatten_append, flatten_append, flatten_chunkOf, flatten_leadOf]
  rfl

section File

variable {header : Item} {body : List Chunk} {trail : List Char}
  (hheader : Spelled header.head header.tail) (hbody : ∀ c ∈ body, c.Solid ∧ c.Led)
  (htrail : IsBlank trail)

include hheader hbody htrail

/-- The text of a file is cut into its lexemes. -/
theorem lexemes_file :
    lexemes (flatten (fileLexemes header body trail)) = fileLexemes header body trail := by
  have htrail' : ReadBack (leadOf trail) [] := readBack_leadOf htrail rfl
  have hend : (flatten (leadOf trail) ++ []).head?.all isBlank = true := by
    rw [flatten_leadOf]
    exact head_isBlank htrail rfl
  obtain ⟨hback, hnext⟩ := readBack_chunks hbody hend
  have hfirst : ReadBack (chunkOf [] header).lexemes
      (flatten (body.flatMap Chunk.lexemes ++ leadOf trail) ++ []) := by
    rw [flatten_append, List.append_assoc]
    exact (solid_chunkOf [] hheader).cut _ hnext
  have hfile : ReadBack (fileLexemes header body trail) [] := hfirst.append (hback.append htrail')
  rw [← List.append_nil (flatten _), hfile, lexemes, List.append_nil]

/-- The lexemes of a file may all occur in plainly written text. -/
theorem common_fileLexemes :
    (fileLexemes header body trail).all (fun l => l.isCommon && l.kind != .stray) = true := by
  have hsolid := solid_chunkOf [] hheader
  refine List.all_eq_true.2 (List.forall_mem_append.2 ⟨fun l hl => ?_,
    List.forall_mem_append.2 ⟨fun l hl => ?_, fun l hl => ?_⟩⟩)
  · rw [Chunk.lexemes_eq] at hl
    rcases List.mem_cons.1 hl with rfl | hl
    · exact hsolid.head.common
    · exact (common_pieces hsolid.tail l hl).1
  · obtain ⟨c, hc, hl⟩ := List.mem_flatMap.1 hl
    exact common_chunk (hbody c hc).1 (hbody c hc).2 l hl
  · rw [mem_leadOf hl]
    exact common_blank (all_isBlank htrail)

omit htrail in
/-- The comments of a file stand alone. -/
theorem commentsAlone_fileLexemes : commentsAlone true (fileLexemes header body trail) = true := by
  have hsolid := solid_chunkOf [] hheader
  have hfirst : CommentsApart (chunkOf [] header).lexemes := by
    rw [Chunk.lexemes_eq]
    exact commentsApart_of_none (List.forall_mem_cons.2 ⟨hsolid.head.isComment,
      fun l hl => (common_pieces hsolid.tail l hl).2⟩)
  have hchunks : CommentsApart (body.flatMap Chunk.lexemes) := by
    induction body with
    | nil => exact fun rest hrest => hrest
    | cons c cs ih =>
      obtain ⟨hc, hled⟩ := hbody c List.mem_cons_self
      rw [List.flatMap_cons]
      have hrest := ih fun d hd => hbody d (List.mem_cons_of_mem c hd)
      exact (commentsApart_chunk hc hled).append hrest
  have hlast : CommentsApart (leadOf trail) := commentsApart_of_none (leadOf_isComment trail)
  have hall := hfirst.append (hchunks.append hlast) [] (fun _ => rfl) true
  rwa [List.append_nil] at hall

variable (trail) in
omit htrail in
/-- **The chunks of a file** are those of its header and of what is behind it.  The first token is
    at the start of the text, and there are no comments behind the last. -/
theorem chunks_fileLexemes :
    ∃ t ts, tokensOf [] {} (fileLexemes header body trail) = (t :: ts, []) ∧ t.place = {} ∧
      (t :: ts).map Token.piece = (chunkOf [] header :: body).flatMap Chunk.pieces ∧
      List.Forall₂ IsChunk (chunks (t :: ts)) (chunkOf [] header :: body) := by
  have hfirst : (chunkOf [] header).Proper := (solid_chunkOf [] hheader).proper nofun
  have hrest : ∀ c ∈ body, c.Proper ∧ c.OnNewLine := fun c hc =>
    ⟨(hbody c hc).1.proper (hbody c hc).2.isTrivia, (hbody c hc).2.onNewLine⟩
  have hpieces : ∀ p ∈ (chunkOf [] header :: body).flatMap Chunk.pieces, p.Proper := by
    intro p hp
    obtain ⟨c, hc, hp⟩ := List.mem_flatMap.1 hp
    rcases List.mem_cons.1 hc with rfl | hc
    · exact hfirst.pieces p hp
    · exact (hrest c hc).1.pieces p hp
  have hlexemes : fileLexemes header body trail =
      ((chunkOf [] header :: body).flatMap Chunk.pieces).flatMap Piece.lexemes ++ leadOf trail := by
    rw [List.flatMap_assoc, List.flatMap_cons, List.append_assoc]
    rfl
  have htokens := tokensOf_pieces {} hpieces (leadOf_isTrivia trail)
  have hplaced := map_piece_placed {} ((chunkOf [] header :: body).flatMap Chunk.pieces)
  have hchunks := @chunks_placed _ _ hfirst hrest {} rfl
  obtain ⟨ts, hts⟩ : ∃ ts, placed {} ((chunkOf [] header :: body).flatMap Chunk.pieces) =
      ⟨lexemeOf header.head, [], {}⟩ :: ts := ⟨_, rfl⟩
  rw [← hlexemes, commentsOf_leadOf] at htokens
  rw [hts] at htokens hplaced hchunks
  exact ⟨_, ts, htokens, rfl, hplaced, hchunks⟩

end File

/-! ## Nodes of a chunk -/

/-- The item of a chunk has the comments in front of it. -/
theorem chunkNodes?_of_isChunk {phase : Phase} {n : Nat} {ts : List Token} {c : Chunk} {node : Node}
    (h : IsChunk ts c) (hc : c.Solid) (hitem : item phase n ts = some (node, [])) :
    chunkNodes? phase n ts = some (node, (commentsOf c.lead).map Node.comment ++ [node]) := by
  obtain ⟨hpieces, hstart⟩ := h
  obtain ⟨t, us, rfl, ht, hus⟩ := List.map_eq_cons_iff.1 hpieces
  have hcolumn : t.place.column = 0 := hstart t rfl
  have hcomments : us.all (·.comments.isEmpty) = true := by
    refine List.all_eq_true.2 fun u hu => ?_
    have hsolid : u.piece.Solid := hc.tail _ (hus ▸ List.mem_map_of_mem hu)
    rw [show u.comments = [] from hsolid.comments]
    rfl
  have hlead : t.comments = commentsOf c.lead := by
    rw [Token.comments, show t.lead = c.lead from congrArg Piece.lead ht]
  rw [chunkNodes?, hcolumn, hcomments, hitem, hlead]
  rfl

theorem nodes?_cons {phase : Phase} {n : Nat} {chunk : List Token} {node : Node} {nodes : List Node}
    (rest : List (List Token)) (h : chunkNodes? phase n chunk = some (node, nodes)) :
    nodes? n phase (chunk :: rest) = (nodes? n (Phase.after node) rest).map (nodes ++ ·) := by
  rw [nodes?, h]
  show (nodes? n (Phase.after node) rest >>= fun others => some (nodes ++ others)) = _
  cases nodes? n (Phase.after node) rest <;> rfl

/-! ## Nodes of chunks -/

/-- Chunks are read as nodes; `phase` is the phase in front of them, `after` the one behind
    them. -/
def Yields (n : Nat) (phase after : Phase) (cs : List Chunk) (nodes : List Node) : Prop :=
  ∀ tss rest, List.Forall₂ IsChunk tss cs →
    nodes? n phase (tss ++ rest) = (nodes? n after rest).map (nodes ++ ·)

namespace Yields

variable {n : Nat} {phase after : Phase} {c : Chunk} {cs ds : List Chunk} {node : Node}
  {nodes others : List Node}

theorem nil (n : Nat) (phase : Phase) : Yields n phase phase [] [] := by
  intro tss rest htss
  cases htss
  exact Option.map_id'.symm

theorem append {between : Phase} (h : Yields n phase between cs nodes)
    (h' : Yields n between after ds others) : Yields n phase after (cs ++ ds) (nodes ++ others) := by
  intro tss rest htss
  have hfirst := List.forall₂_take_append tss cs ds htss
  have hsecond := List.forall₂_drop_append tss cs ds htss
  rw [← List.take_append_drop cs.length tss, List.append_assoc, h _ _ hfirst, h' _ _ hsecond,
    Option.map_map]
  refine Option.map_congr fun x _ => ?_
  rw [Function.comp_apply, List.append_assoc]

/-- A chunk is read as its item. -/
theorem chunk (hc : c.Solid) (h : Reads (item phase n) c.pieces node []) :
    Yields n phase (Phase.after node) [c] ((commentsOf c.lead).map Node.comment ++ [node]) := by
  intro tss rest htss
  obtain ⟨ts, others, hts, hothers, rfl⟩ := List.forall₂_cons_right_iff.1 htss
  obtain rfl := List.forall₂_nil_right_iff.1 hothers
  exact nodes?_cons rest (chunkNodes?_of_isChunk hts hc (h.run hts.1))

end Yields

/-! ## Nodes of items -/

section Items

variable {P : Item → Node → Prop} (ok : Phase → Prop)
  (hread : ∀ {n lead phase i node}, ok phase → P i node → i.tail.length ≤ n →
    Reads (item phase n) (chunkOf lead i).pieces node [])
  (hafter : ∀ {i node}, P i node → ok (Phase.after node))

include hread hafter

/-- Items are chunks that are read as their nodes, in phases in which such items may occur. -/
theorem exists_chunks {cs : List Char} {nodes : List Node} (h : Items P cs nodes) :
    ∃ chunks, (∀ c ∈ chunks, c.Solid ∧ c.Led) ∧ flatten (chunks.flatMap Chunk.lexemes) = cs ∧
      ∀ n phase, (∀ c ∈ chunks, c.pieces.length ≤ n) → ok phase →
        ∃ after, ok after ∧ Yields n phase after chunks nodes := by
  induction h with
  | nil => exact ⟨[], nofun, rfl, fun n phase _ hok => ⟨phase, hok, .nil n phase⟩⟩
  | @cons front rest comments i node nodes hfront hitem hspelled _ ih =>
    obtain ⟨ls, hls⟩ := exists_isFront hfront
    obtain ⟨chunks, hchunks, htext, hyields⟩ := ih
    have hsolid := solid_chunkOf ls hspelled
    refine ⟨chunkOf ls i :: chunks, List.forall_mem_cons.2 ⟨⟨hsolid, _, _, hls⟩, hchunks⟩, ?_, ?_⟩
    · rw [List.flatMap_cons, flatten_append, flatten_chunkOf, hls.text, htext]
    · intro n phase hn hok
      obtain ⟨hfirst, hothers⟩ := List.forall_mem_cons.1 hn
      rw [length_pieces_chunkOf] at hfirst
      have hchunk := Yields.chunk hsolid (hread hok hitem (Nat.le_of_succ_le hfirst))
      obtain ⟨after, hok', hmore⟩ := hyields n _ hothers (hafter hitem)
      rw [show commentsOf (chunkOf ls i).lead = comments from hls.comments] at hchunk
      have hall := hchunk.append hmore
      rw [List.append_assoc] at hall
      exact ⟨after, hok', hall⟩

end Items

/-- The first chunk is read as the header. -/
theorem nodes?_header {n : Nat} {header : Item} {node : Node} (h : Header header node)
    (hspelled : Spelled header.head header.tail) (hn : header.tail.length ≤ n) {t : Token}
    {ts : List Token} (rest : List (List Token)) (hplace : t.place = {})
    (hchunk : IsChunk (t :: ts) (chunkOf [] header)) :
    nodes? n .start ((t :: ts) :: rest) = (nodes? n .imports rest).map (node :: ·) := by
  have hitem := Reads.item_header h hn hplace hchunk.1
  have hnodes := nodes?_cons rest (chunkNodes?_of_isChunk hchunk (solid_chunkOf [] hspelled) hitem)
  cases h
  exact hnodes

/-! ## The tree of a module -/

/-- **What the grammar derives is read** as it is derived. -/
theorem plain?_of_derives {text : String} {tree : Tree} (h : Derives text tree) :
    Tree.plain? text = some tree := by
  cases h with
  | @module header node imports declarations trail importNodes declarationNodes hheader hspelled
      himports hdeclarations htrail =>
    obtain ⟨importChunks, hsolidImports, htextImports, hyieldsImports⟩ :=
      exists_chunks (· = .imports) (fun hok h hn => hok ▸ Reads.item_import h hn)
        (fun h => by cases h; rfl) himports
    obtain ⟨declarationChunks, hsolidDeclarations, htextDeclarations, hyieldsDeclarations⟩ :=
      exists_chunks (fun _ => True) (fun _ h hn => Reads.item_declaration h hn)
        (fun _ => trivial) hdeclarations
    have hbody : ∀ c ∈ importChunks ++ declarationChunks, c.Solid ∧ c.Led :=
      List.forall_mem_append.2 ⟨hsolidImports, hsolidDeclarations⟩
    have htext : flatten (fileLexemes header (importChunks ++ declarationChunks) trail) =
        header.chars ++ imports ++ declarations ++ trail := by
      rw [flatten_fileLexemes, List.flatMap_append, flatten_append, htextImports, htextDeclarations]
      simp only [List.append_assoc]
    obtain ⟨t, ts, htokens, hplace, hpieces, hchunks⟩ :=
      chunks_fileLexemes trail hspelled hbody
    -- The bound for nesting and parts is no less than the number of pieces of each chunk.
    have hn : ∀ c ∈ chunkOf [] header :: (importChunks ++ declarationChunks),
        c.pieces.length ≤ 2 * (t :: ts).length := by
      intro c hc
      have hpart : c.pieces.length ≤ ((t :: ts).map Token.piece).length := by
        rw [hpieces]
        exact (List.sublist_flatten_of_mem (List.mem_map_of_mem hc)).length_le
      rw [List.length_map] at hpart
      omega
    obtain ⟨hfirst, hothers⟩ := List.forall_mem_cons.1 hn
    obtain ⟨hnImports, hnDeclarations⟩ := List.forall_mem_append.1 hothers
    obtain ⟨_, rfl, hyields⟩ := hyieldsImports _ .imports hnImports rfl
    obtain ⟨after, -, hmore⟩ := hyieldsDeclarations _ .imports hnDeclarations trivial
    obtain ⟨others, more, hcut⟩ := chunks_cons t ts
    rw [hcut] at hchunks
    obtain ⟨hchunk, hrest⟩ := List.forall₂_cons.1 hchunks
    rw [length_pieces_chunkOf] at hfirst
    have hnodes := nodes?_header hheader hspelled (Nat.le_of_succ_le hfirst) more hplace hchunk
    have hall := (hyields.append hmore) more [] hrest
    rw [List.append_nil] at hall
    rw [Tree.plain?, String.toList_ofList, ← htext, lexemes_file hspelled hbody htrail,
      common_fileLexemes hspelled hbody htrail, commentsAlone_fileLexemes hspelled hbody, htokens]
    show Option.map _ (nodes? (2 * (t :: ts).length) .start (chunks (t :: ts))) = _
    rw [hcut, hnodes, hall]
    simp [nodes?]

end ElmAssist.Elm.Plain

namespace ElmAssist.Elm.Grammar

/-- **The grammar is unambiguous**: it derives no more than one tree for a text. -/
theorem Derives.unique {text : String} {tree tree' : Tree} (h : Derives text tree)
    (h' : Derives text tree') : tree = tree' :=
  Option.some.inj ((Plain.plain?_of_derives h).symm.trans (Plain.plain?_of_derives h'))

/-- A parser that follows the grammar parses a text as it is derived. -/
theorem FollowsGrammar.tree_eq {treeOf : String → Tree} (h : FollowsGrammar treeOf) {text : String}
    {tree : Tree} (htree : Derives text tree) : treeOf text = tree :=
  (h text ⟨tree, htree⟩).unique htree

/-- **The parser follows the grammar.** -/
theorem followsGrammar_ofSource : FollowsGrammar Tree.ofSource := by
  rintro text ⟨tree, h⟩
  rw [Tree.ofSource, Plain.plain?_of_derives h, Option.getD_some]
  exact h

end ElmAssist.Elm.Grammar
