/-
  The spelling of bytes and of texts.

  * `bytesOf_spell`, `textOf?_eq_some_iff`: what is read back from the spelling of a text, and
    which names spell a text.
  * `bytes_ofBytes`: different bytes give different paths.
  * `isText_ofBytes`: a path is text iff its bytes are UTF-8.
-/
import ElmAssist.Proofs.Path.Components
import ElmAssist.Proofs.Text.ByteOrder
import Mathlib.Data.List.Basic

namespace ElmAssist

namespace Text

/-- A text is read back from its bytes. -/
theorem text?_bytes (s : String) : text? (bytes s) = some s := by
  unfold text? String.fromUTF8?
  rw [dif_pos (by simpa [bytes] using s.isValidUTF8)]
  rfl

theorem text?_eq_some_iff {bs : List UInt8} {s : String} : text? bs = some s ↔ bs = bytes s := by
  constructor
  · intro h
    unfold text? String.fromUTF8? at h
    split at h
    · rw [← Option.some.inj h]; rfl
    · cases h
  · rintro rfl
    exact text?_bytes s

theorem bytes_injective {s t : String} (h : bytes s = bytes t) : s = t := by
  have ht := text?_bytes t
  rw [← h, text?_bytes] at ht
  exact Option.some.inj ht

end Text

namespace Path

/-! ## Characters -/

theorem toNat_byteChar (b : UInt8) : (byteChar b).toNat = firstByteChar + b.toNat := by
  have hb : b.toNat < 256 := b.toNat_lt
  have hvalid : (firstByteChar + b.toNat).isValidChar := by
    right
    unfold firstByteChar
    omega
  rw [byteChar, Char.ofNat, dif_pos hvalid]
  rfl

theorem isByteChar_byteChar (b : UInt8) : isByteChar (byteChar b) = true := by
  have hb : b.toNat < 256 := b.toNat_lt
  rw [isByteChar, toNat_byteChar]
  simp [hb]

theorem charBytes_byteChar (b : UInt8) : charBytes (byteChar b) = [b] := by
  rw [charBytes, if_pos (isByteChar_byteChar b), toNat_byteChar, Nat.add_sub_cancel_left,
    UInt8.ofNat_toNat]

theorem flatMap_charBytes_byteChar (bs : List UInt8) :
    (bs.map byteChar).flatMap charBytes = bs := by
  induction bs with
  | nil => rfl
  | cons b bs ih => rw [List.map_cons, List.flatMap_cons, ih, charBytes_byteChar]; rfl

/-- The spelling of a character has its bytes. -/
theorem flatMap_charBytes_spellChar (c : Char) :
    (spellChar c).flatMap charBytes = String.utf8EncodeChar c := by
  unfold spellChar
  split
  · exact flatMap_charBytes_byteChar _
  · next h => rw [List.flatMap_singleton, charBytes, if_neg h]

/-! ## Texts -/

theorem flatMap_charBytes_spelled (s : String) :
    (s.toList.flatMap spellChar).flatMap charBytes = Text.bytes s := by
  rw [List.flatMap_assoc, Text.bytes_eq]
  exact List.flatMap_congr fun c _ => flatMap_charBytes_spellChar c

/-- **The spelling of a text has its bytes.** -/
theorem bytesOf_spell (s : String) : bytesOf (spell s) = Text.bytes s := by
  rw [bytesOf, spell, String.toList_ofList, flatMap_charBytes_spelled]

theorem spell_injective {s t : String} (h : spell s = spell t) : s = t :=
  Text.bytes_injective (by rw [← bytesOf_spell, ← bytesOf_spell, h])

/-- **A name has a text** iff it is the spelling of the text. -/
theorem textOf?_eq_some_iff {name text : String} :
    textOf? name = some text ↔ name = spell text := by
  rw [textOf?, Option.filter_eq_some_iff, Text.text?_eq_some_iff, beq_iff_eq]
  constructor
  · rintro ⟨-, h⟩
    exact h.symm
  · rintro rfl
    exact ⟨bytesOf_spell text, rfl⟩

theorem toList_spell (s : String) : (spell s).toList = s.toList.flatMap spellChar := by
  rw [spell, String.toList_ofList]

theorem spell_append (s t : String) : spell (s ++ t) = spell s ++ spell t := by
  rw [← String.toList_inj, String.toList_append, toList_spell, toList_spell, toList_spell,
    String.toList_append, List.flatMap_append]

theorem mem_spellChar {c d : Char} (hd : isByteChar d = false) : d ∈ spellChar c ↔ d = c := by
  unfold spellChar
  split
  · next hc =>
    constructor
    · intro h
      obtain ⟨b, -, rfl⟩ := List.mem_map.1 h
      rw [isByteChar_byteChar] at hd
      cases hd
    · rintro rfl
      rw [hc] at hd
      cases hd
  · exact List.mem_singleton

/-- A character that spells no byte is in the spelling of a text iff it is in the text. -/
theorem mem_spell {s : String} {d : Char} (hd : isByteChar d = false) :
    d ∈ (spell s).toList ↔ d ∈ s.toList := by
  rw [toList_spell, List.mem_flatMap]
  simp [mem_spellChar hd]

theorem flatMap_spellChar_injective {cs ds : List Char}
    (h : cs.flatMap spellChar = ds.flatMap spellChar) : cs = ds := by
  rw [← String.ofList_inj]
  apply spell_injective
  rw [spell, spell, String.toList_ofList, String.toList_ofList, h]

theorem mapM_textOf?_eq_some_iff {names texts : List String} :
    names.mapM textOf? = some texts ↔ names = texts.map spell := by
  induction names generalizing texts with
  | nil => simp [eq_comm]
  | cons name names ih =>
    rw [List.mapM_cons]
    constructor
    · intro h
      obtain ⟨text, htext, h⟩ := Option.bind_eq_some_iff.1 h
      obtain ⟨rest, hrest, h⟩ := Option.bind_eq_some_iff.1 h
      obtain rfl := Option.some.inj h
      rw [List.map_cons, ← textOf?_eq_some_iff.1 htext, ← ih.1 hrest]
    · intro h
      obtain ⟨text, rest, rfl, htext, hrest⟩ := List.map_eq_cons_iff.1 h.symm
      refine Option.bind_eq_some_iff.2 ⟨text, textOf?_eq_some_iff.2 htext.symm, ?_⟩
      exact Option.bind_eq_some_iff.2 ⟨rest, ih.2 hrest.symm, rfl⟩

/-! ## Components -/

/-- The spelling of a text is cut where the text is. -/
theorem splitList_spell {d : Char} (hd : isByteChar d = false) (cs : List Char) :
    Text.splitList d (cs.flatMap spellChar) = (Text.splitList d cs).map (·.flatMap spellChar) := by
  induction cs with
  | nil => rfl
  | cons c cs ih =>
    rw [List.flatMap_cons]
    by_cases hc : c = d
    · subst hc
      have hself : spellChar c = [c] := by rw [spellChar, hd, if_neg Bool.false_ne_true]
      rw [hself, List.singleton_append, Text.splitList, if_pos rfl, ih, Text.splitList, if_pos rfl]
      rfl
    · have hapart : d ∉ spellChar c := mt (mem_spellChar hd).1 (Ne.symm hc)
      obtain ⟨piece, pieces, hcs, hsplit⟩ :=
        Text.splitList_append_of_not_mem hapart (cs.flatMap spellChar)
      obtain ⟨first, rest, hfirst⟩ := List.exists_cons_of_ne_nil (Text.splitList_ne_nil d cs)
      rw [ih, hfirst, List.map_cons, List.cons.injEq] at hcs
      rw [hsplit, Text.splitList, if_neg hc, hfirst, ← hcs.1, ← hcs.2]
      rfl

/-- A component, its name spelled. -/
def Component.spell : Component → Component
  | .name text => .name (Path.spell text)
  | c => c

theorem ofPiece?_spell (piece : List Char) :
    Component.ofPiece? (piece.flatMap spellChar) =
      (Component.ofPiece? piece).map Component.spell := by
  have hiff : ∀ other : List Char, other.flatMap spellChar = other →
      (piece.flatMap spellChar = other ↔ piece = other) := fun other hself =>
    ⟨fun h => flatMap_spellChar_injective (h.trans hself.symm), fun h => by rw [h, hself]⟩
  simp only [Component.ofPiece?, hiff [] rfl, hiff ['.'] rfl, hiff ['.', '.'] rfl]
  split
  · rfl
  split
  · rfl
  · simp [Component.spell, Path.spell]

theorem filterMap_ofPiece?_spell (pieces : List (List Char)) :
    (pieces.map (·.flatMap spellChar)).filterMap Component.ofPiece? =
      (pieces.filterMap Component.ofPiece?).map Component.spell := by
  rw [List.filterMap_map, List.map_filterMap]
  exact List.filterMap_congr fun piece _ => ofPiece?_spell piece

/-- **The path that a text spells** has the components that the text stands for, their names
    spelled. -/
theorem components_ofText (s : String) :
    (ofText s).components = (⟨s⟩ : Path).components.map Component.spell := by
  have hpieces : (ofText s).pieces = (⟨s⟩ : Path).pieces.map (·.flatMap spellChar) := by
    rw [pieces, ofText, toList_spell, splitList_spell (by decide)]
    rfl
  rw [components, components, hpieces]
  generalize (⟨s⟩ : Path).pieces = pieces
  cases pieces with
  | nil => rfl
  | cons first rest =>
    by_cases hfirst : first = []
    · subst hfirst
      cases rest with
      | nil => rfl
      | cons next rest =>
        rw [componentsOfPieces_root (List.cons_ne_nil _ _), List.map_cons (l := next :: rest),
          List.map_cons (f := Component.spell), ← filterMap_ofPiece?_spell]
        exact componentsOfPieces_root (List.cons_ne_nil _ _)
    · have hspelled : first.flatMap spellChar ≠ [] := fun h =>
        hfirst (flatMap_spellChar_injective h)
      have hdot : first.flatMap spellChar = ['.'] ↔ first = ['.'] :=
        ⟨fun h => flatMap_spellChar_injective (h.trans rfl), fun h => by rw [h]; rfl⟩
      rw [List.map_cons, componentsOfPieces_cons hspelled, componentsOfPieces_cons hfirst,
        List.map_append, ← filterMap_ofPiece?_spell, ofPiece?_spell]
      simp only [hdot]
      split
      · rfl
      · cases Component.ofPiece? first <;> rfl

/-! ## Bytes -/

theorem bytes_ofText (s : String) : (ofText s).bytes = Text.bytes s :=
  bytesOf_spell s

/-- The bytes that fit are at the front. -/
theorem fitting_append_drop (count : Nat) (low high : UInt8) (bs : List UInt8) :
    Text.fitting count low high bs ++ bs.drop (Text.fitting count low high bs).length = bs := by
  induction bs generalizing count low high with
  | nil => cases count <;> rfl
  | cons b bs ih =>
    cases count with
    | zero => rfl
    | succ count =>
      rw [Text.fitting]
      split
      · exact congrArg (b :: ·) (ih count 0x80 0xBF)
      · rfl

theorem utf8EncodeChar_ofNat {b : UInt8} (hb : b < 0x80) :
    String.utf8EncodeChar (Char.ofNat b.toNat) = [b] := by
  have hlt : b.toNat < 128 := hb
  have hvalid : b.toNat.isValidChar := .inl (Nat.lt_trans hlt (by decide))
  have hval : (Char.ofNat b.toNat).val.toNat = b.toNat := by
    rw [Char.ofNat, dif_pos hvalid]
    rfl
  rw [String.utf8EncodeChar, hval]
  simp [Nat.le_of_lt_succ hlt]

/-- What is read of some bytes spells them. -/
theorem flatMap_decode (bs : List UInt8) :
    (Text.decode spellChar (·.map byteChar) bs).flatMap charBytes = bs := by
  fun_induction Text.decode spellChar (·.map byteChar) bs with
  | case1 => rfl
  | case2 b rest hb ih =>
    rw [List.flatMap_append, flatMap_charBytes_spellChar, utf8EncodeChar_ofNat hb, ih]
    rfl
  | case3 b rest hb hnone ih =>
    rw [List.flatMap_append, flatMap_charBytes_byteChar, ih]
    rfl
  | case4 b rest hb count low high hsome tail ih =>
    have hrest : b :: tail ++ rest.drop tail.length = b :: rest :=
      congrArg (b :: ·) (fitting_append_drop count low high rest)
    rw [List.flatMap_append, ih]
    split
    · next s hs =>
      rw [flatMap_charBytes_spelled, ← Text.text?_eq_some_iff.1 hs, hrest]
    · rw [flatMap_charBytes_byteChar, hrest]

/-- **Different bytes give different paths**: the bytes of a path are read back. -/
theorem bytes_ofBytes (bs : List UInt8) : (ofBytes bs).bytes = bs := by
  unfold ofBytes
  split
  · next s h => rw [bytes_ofText, Text.text?_eq_some_iff.1 h]
  · rw [bytes, bytesOf, String.toList_ofList, flatMap_decode]

/-- **A path is text** iff its bytes are UTF-8. -/
theorem isText_ofBytes (bs : List UInt8) : (ofBytes bs).isText = (Text.text? bs).isSome := by
  rw [isText, Bool.eq_iff_iff, Option.isSome_iff_exists, Option.isSome_iff_exists]
  constructor
  · rintro ⟨s, h⟩
    refine ⟨s, Text.text?_eq_some_iff.2 ?_⟩
    rw [← bytes_ofBytes bs, bytes, textOf?_eq_some_iff.1 h, bytesOf_spell]
  · rintro ⟨s, h⟩
    refine ⟨s, textOf?_eq_some_iff.2 ?_⟩
    rw [ofBytes, h]
    rfl

/-- A path that is text is shown as the text that it spells. -/
theorem ofText_shown {p : Path} (h : p.isText = true) : ofText p.shown = p := by
  obtain ⟨s, hs⟩ := Option.isSome_iff_exists.1 h
  obtain rfl : p = ofText s := congrArg Path.mk (textOf?_eq_some_iff.1 hs)
  rw [shown, bytes_ofText, Text.lossyText, Text.text?_bytes]
  rfl

end Path

end ElmAssist
