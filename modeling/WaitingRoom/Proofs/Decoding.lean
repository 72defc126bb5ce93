import Mathlib.Data.List.Basic
import Mathlib.Data.Set.List
import WaitingRoom.Layout.Load

/-!
# Lines of bytes and lines of characters

A file is cut into lines while it is still bytes, and each line is decoded by itself; a text is
decoded first and cut afterwards. Both come to the same, because a line feed or a carriage return
among the bytes of a text is never part of another character.

* **`Text.encode`**: the bytes of a text. Decoding undoes it and nothing else decodes
  (`Text.fromUTF8?_eq_some_iff`).
* **`Text.utf8EncodeChar_of_mem`**: a byte below 128 is a character by itself.
* **`Text.lines_encode`**: the lines of the bytes are the bytes of the lines.
* **`Text.exists_encode_of_lines`**: bytes whose lines can all be decoded can be decoded.
* **`Layout.ofBytes_eq`**: so a file is read as its text is, and refused as unreadable exactly when
  it is no text as a whole.
-/

namespace WaitingRoom.Text

/-! ### Bytes of characters -/

/-- The bytes of a text. -/
def encode (text : List Char) : List UInt8 := text.flatMap String.utf8EncodeChar

/-- The empty text has no bytes. -/
@[simp] theorem encode_nil : encode [] = [] := rfl

/-- A text begins with the bytes of its first character. -/
theorem encode_cons (c : Char) (text : List Char) :
    encode (c :: text) = String.utf8EncodeChar c ++ encode text :=
  List.flatMap_cons

/-- Texts are encoded one after another. -/
@[simp] theorem encode_append (s t : List Char) : encode (s ++ t) = encode s ++ encode t :=
  List.flatMap_append

/-- Only the empty text has no bytes. -/
@[simp] theorem encode_eq_nil_iff {text : List Char} : encode text = [] ↔ text = [] := by
  cases text with
  | nil => simp
  | cons c text => simp [encode_cons]

/-- A character takes up one byte, or all its bytes have their highest bit set. -/
theorem utf8EncodeChar_cases (c : Char) :
    (c.val.toNat < 128 ∧ String.utf8EncodeChar c = [UInt8.ofNat c.val.toNat]) ∨
      ∀ b ∈ String.utf8EncodeChar c, 128 ≤ b.toNat := by
  fun_cases String.utf8EncodeChar c with
  | case1 v hv => exact .inl ⟨Nat.lt_succ_of_le hv, rfl⟩
  | case2 v | case3 v | case4 v =>
    right
    simp only [List.mem_cons, List.not_mem_nil, or_false, forall_eq_or_imp, forall_eq,
      UInt8.toNat_ofNat']
    omega

/-- A byte below 128 is a character by itself. -/
theorem utf8EncodeChar_of_mem {c : Char} {b : UInt8} (hb : b.toNat < 128)
    (h : b ∈ String.utf8EncodeChar c) : String.utf8EncodeChar c = [b] ∧ c.val.toNat = b.toNat := by
  rcases utf8EncodeChar_cases c with ⟨hc, hencode⟩ | hhigh
  · rw [hencode, List.mem_singleton] at h
    subst h
    rw [UInt8.toNat_ofNat', Nat.mod_eq_of_lt (by omega)]
    exact ⟨hencode, rfl⟩
  · exact absurd (hhigh b h) (by omega)

/-! ### Cutting at a character of one byte -/

/-- What comes before the first cut goes to the first piece. -/
theorem splitOn_append_of_not_mem {α : Type} [DecidableEq α] {a : α} {s : List α} (hs : a ∉ s)
    (t : List α) : (s ++ t).splitOn a = (t.splitOn a).modifyHead (s ++ ·) := by
  induction s with
  | nil =>
    rw [List.nil_append]
    cases t.splitOn a <;> rfl
  | cons x s ih =>
    rw [List.mem_cons, not_or] at hs
    rw [List.cons_append, List.splitOn_cons_eq_if_modifyHead, ih hs.2,
      if_neg (by simpa using Ne.symm hs.1), List.modifyHead_modifyHead]
    rfl

section cut

variable {a c : Char} {b : UInt8} (hab : String.utf8EncodeChar a = [b]) (hb : b.toNat < 128)

include hab hb

/-- The byte of a one-byte character occurs in that character only. -/
theorem mem_utf8EncodeChar_iff : b ∈ String.utf8EncodeChar c ↔ c = a := by
  constructor
  · intro hc
    have ha : b ∈ String.utf8EncodeChar a := by
      rw [hab]
      exact List.mem_singleton_self b
    apply Char.ext
    apply UInt32.toNat_inj.1
    rw [(utf8EncodeChar_of_mem hb hc).2, (utf8EncodeChar_of_mem hb ha).2]
  · rintro rfl
    rw [hab]
    exact List.mem_singleton_self b

/-- The pieces of the bytes are the bytes of the pieces. -/
theorem splitOn_encode (text : List Char) :
    (encode text).splitOn b = (text.splitOn a).map encode := by
  induction text with
  | nil => rfl
  | cons c text ih =>
    rw [encode_cons, List.splitOn_cons_eq_if_modifyHead]
    by_cases hc : c = a
    · rw [hc, hab, List.singleton_append, List.splitOn_cons_eq_if_modifyHead]
      simp [ih]
    · have hnot : b ∉ String.utf8EncodeChar c := by rwa [mem_utf8EncodeChar_iff hab hb]
      rw [splitOn_append_of_not_mem hnot, ih]
      cases text.splitOn a <;> simp [hc, encode_cons]

/-- An ending of a text is an ending of its bytes. -/
theorem dropEnd_encode (text : List Char) : dropEnd b (encode text) = encode (dropEnd a text) := by
  rcases List.eq_nil_or_concat' text with rfl | ⟨text, c, rfl⟩
  · simp [dropEnd]
  · unfold dropEnd
    by_cases hc : c = a
    · simp [hc, encode_cons, hab]
    · have hlast : (encode (text ++ [c])).getLast? ≠ some b := by
        intro h
        rw [encode_append, encode_cons, encode_nil, List.append_nil, List.getLast?_append,
          List.getLast?_eq_some_getLast String.utf8EncodeChar_ne_nil, Option.some_or] at h
        have hmem := List.getLast_mem (String.utf8EncodeChar_ne_nil (c := c))
        rw [Option.some.inj h] at hmem
        exact hc ((mem_utf8EncodeChar_iff hab hb).1 hmem)
      rw [if_neg hlast, if_neg (by simpa using hc)]

end cut

/-- Putting pieces together again is the same before and after encoding. -/
theorem encode_intercalate {a : Char} {b : UInt8} (hab : String.utf8EncodeChar a = [b])
    (pieces : List (List Char)) :
    encode ([a].intercalate pieces) = [b].intercalate (pieces.map encode) := by
  induction pieces with
  | nil => rfl
  | cons piece pieces ih =>
    cases pieces with
    | nil => simp
    | cons next pieces =>
      rw [List.intercalate_cons_cons, List.map_cons, List.map_cons, List.intercalate_cons_cons,
        encode_append, encode_append, ih, List.map_cons, encode_cons, encode_nil, hab,
        List.append_nil]

/-! ### Lines -/

/-- A line feed is one byte. -/
theorem utf8EncodeChar_lineFeed : String.utf8EncodeChar '\n' = [10] := rfl

/-- So is a carriage return. -/
theorem utf8EncodeChar_carriageReturn : String.utf8EncodeChar '\r' = [13] := rfl

/-- A list is what is left of it, or that and its end. -/
theorem eq_dropEnd_or {α : Type} [DecidableEq α] (a : α) (l : List α) :
    l = dropEnd a l ∨ l = dropEnd a l ++ [a] := by
  unfold dropEnd
  split
  · next h =>
    right
    obtain ⟨front, rfl⟩ := List.getLast?_eq_some_iff.1 h
    rw [List.dropLast_concat]
  · exact .inl rfl

/-- The lines of the bytes are the bytes of the lines. -/
theorem lines_encode (text : List Char) :
    lines 10 13 (encode text) = (lines '\n' '\r' text).map encode := by
  have hdrop : dropEnd 13 ∘ encode = encode ∘ dropEnd '\r' :=
    funext fun line => dropEnd_encode utf8EncodeChar_carriageReturn (by decide) line
  have hempty : (fun line : List UInt8 => decide (line ≠ [])) ∘ encode =
      fun line => decide (line ≠ []) := by
    funext line
    simp
  unfold lines
  simp only
  rw [splitOn_encode utf8EncodeChar_lineFeed (by decide), ← List.map_dropLast, List.map_map, hdrop,
    List.getLast?_map, Option.toList_map, List.filter_map, hempty, List.map_append, List.map_map]

/-- Bytes whose lines are all bytes of texts are the bytes of a text. -/
theorem exists_encode_of_lines (bytes : List UInt8)
    (h : ∀ line ∈ lines 10 13 bytes, ∃ text, encode text = line) : ∃ text, encode text = bytes := by
  have hpieces : bytes.splitOn 10 ∈ Set.range (List.map encode) := by
    rw [Set.range_list_map]
    intro piece hpiece
    rw [← List.dropLast_concat_getLast (List.splitOn_ne_nil 10 bytes), List.mem_append,
      List.mem_singleton] at hpiece
    rcases hpiece with hended | hlast
    · -- the line was ended by a line feed, and perhaps by a carriage return before it
      obtain ⟨text, htext⟩ := h (dropEnd 13 piece)
        (List.mem_append_left _ (List.mem_map_of_mem hended))
      rcases eq_dropEnd_or 13 piece with hpiece | hpiece
      · exact ⟨text, htext.trans hpiece.symm⟩
      · refine ⟨text ++ ['\r'], ?_⟩
        rw [hpiece, encode_append, htext]
        rfl
    · by_cases hne : piece = []
      · exact ⟨[], hne.symm⟩
      · refine h piece (List.mem_append_right _ ?_)
        rw [List.getLast?_eq_some_getLast (List.splitOn_ne_nil 10 bytes), ← hlast]
        simp [hne]
  obtain ⟨pieces, hpieces⟩ := hpieces
  refine ⟨['\n'].intercalate pieces, ?_⟩
  rw [encode_intercalate utf8EncodeChar_lineFeed, hpieces, List.intercalate_splitOn]

/-! ### Decoding -/

/-- The bytes of a text are its encoding. -/
theorem toByteArray_eq (text : String) : text.toByteArray = ⟨(encode text.toList).toArray⟩ := by
  rw [← String.utf8Encode_toList]
  apply ByteArray.ext
  apply Array.toList_inj.1
  exact List.toList_data_toByteArray

/-- Bytes are decoded to the text whose bytes they are. -/
theorem fromUTF8?_eq_some_iff {bytes : ByteArray} {text : String} :
    String.fromUTF8? bytes = some text ↔ bytes.data.toList = encode text.toList := by
  constructor
  · intro h
    unfold String.fromUTF8? at h
    split at h
    · next hvalid =>
      cases h
      exact congrArg (fun b => b.data.toList) (toByteArray_eq (String.fromUTF8 bytes hvalid))
    · cases h
  · intro h
    have hbytes : bytes = text.toByteArray := by
      rw [toByteArray_eq, ← h]
    rw [hbytes, String.fromUTF8?, dif_pos text.isValidUTF8]
    rfl

/-- An encoding is decoded to its text. -/
theorem fromUTF8?_encode (text : List Char) :
    String.fromUTF8? ⟨(encode text).toArray⟩ = some (String.ofList text) := by
  rw [fromUTF8?_eq_some_iff, String.toList_ofList]

/-- Decoding a list of lines succeeds only if each of them decodes. -/
theorem exists_of_mapM_eq_some {α β : Type} {f : α → Option β} {as : List α} {bs : List β}
    (h : as.mapM f = some bs) : ∀ a ∈ as, ∃ b, f a = some b := by
  induction as generalizing bs with
  | nil => simp
  | cons a as ih =>
    rw [List.mapM_cons] at h
    obtain ⟨b, hb, hrest⟩ := Option.bind_eq_some_iff.1 h
    obtain ⟨rest, hrest, -⟩ := Option.bind_eq_some_iff.1 hrest
    rw [List.forall_mem_cons]
    exact ⟨⟨b, hb⟩, ih hrest⟩

/-- Cutting bytes into lines and decoding each is decoding the bytes and cutting the text. -/
theorem mapM_fromUTF8?_byteLines (bytes : ByteArray) :
    (byteLines bytes).mapM String.fromUTF8? =
      (String.fromUTF8? bytes).map fun text => (charLines text).map String.ofList := by
  cases htext : String.fromUTF8? bytes with
  | some text =>
    rw [byteLines, fromUTF8?_eq_some_iff.1 htext, lines_encode, List.map_map, List.mapM_map]
    have hdecode : (String.fromUTF8? ∘ (fun line => (⟨line.toArray⟩ : ByteArray)) ∘ encode) =
        fun line => some (String.ofList line) := funext fromUTF8?_encode
    rw [hdecode]
    exact List.mapM_pure
  | none =>
    rw [Option.map_none, Option.eq_none_iff_forall_ne_some]
    intro texts htexts
    obtain ⟨text, hbytes⟩ := exists_encode_of_lines bytes.data.toList fun line hline => by
      obtain ⟨text, hdecoded⟩ := exists_of_mapM_eq_some htexts _ (List.mem_map_of_mem hline)
      exact ⟨text.toList, (fromUTF8?_eq_some_iff.1 hdecoded).symm⟩
    have hvalid : String.fromUTF8? bytes = some (String.ofList text) := by
      rw [fromUTF8?_eq_some_iff, String.toList_ofList, hbytes]
    rw [hvalid] at htext
    cases htext

end WaitingRoom.Text

namespace WaitingRoom.Layout

/-- A file is read as its text is, and refused as unreadable exactly when it is no text. -/
theorem ofBytes_eq (bytes : ByteArray) :
    ofBytes bytes =
      match String.fromUTF8? bytes with
      | none => .error (.unreadable .notText)
      | some text => (ofText text).mapError .refused := by
  rw [ofBytes, Text.mapM_fromUTF8?_byteLines]
  cases String.fromUTF8? bytes with
  | none => rfl
  | some text =>
    simp only [Option.map_some, ofLines, ofText, List.map_map, String.toList_comp_ofList,
      List.map_id]

end WaitingRoom.Layout
