import WaitingRoom.Proofs.RoundTrip

/-!
# Files and texts

A file arrives in pieces of bytes. Each piece is decoded by itself, with the end of its line, and
loses that end afterwards. A text has been decoded as a whole before it is cut. A plan is the same
either way, and so is what is wrong with it.

* **`Text.pieces`**: the pieces of a file, the ends of lines included (`Text.pieces_append_cons`,
  `Text.pieces_of_not_mem`).
* **`Text.readLine?`**: the line of a piece, if the piece can be decoded. Whether the end of a line is
  dropped before or after decoding makes no difference (`Text.readLine?_of_ended`).
* **`Text.mapM_readLine?_pieces`**: so a file has the lines that are found among its bytes.
* **`Layout.load_eq_ofText`**: a file is unreadable exactly when it is no text as a whole, whatever
  is wrong with its rows; otherwise it is read, or refused, as its text is.
-/

namespace WaitingRoom.Text

/-! ### Pieces -/

section pieces

variable {α : Type} [DecidableEq α] {lf : α} {s t : List α}

/-- The pieces of a text: each one ends with its line feed, and what follows the last line feed is a
piece of its own unless it is empty. -/
def pieces (lf : α) : List α → List (List α)
  | [] => []
  | a :: rest =>
    if a = lf then [a] :: pieces lf rest
    else
      match pieces lf rest with
      | [] => [[a]]
      | piece :: more => (a :: piece) :: more

/-- Without a line feed there is one piece, if there is anything. -/
theorem pieces_of_not_mem (hs : lf ∉ s) : pieces lf s = if s = [] then [] else [s] := by
  induction s with
  | nil => rfl
  | cons a s ih =>
    rw [List.mem_cons, not_or] at hs
    rw [pieces, if_neg (Ne.symm hs.1), ih hs.2]
    by_cases hempty : s = [] <;> simp [hempty]

/-- A line feed ends a piece and belongs to it. -/
theorem pieces_append_cons (hs : lf ∉ s) :
    pieces lf (s ++ lf :: t) = (s ++ [lf]) :: pieces lf t := by
  induction s with
  | nil => rw [List.nil_append, pieces, if_pos rfl, List.nil_append]
  | cons a s ih =>
    rw [List.mem_cons, not_or] at hs
    rw [List.cons_append, pieces, if_neg (Ne.symm hs.1), ih hs.2, List.cons_append]

end pieces

/-! ### Lines of pieces -/

/-- A piece without its end: the line feed, and then one carriage return before it. -/
def withoutEnd (piece : List Char) : List Char :=
  if piece.getLast? = some '\n' then dropEnd '\r' piece.dropLast else piece

/-- The line of a piece of a file. The piece is decoded before it loses its end. -/
def readLine? (piece : List UInt8) : Option String :=
  (String.fromUTF8? ⟨piece.toArray⟩).map fun text => String.ofList (withoutEnd text.toList)

/-- A text whose bytes end with a line feed ends with one. -/
theorem exists_of_encode_eq_append_lineFeed {text : List Char} {s : List UInt8}
    (h : encode text = s ++ [10]) : ∃ front, text = front ++ ['\n'] ∧ encode front = s := by
  have hfront : encode (dropEnd '\n' text) = s := by
    rw [← dropEnd_encode utf8EncodeChar_lineFeed (by decide), h]
    simp [dropEnd]
  rcases eq_dropEnd_or '\n' text with hend | hend
  · rw [← hend, h] at hfront
    simp at hfront
  · exact ⟨dropEnd '\n' text, hend, hfront⟩

/-- A piece that was ended by a line feed has the line that is found among its bytes. -/
theorem readLine?_of_ended (s : List UInt8) :
    readLine? (s ++ [10]) = String.fromUTF8? ⟨(dropEnd 13 s).toArray⟩ := by
  rw [readLine?]
  cases hpiece : String.fromUTF8? ⟨(s ++ [10]).toArray⟩ with
  | some text =>
    have htext : encode text.toList = s ++ [10] := (fromUTF8?_eq_some_iff.1 hpiece).symm
    obtain ⟨front, hfront, rfl⟩ := exists_of_encode_eq_append_lineFeed htext
    have hline : withoutEnd text.toList = dropEnd '\r' front := by
      simp [withoutEnd, hfront]
    rw [dropEnd_encode utf8EncodeChar_carriageReturn (by decide), fromUTF8?_encode, Option.map_some,
      hline]
  | none =>
    rw [Option.map_none, eq_comm, Option.eq_none_iff_forall_ne_some]
    intro line hline
    have hbytes : dropEnd 13 s = encode line.toList := fromUTF8?_eq_some_iff.1 hline
    -- putting the end back gives the bytes of a text, which the piece is not
    obtain ⟨text, htext⟩ : ∃ text, encode text = s ++ [10] := by
      rcases eq_dropEnd_or 13 s with hend | hend
      · refine ⟨line.toList ++ ['\n'], ?_⟩
        rw [encode_append, ← hbytes, ← hend]
        rfl
      · refine ⟨line.toList ++ ['\r'] ++ ['\n'], ?_⟩
        rw [encode_append, encode_append, ← hbytes]
        nth_rewrite 2 [hend]
        rfl
    rw [← htext, fromUTF8?_encode] at hpiece
    cases hpiece

/-- A piece without a line feed is a line as it is. -/
theorem readLine?_of_not_mem {s : List UInt8} (hs : 10 ∉ s) :
    readLine? s = String.fromUTF8? ⟨s.toArray⟩ := by
  rw [readLine?]
  cases hpiece : String.fromUTF8? ⟨s.toArray⟩ with
  | none => rfl
  | some text =>
    have hbytes : s = encode text.toList := fromUTF8?_eq_some_iff.1 hpiece
    have hend : text.toList.getLast? ≠ some '\n' := by
      intro hlast
      apply hs
      rw [hbytes]
      exact List.mem_flatMap.2 ⟨'\n', List.mem_of_getLast? hlast, List.mem_singleton_self 10⟩
    rw [Option.map_some, withoutEnd, if_neg hend, String.ofList_toList]

/-- A file has the lines that are found among its bytes. -/
theorem mapM_readLine?_pieces (bytes : ByteArray) :
    (pieces 10 bytes.data.toList).mapM readLine? = (byteLines bytes).mapM String.fromUTF8? := by
  rw [byteLines, List.mapM_map]
  induction bytes.data.toList using induction_lines (10 : UInt8) with
  | last s hs =>
    rw [pieces_of_not_mem hs, lines_of_not_mem hs]
    split
    · rfl
    · rw [List.mapM_cons, List.mapM_cons, readLine?_of_not_mem hs]
      rfl
  | line s t hs ih =>
    rw [pieces_append_cons hs, lines_append_cons hs, List.mapM_cons, List.mapM_cons, ih,
      readLine?_of_ended]
    rfl

end WaitingRoom.Text

namespace WaitingRoom.Layout

/-- **A file is read as its text.** Reading a file is decoding its pieces one by one, dropping the
ends of their lines and reading the lines as a plan. It fails for want of text exactly when the bytes
as a whole are no UTF-8, whatever is wrong with the rows. Otherwise it gives what reading the decoded
text gives, the layout or the refusal. -/
theorem load_eq_ofText (bytes : ByteArray) :
    (load (.ok bytes) =
        ((Text.pieces 10 bytes.data.toList).mapM Text.readLine?).elim
          (.error (.unreadable .notText)) fun lines => (ofLines lines).mapError .refused) ∧
      (load (.ok bytes) = .error (.unreadable .notText) ↔ ¬bytes.IsValidUTF8) ∧
      ∀ hvalid : bytes.IsValidUTF8,
        load (.ok bytes) = (ofText (String.fromUTF8 bytes hvalid)).mapError .refused := by
  have htext : ∀ hvalid : bytes.IsValidUTF8,
      load (.ok bytes) = (ofText (String.fromUTF8 bytes hvalid)).mapError .refused := by
    intro hvalid
    rw [load, ofBytes_eq, String.fromUTF8?, dif_pos hvalid]
  refine ⟨?_, ⟨fun hload hvalid => ?_, fun hinvalid => ?_⟩, htext⟩
  · rw [Text.mapM_readLine?_pieces, load, ofBytes]
    cases (Text.byteLines bytes).mapM String.fromUTF8? <;> rfl
  · rw [htext hvalid] at hload
    cases hread : ofText (String.fromUTF8 bytes hvalid) <;>
      simp [hread, Except.mapError] at hload
  · rw [load, ofBytes_eq, String.fromUTF8?, dif_neg hinvalid]

/-- A text with a carriage return in it and a letter of two bytes where a mark should be, and a file
with a bad mark in its first line that breaks off inside such a letter. -/
theorem load_eq_ofText_twoBytes :
    "L.\r\n.é".toByteArray.IsValidUTF8 ∧
      load (.ok "L.\r\n.é".toByteArray) = .error (.refused (.mark 'é')) ∧
      ¬(⟨#[76, 120, 10, 0xc3]⟩ : ByteArray).IsValidUTF8 ∧
      load (.ok ⟨#[76, 120, 10, 0xc3]⟩) = .error (.unreadable .notText) := by
  have hinvalid : ¬(⟨#[76, 120, 10, 0xc3]⟩ : ByteArray).IsValidUTF8 := by decide +kernel
  have hrefused : ofText "L.\r\n.é" = .error (.mark 'é') := by decide +kernel
  refine ⟨String.isValidUTF8 _, ?_, hinvalid, (load_eq_ofText _).2.1.2 hinvalid⟩
  refine ((load_eq_ofText _).2.2 (String.isValidUTF8 _)).trans ?_
  exact congrArg (Except.mapError LoadError.refused) hrefused

end WaitingRoom.Layout
