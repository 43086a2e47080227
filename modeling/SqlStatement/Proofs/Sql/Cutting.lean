import SqlStatement.Proofs.Sql.Grammar
/-!
# Cutting loses nothing

A text is cut at the bytes of its placeholders, and so is the row of its layout.  Nothing is lost
and no character is cut through: `Template.cut_at_placeholders`.
-/
namespace SqlStatement

namespace Sql

def utf8 (chars : List Char) : List UInt8 :=
  (String.ofList chars).toByteArray.data.toList

/-- The parts between the bytes at some offsets, of a text given by its bytes from offset `n`
on. -/
def cutBytes : Nat → List Nat → List UInt8 → List (List UInt8)
  | _, [], bytes => [bytes]
  | n, offset :: offsets, bytes =>
    bytes.take (offset - n) :: cutBytes (offset + 1) offsets (bytes.drop (offset - n + 1))

private theorem length_utf8 (chars : List Char) : (utf8 chars).length = byteLength chars :=
  Array.length_toList

private theorem utf8_append (first second : List Char) :
    utf8 (first ++ second) = utf8 first ++ utf8 second := by
  simp [utf8, String.ofList_append, String.toByteArray_append, ByteArray.data_append]

private theorem utf8_placeholder_cons (chars : List Char) :
    utf8 ('?' :: chars) = 0x3F :: utf8 chars :=
  utf8_append ['?'] chars

namespace Pieces

private theorem join_gap (first piece : List Char) (pieces : List (List Char)) :
    join ⟨first, piece :: pieces⟩ = first ++ '?' :: join ⟨piece, pieces⟩ := by
  simp only [join, List.flatMap_cons, List.cons_append]

private theorem intercalate_toList (p : Pieces) : List.intercalate ['?'] p.toList = p.join :=
  intercalate_cons '?' p.first p.rest

/-- Cutting the bytes of a text at its gaps gives the bytes of its pieces. -/
theorem cutBytes_join (n : Nat) (p : Pieces) :
    cutBytes n (p.offsetsFrom n) (utf8 p.join) = p.toList.map utf8 := by
  obtain ⟨first, rest⟩ := p
  induction rest generalizing first n with
  | nil => simp [offsetsFrom, gapOffsets, cutBytes, join, toList]
  | cons piece pieces ih =>
    have hrest := ih (n + byteLength first + 1) piece
    have hlength : n + byteLength first - n = (utf8 first).length := by
      rw [length_utf8, Nat.add_sub_cancel_left]
    have hoffsets : offsetsFrom n ⟨first, piece :: pieces⟩ =
        (n + byteLength first) :: offsetsFrom (n + byteLength first + 1) ⟨piece, pieces⟩ := rfl
    rw [hoffsets, cutBytes, hlength, join_gap, utf8_append, utf8_placeholder_cons,
      List.take_left, List.drop_append, List.drop_of_length_le (by omega), List.nil_append,
      Nat.add_sub_cancel_left, List.drop_succ_cons, List.drop_zero, hrest]
    rfl

private theorem prepend_append (p : Pieces) (before behind : List Char) :
    (p.append behind).prepend before = (p.prepend before).append behind := by
  obtain ⟨first, rest⟩ := p
  cases h : rest.getLast? <;> simp [append, prepend, h]

private theorem gaps_append (p : Pieces) (chars : List Char) : (p.append chars).gaps = p.gaps := by
  obtain ⟨first, rest⟩ := p
  cases rest with
  | nil => rfl
  | cons piece pieces =>
    have hlast := List.getLast?_eq_some_getLast (List.cons_ne_nil piece pieces)
    simp [append, gaps, hlast]

private theorem append_gap (first : List Char) (p : Pieces) (chars : List Char) :
    append ⟨first, p.toList⟩ chars = ⟨first, (p.append chars).toList⟩ := by
  obtain ⟨piece, pieces⟩ := p
  cases pieces with
  | nil => rfl
  | cons second others =>
    have hlast := List.getLast?_eq_some_getLast (List.cons_ne_nil second others)
    simp [append, toList, List.getLast?_cons_cons, hlast]

private theorem ofLexemes_append_of_no_placeholder (ls : List Lexeme) {ms : List Lexeme}
    (h : ms.any Lexeme.isPlaceholder = false) :
    ofLexemes (ls ++ ms) = (ofLexemes ls).append (Lexeme.text ms) := by
  induction ls with
  | nil => exact ofLexemes_of_no_placeholder h
  | cons l ls ih =>
    rw [List.cons_append, ofLexemes_cons, ofLexemes_cons, ih, cons, cons]
    split
    · exact (append_gap [] _ _).symm
    · exact prepend_append _ _ _

private theorem ofLexemes_prepend_of_no_placeholder {ls : List Lexeme} (ms : List Lexeme)
    (h : ls.any Lexeme.isPlaceholder = false) :
    ofLexemes (ls ++ ms) = (ofLexemes ms).prepend (Lexeme.text ls) := by
  induction ls with
  | nil => rfl
  | cons l ls ih =>
    rw [List.any_cons, Bool.or_eq_false_iff] at h
    rw [List.cons_append, ofLexemes_cons, ih h.2, cons, if_neg (by simp [h.1]), prepend_prepend]
    rfl

end Pieces

private theorem RowLayout.pieces_of_ofLexemes? {ls : List Lexeme} {layout : RowLayout}
    (h : ofLexemes? ls = some layout) :
    Pieces.ofLexemes ls = (layout.row.prepend layout.lead).append layout.trail := by
  obtain ⟨lead, row, trail, rfl, hlead, htrail, rfl⟩ := ofLexemes?_eq_some h
  rw [Pieces.ofLexemes_append_of_no_placeholder _ htrail,
    Pieces.ofLexemes_prepend_of_no_placeholder _ hlead]

end Sql

namespace Template

open Sql

/-- A text is cut at its placeholders, byte for byte: joined by placeholders the pieces are the
text again, and each is a whole number of characters.  Where there is a layout, its row is cut in
the same places, and only its ends differ from those of the text. -/
theorem cut_at_placeholders (sql : String) (mode : EscapeMode) (joinRows : Bool) :
    List.intercalate ['?'] (compile sql mode joinRows).pieces.toList = sql.toList ∧
    (compile sql mode joinRows).pieces.toList.length =
      (compile sql mode joinRows).paramCount + 1 ∧
    ∃ offsets, Reads mode 0 sql.toList offsets ∧
      cutBytes 0 offsets (utf8 sql.toList) =
        (compile sql mode joinRows).pieces.toList.map utf8 ∧
      ∀ layout, (compile sql mode joinRows).layout = some layout →
        layout.lead ++ List.intercalate ['?'] layout.row.toList ++ layout.trail = sql.toList ∧
        layout.row.toList.length = (compile sql mode joinRows).paramCount + 1 ∧
        cutBytes (byteLength layout.lead) offsets
            (utf8 (List.intercalate ['?'] layout.row.toList)) = layout.row.toList.map utf8 ∧
        (compile sql mode joinRows).pieces =
          (layout.row.prepend layout.lead).append layout.trail := by
  have hjoin : (compile sql mode joinRows).pieces.join = sql.toList :=
    (Pieces.join_ofLexemes _).trans (text_lexemes mode sql.toList)
  refine ⟨(Pieces.intercalate_toList _).trans hjoin, rfl,
    (compile sql mode joinRows).pieces.offsets, reads_iff.2 rfl, ?_, ?_⟩
  · have hcut := Pieces.cutBytes_join 0 (compile sql mode joinRows).pieces
    rwa [hjoin] at hcut
  · intro layout hlayout
    have hls := ofLexemes?_of_layout hlayout
    obtain ⟨hwhole, hoffsets⟩ := RowLayout.offsets_of_ofLexemes? hls
    have hpieces := RowLayout.pieces_of_ofLexemes? hls
    have hcut := Pieces.cutBytes_join (byteLength layout.lead) layout.row
    rw [Pieces.intercalate_toList]
    refine ⟨hwhole.trans (text_lexemes mode sql.toList), ?_, ?_, hpieces⟩
    · rw [paramCount, show (compile sql mode joinRows).pieces = _ from hpieces, Pieces.gaps_append]
      rfl
    · rwa [hoffsets] at hcut

/-- A placeholder behind a character of two bytes, and one between two of them that is quoted. -/
theorem cut_at_placeholders_two_bytes :
    ∃ layout, (compile "insert into é values (?, 'é?é') -- é" .backslash true).layout =
        some layout ∧
      layout.lead ++ List.intercalate ['?'] layout.row.toList ++ layout.trail =
        "insert into é values (?, 'é?é') -- é".toList ∧
      cutBytes 22 [23] (utf8 "(?, 'é?é')".toList) = [utf8 "(".toList, utf8 ", 'é?é')".toList] := by
  obtain ⟨-, -, offsets, hreads, -, hlayout⟩ :=
    cut_at_placeholders "insert into é values (?, 'é?é') -- é" .backslash true
  have hoffsets : offsets = [23] := (reads_iff.1 hreads).trans (by decide)
  subst hoffsets
  obtain ⟨hwhole, -, hcut, -⟩ := hlayout
    ⟨"insert into é values ".toList, ⟨"(".toList, [", 'é?é')".toList]⟩, " -- é".toList⟩ (by decide)
  exact ⟨_, by decide, hwhole, hcut⟩

end Template
end SqlStatement
