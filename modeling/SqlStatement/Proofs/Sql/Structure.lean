import SqlStatement.Proofs.Value.Intact
import SqlStatement.Sql.Template
/-!
# Rendering keeps the structure

Whatever values are bound, the rendered text has no placeholder, ends where the template ends,
and is one statement exactly when the template is.
-/
namespace SqlStatement

namespace Sql

variable {mode : EscapeMode}

structure IsSolid (v : List Mark) : Prop where
  ne_nil : v ≠ []
  not_gap : ∀ m ∈ v, m ≠ gapMark
  not_end : ∀ m ∈ v, m ≠ endMark
  not_idle : ∀ m ∈ v, isIdleMark m = false

theorem IsIntact.ne_code_mark {text : List Char} (h : IsIntact mode text) {m : Mark}
    (hm : m ∈ readingFrom mode .code text) {c : Char} (hc : isBareChar c = false) :
    m ≠ (.code, c) := by
  rintro rfl
  obtain hrole | ⟨-, hbare⟩ := h.marks _ hm
  · cases hrole
  · exact ne_of_isBareChar hbare hc rfl

theorem IsIntact.isSolid {text : List Char} (h : IsIntact mode text) :
    IsSolid (readingFrom mode .code text) := by
  refine ⟨?_, fun m hm => h.ne_code_mark hm (by decide),
    fun m hm => h.ne_code_mark hm (by decide), ?_⟩
  · intro hnil
    have htext := map_snd_readingFrom mode .code text
    rw [hnil] at htext
    have hopens := h.opens
    rw [← htext] at hopens
    exact hopens
  · intro m hm
    obtain ⟨role, c⟩ := m
    obtain hrole | ⟨hrole, hchar⟩ := h.marks _ hm
    · rw [show role = .literal from hrole]
      rfl
    · have hend : c ≠ ';' := ne_of_isBareChar hchar (by decide)
      rw [show role = .code from hrole]
      simp [isIdleMark, isAsciiBlank_of_isBareChar hchar, hend]

private theorem IsSolid.count_gapMark {v : List Mark} (h : IsSolid v) : v.count gapMark = 0 :=
  List.count_eq_zero.2 fun hm => h.not_gap _ hm rfl

private theorem IsSolid.dropWhile_append {v : List Mark} (h : IsSolid v) (ms : List Mark) :
    (v ++ ms).dropWhile (· != endMark) = ms.dropWhile (· != endMark) :=
  List.dropWhile_append_of_pos fun m hm => by simpa using h.not_end m hm

private theorem IsSolid.all_isIdleMark_append {v : List Mark} (h : IsSolid v) (ms : List Mark) :
    (v ++ ms).all isIdleMark = false := by
  cases v with
  | nil => exact absurd rfl h.ne_nil
  | cons m v => simp [h.not_idle m List.mem_cons_self]

theorem count_gapMark_fillMarks {ms : List Mark} {values : List (List Mark)}
    (hsolid : ∀ v ∈ values, IsSolid v) : (fillMarks ms values).count gapMark = 0 := by
  induction ms generalizing values with
  | nil => rfl
  | cons m ms ih =>
    by_cases hm : m = gapMark
    · subst hm
      cases values with
      | nil => rfl
      | cons v vs =>
        rw [fillMarks_gap, List.count_append, (hsolid v List.mem_cons_self).count_gapMark,
          ih fun w hw => hsolid w (List.mem_cons_of_mem v hw)]
    · rw [fillMarks_of_ne hm, List.count_cons_of_ne hm, ih hsolid]

private theorem all_isIdleMark_fillMarks {ms : List Mark} {values : List (List Mark)}
    (hgaps : ms.count gapMark ≤ values.length) (hsolid : ∀ v ∈ values, IsSolid v) :
    (fillMarks ms values).all isIdleMark = ms.all isIdleMark := by
  induction ms generalizing values with
  | nil => rfl
  | cons m ms ih =>
    by_cases hm : m = gapMark
    · subst hm
      cases values with
      | nil => simp at hgaps
      | cons v vs =>
        rw [fillMarks_gap, (hsolid v List.mem_cons_self).all_isIdleMark_append]
        rfl
    · rw [List.count_cons_of_ne hm] at hgaps
      rw [fillMarks_of_ne hm, List.all_cons, List.all_cons, ih hgaps hsolid]

private theorem dropWhile_fillMarks {ms : List Mark} {values : List (List Mark)}
    (hgaps : ms.count gapMark ≤ values.length) (hsolid : ∀ v ∈ values, IsSolid v) :
    ((fillMarks ms values).dropWhile (· != endMark)).all isIdleMark =
      (ms.dropWhile (· != endMark)).all isIdleMark := by
  induction ms generalizing values with
  | nil => rfl
  | cons m ms ih =>
    by_cases hm : m = gapMark
    · subst hm
      cases values with
      | nil => simp at hgaps
      | cons v vs =>
        have hcount : ms.count gapMark ≤ vs.length := by simpa using hgaps
        rw [fillMarks_gap, (hsolid v List.mem_cons_self).dropWhile_append,
          ih hcount fun w hw => hsolid w (List.mem_cons_of_mem v hw),
          List.dropWhile_cons_of_pos (by decide)]
    · have hcount := hgaps
      rw [List.count_cons_of_ne hm] at hcount
      rw [fillMarks_of_ne hm]
      by_cases hend : m = endMark
      · subst hend
        rw [List.dropWhile_cons_of_neg (by decide), List.dropWhile_cons_of_neg (by decide),
          List.all_cons, List.all_cons, all_isIdleMark_fillMarks hcount hsolid]
      · rw [List.dropWhile_cons_of_pos (by simpa using hend),
          List.dropWhile_cons_of_pos (by simpa using hend), ih hcount hsolid]

end Sql

namespace Template

open Sql

private theorem paramCount_compile (sql : String) (mode : EscapeMode) (joinRows : Bool) :
    (compile sql mode joinRows).paramCount = (readingFrom mode .code sql.toList).count gapMark := by
  rw [paramCount, compile, Pieces.gaps_ofLexemes, lexemes_eq_lexemesOf,
    countP_isPlaceholder_lexemesOf]

private theorem render_compile {sql : String} {mode : EscapeMode} {joinRows : Bool} {row : Row}
    (h : (compile sql mode joinRows).paramCount ≤ row.length) :
    (compile sql mode joinRows).render row =
      .ok (String.ofList (fillFrom mode .code sql.toList (row.map (Value.literal mode)))) := by
  rw [render, if_neg (Nat.not_lt.2 h)]
  rfl

theorem isIntact_of_mem_literals (t : Template) {row : Row} {text : List Char}
    (h : text ∈ t.literals row) : IsIntact t.mode text := by
  obtain ⟨value, -, rfl⟩ := List.mem_map.1 h
  exact value.isIntact_literal t.mode

/-- In the mode of its template a rendered text is read as the template with the readings of the
literals in its gaps, and ends where the template ends. -/
theorem reading_render {sql : String} {mode : EscapeMode} {joinRows : Bool} {row : Row}
    (h : (compile sql mode joinRows).paramCount ≤ row.length) :
    ∃ text, (compile sql mode joinRows).render row = .ok text ∧
      readingFrom mode .code text.toList = fillMarks (readingFrom mode .code sql.toList)
        (row.map fun v => readingFrom mode .code (v.literal mode)) ∧
      Region.after mode .code text.toList = Region.after mode .code sql.toList := by
  have hgaps : (readingFrom mode .code sql.toList).count gapMark ≤
      (row.map (Value.literal mode)).length := by
    rwa [List.length_map, ← paramCount_compile sql mode joinRows]
  have hintact : ∀ v ∈ row.map (Value.literal mode), IsIntact mode v :=
    fun _ hv => isIntact_of_mem_literals (compile sql mode joinRows) hv
  obtain ⟨hreading, hplace⟩ := readingFrom_fillFrom (r := .code) hgaps hintact
  refine ⟨_, render_compile h, ?_, ?_⟩
  · rw [String.toList_ofList, hreading, List.map_map]
    rfl
  · rw [String.toList_ofList, hplace]

/-- Bound values never change the structure of the text they are bound in. -/
theorem render_keeps_structure (sql : String) (mode : EscapeMode) (joinRows : Bool) (row : Row)
    (h : (compile sql mode joinRows).paramCount ≤ row.length) :
    ∃ text, (compile sql mode joinRows).render row = .ok text ∧
      (lexemes mode text.toList).countP Lexeme.isPlaceholder = 0 ∧
      Region.after mode .code text.toList = Region.after mode .code sql.toList ∧
      RowLayout.isOneStatement (lexemes mode text.toList) =
        RowLayout.isOneStatement (lexemes mode sql.toList) := by
  obtain ⟨text, htext, hreading, hplace⟩ := reading_render h
  have hsolid : ∀ v ∈ row.map fun v => readingFrom mode .code (v.literal mode), IsSolid v := by
    intro v hv
    obtain ⟨value, -, rfl⟩ := List.mem_map.1 hv
    exact (value.isIntact_literal mode).isSolid
  have hgaps : (readingFrom mode .code sql.toList).count gapMark ≤
      (row.map fun v => readingFrom mode .code (v.literal mode)).length := by
    rwa [List.length_map, ← paramCount_compile sql mode joinRows]
  refine ⟨text, htext, ?_, hplace, ?_⟩
  · rw [lexemes_eq_lexemesOf, countP_isPlaceholder_lexemesOf, hreading,
      count_gapMark_fillMarks hsolid]
  · rw [lexemes_eq_lexemesOf, lexemes_eq_lexemesOf, isOneStatement_lexemesOf,
      isOneStatement_lexemesOf, hreading]
    exact dropWhile_fillMarks hgaps hsolid

/-- A text value between a quoted text and a quote that opens another one. -/
theorem render_keeps_structure_between_quotes :
    (compile "select 'a'?'b' ; " .backslash false).paramCount ≤ [Value.text "it's \\"].length ∧
      ∃ text, (compile "select 'a'?'b' ; " .backslash false).render [.text "it's \\"] = .ok text ∧
        (lexemes .backslash text.toList).countP Lexeme.isPlaceholder = 0 ∧
        Region.after .backslash .code text.toList =
          Region.after .backslash .code "select 'a'?'b' ; ".toList ∧
        RowLayout.isOneStatement (lexemes .backslash text.toList) =
          RowLayout.isOneStatement (lexemes .backslash "select 'a'?'b' ; ".toList) := by
  have h : (compile "select 'a'?'b' ; " .backslash false).paramCount ≤
      [Value.text "it's \\"].length := by decide
  exact ⟨h, render_keeps_structure _ _ _ _ h⟩

end Template
end SqlStatement
