import SqlStatement.Sql.Template
/-!
# Rows joined into one insert

The lexemes of a text with a layout are those of its lead, its row and its trail, and only the row
has gaps.  So the joined text carries exactly the groups that the rows give one by one.
-/
namespace SqlStatement

namespace Sql

theorem intercalate_cons (c : Char) (text : List Char) (texts : List (List Char)) :
    List.intercalate [c] (text :: texts) = text ++ texts.flatMap (c :: ·) := by
  induction texts generalizing text with
  | nil => simp
  | cons second texts ih =>
    rw [List.intercalate_cons_cons, ih, List.flatMap_cons]
    simp

namespace Pieces

theorem ofLexemes_of_no_placeholder {ls : List Lexeme} (h : ls.any Lexeme.isPlaceholder = false) :
    ofLexemes ls = ⟨Lexeme.text ls, []⟩ := by
  induction ls with
  | nil => rfl
  | cons l ls ih =>
    rw [List.any_cons, Bool.or_eq_false_iff] at h
    rw [ofLexemes_cons, ih h.2, cons, if_neg (by simp [h.1])]
    rfl

private theorem fill_ofLexemes_append (ls ms : List Lexeme) {values : List (List Char)}
    (h : ls.countP Lexeme.isPlaceholder ≤ values.length) :
    (ofLexemes (ls ++ ms)).fill values =
      (ofLexemes ls).fill values ++
        (ofLexemes ms).fill (values.drop (ls.countP Lexeme.isPlaceholder)) := by
  induction ls generalizing values with
  | nil => exact (List.nil_append _).symm
  | cons l ls ih =>
    rw [List.cons_append, ofLexemes_cons, ofLexemes_cons, cons, cons]
    by_cases hl : l.isPlaceholder = true
    · rw [List.countP_cons_of_pos hl] at h ⊢
      cases values with
      | nil => simp at h
      | cons value values =>
        have hrest := ih (Nat.le_of_succ_le_succ h)
        rw [if_pos hl, if_pos hl, List.drop_succ_cons]
        simp only [toList, fill_gap, hrest, List.nil_append, List.append_assoc]
    · rw [List.countP_cons_of_neg hl] at h ⊢
      rw [if_neg hl, if_neg hl, fill_prepend, fill_prepend, ih h, List.append_assoc]

end Pieces

namespace RowLayout

theorem split?_eq_some {ls lead row trail : List Lexeme} (h : split? ls = some (lead, row, trail)) :
    lead ++ row ++ trail = ls := by
  obtain ⟨⟨before, after⟩, hkeyword, h⟩ := Option.bind_eq_some_iff.1 h
  have hblank := List.takeWhile_append_dropWhile (p := Lexeme.isBlank) (l := after)
  dsimp only at h
  split at h
  · next inner hafter =>
    obtain ⟨⟨group, behind⟩, hgroup, heq⟩ := Option.map_eq_some_iff.1 h
    cases heq
    rw [List.append_assoc, splitAfterGroup_eq_some hgroup, ← hafter, List.append_assoc, hblank]
    exact splitAfterKeyword_eq_some hkeyword
  · cases h

theorem ofLexemes?_eq_some_iff {ls : List Lexeme} {layout : RowLayout} :
    ofLexemes? ls = some layout ↔
      (startsInsert ls = true ∧ isOneStatement ls = true) ∧
        ∃ lead row trail, split? ls = some (lead, row, trail) ∧
          lead.any Lexeme.isPlaceholder = false ∧ trail.any Lexeme.isPlaceholder = false ∧
          announcesRow (Lexeme.text trail) = false ∧
          layout = ⟨Lexeme.text lead, Pieces.ofLexemes row, Lexeme.text trail⟩ := by
  unfold ofLexemes?
  constructor
  · intro h
    split at h
    · next hinsert =>
      obtain ⟨⟨lead, row, trail⟩, hsplit, h⟩ := Option.bind_eq_some_iff.1 h
      dsimp only at h
      split at h
      · cases h
      · next hclear =>
        simp only [not_or, Bool.not_eq_true] at hclear
        cases h
        exact ⟨hinsert, lead, row, trail, hsplit, hclear.1, hclear.2.1, hclear.2.2, rfl⟩
    · cases h
  · rintro ⟨hinsert, lead, row, trail, hsplit, hlead, htrail, hrow, rfl⟩
    rw [if_pos hinsert, hsplit, Option.bind_some]
    dsimp only
    rw [hlead, htrail, hrow]
    rfl

theorem ofLexemes?_eq_some {ls : List Lexeme} {layout : RowLayout}
    (h : ofLexemes? ls = some layout) :
    ∃ lead row trail, lead ++ row ++ trail = ls ∧
      lead.any Lexeme.isPlaceholder = false ∧ trail.any Lexeme.isPlaceholder = false ∧
      layout = ⟨Lexeme.text lead, Pieces.ofLexemes row, Lexeme.text trail⟩ := by
  obtain ⟨-, lead, row, trail, hsplit, hlead, htrail, -, rfl⟩ := ofLexemes?_eq_some_iff.1 h
  exact ⟨lead, row, trail, split?_eq_some hsplit, hlead, htrail, rfl⟩

private theorem fill_ofLexemes {ls : List Lexeme} {layout : RowLayout}
    (h : ofLexemes? ls = some layout) {values : List (List Char)}
    (hgaps : (Pieces.ofLexemes ls).gaps ≤ values.length) :
    (Pieces.ofLexemes ls).fill values = layout.lead ++ layout.row.fill values ++ layout.trail := by
  obtain ⟨lead, row, trail, rfl, hlead, htrail, rfl⟩ := ofLexemes?_eq_some h
  have hcount : lead.countP Lexeme.isPlaceholder = 0 := by
    rw [List.countP_eq_zero]
    exact List.any_eq_false.1 hlead
  have hrow : row.countP Lexeme.isPlaceholder ≤ values.length := by
    rw [Pieces.gaps_ofLexemes, List.countP_append, List.countP_append] at hgaps
    omega
  rw [List.append_assoc, Pieces.fill_ofLexemes_append _ _ (by omega), hcount, List.drop_zero,
    Pieces.fill_ofLexemes_append _ _ hrow, Pieces.ofLexemes_of_no_placeholder hlead,
    Pieces.ofLexemes_of_no_placeholder htrail, Pieces.fill_last, Pieces.fill_last,
    List.append_assoc]

end RowLayout
end Sql

namespace Template

def group (t : Template) (layout : Sql.RowLayout) (row : Row) : List Char :=
  layout.row.fill (t.literals row)

private theorem renderJoined?_eq_none {t : Template} {rows : List Row} :
    t.renderJoined? rows = none ↔ t.layout = none ∨ rows = [] := by
  unfold renderJoined?
  cases rows with
  | nil => simp
  | cons row rows => simp

private theorem renderJoined?_of_layout {t : Template} {layout : Sql.RowLayout} {rows : List Row}
    (hlayout : t.layout = some layout) (hrows : rows ≠ []) :
    t.renderJoined? rows =
      some (String.ofList
        (layout.lead ++ List.intercalate [','] (rows.map (t.group layout)) ++ layout.trail)) := by
  unfold renderJoined?
  rw [if_neg (by simpa using hrows), hlayout, Option.map_some, Sql.RowLayout.fillRows, List.map_map]
  rfl

theorem ofLexemes?_of_layout {sql : String} {mode : EscapeMode} {joinRows : Bool}
    {layout : Sql.RowLayout} (h : (compile sql mode joinRows).layout = some layout) :
    Sql.RowLayout.ofLexemes? (Sql.lexemes mode sql.toList) = some layout := by
  cases joinRows with
  | true => exact h
  | false => cases h

private theorem render_of_layout {sql : String} {mode : EscapeMode} {joinRows : Bool}
    {layout : Sql.RowLayout} {row : Row}
    (hlayout : (compile sql mode joinRows).layout = some layout)
    (hrow : row.length = (compile sql mode joinRows).paramCount) :
    (compile sql mode joinRows).render row =
      .ok (String.ofList
        (layout.lead ++ (compile sql mode joinRows).group layout row ++ layout.trail)) := by
  have hls := ofLexemes?_of_layout hlayout
  have hgaps : (compile sql mode joinRows).pieces.gaps ≤
      ((compile sql mode joinRows).literals row).length := by
    rw [literals, List.length_map]
    exact Nat.le_of_eq hrow.symm
  rw [render, if_neg (by omega)]
  exact congrArg (Except.ok ∘ String.ofList) (Sql.RowLayout.fill_ofLexemes hls hgaps)

/-- One insert carries exactly the groups that its rows give one by one. -/
theorem renderJoined_groups (sql : String) (mode : EscapeMode) (joinRows : Bool)
    (rows : List Row) :
    ((compile sql mode joinRows).renderJoined? rows = none ↔
      (compile sql mode joinRows).layout = none ∨ rows = []) ∧
    (∀ layout, (compile sql mode joinRows).layout = some layout → rows ≠ [] →
      (∀ row ∈ rows, row.length = (compile sql mode joinRows).paramCount) →
      ∃ groups : List (List Char),
        rows.map (compile sql mode joinRows).render =
          groups.map (fun g => .ok (String.ofList (layout.lead ++ g ++ layout.trail))) ∧
        (compile sql mode joinRows).renderJoined? rows =
          some (String.ofList
            (layout.lead ++ List.intercalate [','] groups ++ layout.trail))) ∧
    ∀ row, (compile sql mode joinRows).layout ≠ none →
      row.length = (compile sql mode joinRows).paramCount →
      ∃ text, (compile sql mode joinRows).render row = .ok text ∧
        (compile sql mode joinRows).renderJoined? [row] = some text := by
  refine ⟨renderJoined?_eq_none, ?_, ?_⟩
  · intro layout hlayout hne hrows
    refine ⟨rows.map ((compile sql mode joinRows).group layout), ?_,
      renderJoined?_of_layout hlayout hne⟩
    rw [List.map_map]
    apply List.map_congr_left
    intro row hrow
    exact render_of_layout hlayout (hrows row hrow)
  · intro row hsome hrow
    obtain ⟨layout, hlayout⟩ := Option.ne_none_iff_exists'.1 hsome
    refine ⟨_, render_of_layout hlayout hrow, ?_⟩
    rw [renderJoined?_of_layout hlayout (List.cons_ne_nil row []), List.map_singleton,
      List.intercalate_singleton]

/-- A group with parentheses inside it and a parenthesis in a quoted text. -/
theorem renderJoined_groups_nested :
    ∃ layout, (compile "insert into t values (?, (?), ')') -- end" .backslash true).layout =
        some layout ∧
      ∃ groups : List (List Char),
        [[Value.int 1, .int 2], [.int 3, .int 4]].map
            (compile "insert into t values (?, (?), ')') -- end" .backslash true).render =
          groups.map (fun g => .ok (String.ofList (layout.lead ++ g ++ layout.trail))) ∧
        (compile "insert into t values (?, (?), ')') -- end" .backslash true).renderJoined?
            [[.int 1, .int 2], [.int 3, .int 4]] =
          some (String.ofList (layout.lead ++ List.intercalate [','] groups ++ layout.trail)) := by
  have hlayout : (compile "insert into t values (?, (?), ')') -- end" .backslash true).layout =
      some ⟨"insert into t values ".toList, ⟨"(".toList, [", (".toList, "), ')')".toList]⟩,
        " -- end".toList⟩ := by decide
  exact ⟨_, hlayout, (renderJoined_groups _ _ _ _).2.1 _ hlayout (by decide) (by decide)⟩

end Template
end SqlStatement
