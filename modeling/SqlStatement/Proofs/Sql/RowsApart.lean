import SqlStatement.Proofs.Sql.Groups
import SqlStatement.Proofs.Sql.Structure
/-!
# Joined rows stay apart

No value can leave its row: filling the gaps of a group does not move its end, so the text of many
rows is read as one group for each row (`Template.joined_rows_apart`).  As for a single row, texts
are taken to have fewer than `2 ^ 32` open parentheses.
-/
namespace SqlStatement

namespace Sql

variable {mode : EscapeMode}

def depthAfterMark (depth : Nat) (m : Mark) : Nat :=
  if m = (.code, '(') then depth + 1 else if m = (.code, ')') then depth - 1 else depth

private theorem depthAfterMark_of_ne {m : Mark} (h : m ≠ (.code, '(') ∧ m ≠ (.code, ')'))
    (depth : Nat) : depthAfterMark depth m = depth := by
  rw [depthAfterMark, if_neg h.1, if_neg h.2]

private theorem closes_consRole {depth : Nat} (hdepth : 0 < depth) (m : Mark) (ls : List Lexeme) :
    Closes depth (Lexeme.consRole m.1 m.2 ls) ↔
      if depthAfterMark depth m = 0 then ls = [] else Closes (depthAfterMark depth m) ls := by
  have hword {c : Char} (hw : Text.isWordChar c = true) : depthAfterMark depth (.code, c) = depth :=
    depthAfterMark_of_ne ⟨Lexeme.ne_of_isWordChar_mark hw (by decide),
      Lexeme.ne_of_isWordChar_mark hw (by decide)⟩ depth
  apply Lexeme.consRole_cases (motive := fun m ls made =>
    Closes depth made ↔
      if depthAfterMark depth m = 0 then ls = [] else Closes (depthAfterMark depth m) ls)
  case joined =>
    intro c w ls hw
    simp [Closes, Lexeme.depthAfter, hword hw, Nat.ne_of_gt hdepth]
  case opened =>
    intro c ls hw
    simp [Closes, Lexeme.depthAfter, hword hw, Nat.ne_of_gt hdepth]
  case single =>
    intro c ls _
    simp only [Closes, depthAfterMark, Lexeme.depthAfter, Prod.mk.injEq, true_and]
    exact Iff.rfl
  case quoted =>
    intros
    exact Iff.rfl
  case remark =>
    intros
    exact Iff.rfl

def IsLevel (v : List Mark) : Prop :=
  ∀ m ∈ v, m ≠ (.code, '(') ∧ m ≠ (.code, ')')

private theorem IsIntact.isLevel {text : List Char} (h : IsIntact mode text) :
    IsLevel (readingFrom mode .code text) :=
  fun _ hm => ⟨h.ne_code_mark hm (by decide), h.ne_code_mark hm (by decide)⟩

theorem IsLevel.closes_append {v : List Mark} (h : IsLevel v) {depth : Nat} (hdepth : 0 < depth)
    (ms : List Mark) : Closes depth (lexemesOf (v ++ ms)) ↔ Closes depth (lexemesOf ms) := by
  induction v with
  | nil => exact Iff.rfl
  | cons m v ih =>
    obtain ⟨hm, hlevel⟩ := List.forall_mem_cons.1 h
    rw [List.cons_append, lexemesOf_cons, closes_consRole hdepth, depthAfterMark_of_ne hm,
      if_neg (Nat.ne_of_gt hdepth), ih hlevel]

/-- Filling the gaps of a group does not move its end. -/
theorem closes_fillMarks {depth : Nat} {ms : List Mark} {values : List (List Mark)}
    (hdepth : 0 < depth) (hgaps : ms.count gapMark ≤ values.length)
    (hlevel : ∀ v ∈ values, IsLevel v) (h : Closes depth (lexemesOf ms)) :
    Closes depth (lexemesOf (fillMarks ms values)) := by
  -- Below the first parenthesis the depth is positive until the group ends, and so it is after
  -- each gap.
  induction ms generalizing depth values with
  | nil => exact h
  | cons m ms ih =>
    rw [lexemesOf_cons, closes_consRole hdepth] at h
    by_cases hm : m = gapMark
    · subst hm
      rw [depthAfterMark_of_ne (by decide), if_neg (Nat.ne_of_gt hdepth)] at h
      cases values with
      | nil => simp at hgaps
      | cons v vs =>
        obtain ⟨hv, hvs⟩ := List.forall_mem_cons.1 hlevel
        have hcount : ms.count gapMark ≤ vs.length := by simpa using hgaps
        rw [fillMarks_gap, hv.closes_append hdepth]
        exact ih hdepth hcount hvs h
    · rw [List.count_cons_of_ne hm] at hgaps
      rw [fillMarks_of_ne hm, lexemesOf_cons, closes_consRole hdepth]
      split at h
      · next hzero =>
        have hms : ms = [] := by rw [← marks_lexemesOf ms, h, List.flatMap_nil]
        rw [if_pos hzero, hms]
        rfl
      · next hopen =>
        rw [if_neg hopen]
        exact ih (Nat.pos_of_ne_zero hopen) hgaps hlevel h

/-- A group of values: it has no placeholder, and no statement ends in it. -/
structure IsRow (ls : List Lexeme) : Prop where
  group : IsGroup ls
  filled : ∀ l ∈ ls, l.isPlaceholder = false
  goes_on : .symbol ';' ∉ ls

section Filling

variable {chars : List Char} {values : List (List Char)}
  (hgaps : (readingFrom mode .code chars).count gapMark ≤ values.length)
  (hintact : ∀ v ∈ values, IsIntact mode v)
include hgaps hintact

private theorem lexemes_fillFrom :
    lexemes mode (fillFrom mode .code chars values) =
      lexemesOf (fillMarks (readingFrom mode .code chars)
        (values.map (readingFrom mode .code))) := by
  rw [lexemes_eq_lexemesOf, (readingFrom_fillFrom hgaps hintact).1]

private theorem isGroup_fillFrom (hgroup : IsGroup (lexemes mode chars)) :
    IsGroup (lexemes mode (fillFrom mode .code chars values)) := by
  obtain ⟨rest, hrest, hcloses⟩ := isGroup_iff.1 hgroup
  obtain ⟨hwords, hmarks⟩ := lexemes_iff.1 hrest.symm
  have hinner : lexemesOf (rest.flatMap Lexeme.marks) = rest := by
    cases hwords with
    | symbol _ h => exact h.lexemesOf_marks
  have hlevel : ∀ v ∈ values.map (readingFrom mode .code), IsLevel v := by
    intro v hv
    obtain ⟨text, htext, rfl⟩ := List.mem_map.1 hv
    exact (hintact text htext).isLevel
  have hreading : readingFrom mode .code chars = (.code, '(') :: rest.flatMap Lexeme.marks :=
    hmarks.symm
  have hcount : (rest.flatMap Lexeme.marks).count gapMark ≤
      (values.map (readingFrom mode .code)).length := by
    rwa [hreading, List.count_cons_of_ne (by decide), ← List.length_map] at hgaps
  have hfilled := lexemes_fillFrom hgaps hintact
  rw [hreading, fillMarks_of_ne (by decide)] at hfilled
  have hopen := hfilled.trans (lexemesOf_symbol (by decide) [] _)
  rw [hrest] at hcloses
  refine isGroup_iff.2 ⟨_, hopen, ?_⟩
  rw [hopen]
  apply closes_fillMarks Nat.one_pos hcount hlevel
  rw [hinner]
  exact hcloses

private theorem isRow_fillFrom (hgroup : IsGroup (lexemes mode chars))
    (hgoes_on : .symbol ';' ∉ lexemes mode chars) :
    IsRow (lexemes mode (fillFrom mode .code chars values)) := by
  have hsolid : ∀ v ∈ values.map (readingFrom mode .code), IsSolid v := by
    intro v hv
    obtain ⟨text, htext, rfl⟩ := List.mem_map.1 hv
    exact (hintact text htext).isSolid
  have hfilled := lexemes_fillFrom hgaps hintact
  refine ⟨isGroup_fillFrom hgaps hintact hgroup, ?_, ?_⟩
  · have hcount := countP_isPlaceholder_lexemesOf
      (fillMarks (readingFrom mode .code chars) (values.map (readingFrom mode .code)))
    rw [count_gapMark_fillMarks hsolid, ← hfilled, List.countP_eq_zero] at hcount
    simpa using hcount
  · intro hend
    rw [hfilled, symbol_mem_lexemesOf (by decide)] at hend
    obtain hend | ⟨v, hv, hend⟩ := mem_fillMarks hend
    · rw [lexemes_eq_lexemesOf, symbol_mem_lexemesOf (by decide)] at hgoes_on
      exact hgoes_on hend
    · exact (hsolid v hv).not_end _ hend rfl

end Filling

namespace RowLayout

private theorem startsInsert_append {lead : List Lexeme} (h : LeadsToRow lead)
    (ls ms : List Lexeme) : startsInsert (lead ++ ls) = startsInsert (lead ++ ms) := by
  obtain ⟨l, hl⟩ : ∃ l, lead.find? (fun l => l.word?.isSome) = some l := by
    obtain ⟨before, w, blanks, rfl, -, -⟩ := h
    rw [← Option.isSome_iff_exists, List.find?_isSome]
    exact ⟨.word w, by simp, rfl⟩
  unfold startsInsert
  rw [List.find?_append, List.find?_append, hl]
  rfl

theorem isOneStatement_append_of_not_mem {ls : List Lexeme} (h : .symbol ';' ∉ ls)
    (ms : List Lexeme) : isOneStatement (ls ++ ms) = isOneStatement ms := by
  unfold isOneStatement
  rw [List.dropWhile_append_of_pos]
  intro l hl
  have hne : l ≠ .symbol ';' := fun heq => h (heq ▸ hl)
  simpa using hne

private theorem not_mem_of_isOneStatement {before after : List Lexeme} {l : Lexeme}
    (h : isOneStatement (before ++ l :: after) = true) (hl : isIdle l = false) :
    .symbol ';' ∉ before := by
  intro hmem
  obtain ⟨front, back, rfl, hfront⟩ := List.eq_append_cons_of_mem hmem
  have hidle := isOneStatement_iff.1 h front (back ++ l :: after) (by simp) hfront l (by simp)
  rw [hl] at hidle
  cases hidle

/-- An insert with some rows of values: between a lead and a trail they are groups apart from each
other, with a comma in front of each further one. -/
structure IsInsertOfRows (ls lead first : List Lexeme) (others : List (List Lexeme))
    (trail : List Lexeme) : Prop where
  /-- The row that is found is the first one. -/
  cut : split? ls = some (lead, first, others.flatMap (.symbol ',' :: ·) ++ trail)
  groups : ∀ row ∈ first :: others, IsGroup row
  filled : ∀ l ∈ ls, l.isPlaceholder = false
  insert : startsInsert ls = true
  one : isOneStatement ls = true

private theorem IsSingleRow.goes_on {lead row trail : List Lexeme}
    (h : IsSingleRow lead row trail) : .symbol ';' ∉ lead ++ row := by
  obtain ⟨inner, rfl⟩ := h.group.delimited
  have hone : isOneStatement ((lead ++ .symbol '(' :: inner) ++ .symbol ')' :: trail) = true := by
    rw [isOneStatement_iff]
    simpa using h.last
  simpa using not_mem_of_isOneStatement hone rfl

private theorem IsSingleRow.insertOfRows {lead row trail : List Lexeme}
    (h : IsSingleRow lead row trail) {first : List Lexeme} {others : List (List Lexeme)}
    (hrows : ∀ r ∈ first :: others, IsRow r) :
    IsInsertOfRows (lead ++ first ++ (others.flatMap (.symbol ',' :: ·) ++ trail)) lead first others
      trail := by
  have hfirst := hrows first List.mem_cons_self
  have hothers : ∀ r ∈ others, IsRow r := fun r hr => hrows r (List.mem_cons_of_mem first hr)
  have hlead : .symbol ';' ∉ lead := fun hend => h.goes_on (List.mem_append_left row hend)
  have hfront : .symbol ';' ∉ lead ++ first ++ others.flatMap (.symbol ',' :: ·) := by
    simp only [List.mem_append, List.mem_flatMap, List.mem_cons, not_or, not_exists, not_and]
    refine ⟨⟨hlead, hfirst.goes_on⟩, ?_⟩
    intro r hr
    exact ⟨by simp, (hothers r hr).goes_on⟩
  refine ⟨split?_eq_some_iff.2 ⟨rfl, h.keyword, hfirst.group⟩, fun r hr => (hrows r hr).group,
    ?_, ?_, ?_⟩
  · intro l hl
    simp only [List.mem_append, List.mem_flatMap, List.mem_cons] at hl
    obtain (hl | hl) | ⟨r, hr, rfl | hl⟩ | hl := hl
    · exact h.lead_filled l hl
    · exact hfirst.filled l hl
    · rfl
    · exact (hothers r hr).filled l hl
    · exact h.trail_filled l hl
  · rw [List.append_assoc, startsInsert_append h.keyword _ (row ++ trail), ← List.append_assoc]
    exact startsInsert_iff.2 h.insert
  · rw [← List.append_assoc, isOneStatement_append_of_not_mem hfront,
      ← isOneStatement_append_of_not_mem h.goes_on]
    exact isOneStatement_iff.2 h.last

private theorem IsSingleRow.isRow_fill {lead row trail : List Lexeme}
    (h : IsSingleRow lead row trail)
    (hls : lexemes mode (Lexeme.text (lead ++ row ++ trail)) = lead ++ row ++ trail)
    {values : List (List Char)} (hgaps : row.countP Lexeme.isPlaceholder ≤ values.length)
    (hintact : ∀ v ∈ values, IsIntact mode v) :
    IsRow (lexemes mode ((Pieces.ofLexemes row).fill values)) := by
  obtain ⟨hrow, -, -⟩ := lexemes_around_group h.group hls
  have hcount := countP_isPlaceholder_lexemesOf (readingFrom mode .code (Lexeme.text row))
  rw [← lexemes_eq_lexemesOf, hrow] at hcount
  have hgoes_on : .symbol ';' ∉ row := fun hend => h.goes_on (List.mem_append_right lead hend)
  have hfilled := isRow_fillFrom (hcount ▸ hgaps) hintact (by rw [hrow]; exact h.group)
    (by rw [hrow]; exact hgoes_on)
  rwa [fillFrom, ← lexemes, hrow] at hfilled

/-- The rows of values in a layout are read one by one. -/
theorem IsSingleRow.insertOfRows_fillRows {lead row trail : List Lexeme}
    (h : IsSingleRow lead row trail)
    (hls : lexemes mode (Lexeme.text (lead ++ row ++ trail)) = lead ++ row ++ trail)
    (values : List (List Char)) (others : List (List (List Char)))
    (hgaps : ∀ vs ∈ values :: others, row.countP Lexeme.isPlaceholder ≤ vs.length)
    (hintact : ∀ vs ∈ values :: others, ∀ v ∈ vs, IsIntact mode v) :
    IsInsertOfRows
      (lexemes mode (fillRows ⟨Lexeme.text lead, Pieces.ofLexemes row, Lexeme.text trail⟩
        (values :: others)))
      lead (lexemes mode ((Pieces.ofLexemes row).fill values))
      ((others.map (Pieces.ofLexemes row).fill).map (lexemes mode)) trail := by
  have hrows : ∀ g ∈ (values :: others).map (Pieces.ofLexemes row).fill,
      IsRow (lexemes mode g) := by
    intro g hg
    obtain ⟨vs, hvs, rfl⟩ := List.mem_map.1 hg
    exact h.isRow_fill hls (hgaps vs hvs) (hintact vs hvs)
  have hjoined := lexemes_joined h.group hls fun g hg => (hrows g hg).group
  rw [fillRows, List.map_cons, intercalate_cons, hjoined]
  apply h.insertOfRows
  intro r hr
  rw [← List.map_cons, ← List.map_cons] at hr
  obtain ⟨g, hg, rfl⟩ := List.mem_map.1 hr
  exact hrows g hg

private theorem IsInsertOfRows.ofLexemes?_eq {ls lead first : List Lexeme}
    {others : List (List Lexeme)} {trail : List Lexeme}
    (h : IsInsertOfRows ls lead first others trail)
    (halone : announcesRow (Lexeme.text trail) = false) :
    ofLexemes? ls =
      if others = [] then some ⟨Lexeme.text lead, ⟨Lexeme.text first, []⟩, Lexeme.text trail⟩
      else none := by
  cases others with
  | nil =>
    have hls := split?_eq_some h.cut
    have hfilled (part : List Lexeme) (hpart : ∀ l ∈ part, l ∈ ls) :
        part.any Lexeme.isPlaceholder = false := by
      rw [List.any_eq_false]
      intro l hl
      simp [h.filled l (hpart l hl)]
    have hfirst := hfilled first fun l hl => by simp [← hls, hl]
    rw [if_pos rfl, ofLexemes?_eq_some_iff]
    refine ⟨⟨h.insert, h.one⟩, lead, first, trail, h.cut, ?_, ?_, halone, ?_⟩
    · exact hfilled lead fun l hl => by simp [← hls, hl]
    · exact hfilled trail fun l hl => by simp [← hls, hl]
    · rw [Pieces.ofLexemes_of_no_placeholder hfirst]
  | cons row rows =>
    rw [if_neg (List.cons_ne_nil row rows), Option.eq_none_iff_forall_ne_some]
    intro layout hlayout
    obtain ⟨-, lead', first', trail', hcut, -, -, halone', -⟩ := ofLexemes?_eq_some_iff.1 hlayout
    -- The comma in front of the second row announces one.
    have heq := h.cut.symm.trans hcut
    cases heq
    cases halone'

end RowLayout

end Sql

namespace Template

open Sql

private theorem insertOfRows_of_layout {sql : String} {mode : EscapeMode} {joinRows : Bool}
    {layout : RowLayout} (hlayout : (compile sql mode joinRows).layout = some layout)
    {row : Row} {rows : List Row}
    (hrows : ∀ r ∈ row :: rows, r.length = (compile sql mode joinRows).paramCount) :
    ∃ lead trail, Lexeme.text lead = layout.lead ∧ Lexeme.text trail = layout.trail ∧
      RowLayout.announcesRow layout.trail = false ∧
      RowLayout.IsInsertOfRows
        (lexemes mode
          (layout.fillRows ((row :: rows).map (compile sql mode joinRows).literals)))
        lead (lexemes mode ((compile sql mode joinRows).group layout row))
        ((rows.map ((compile sql mode joinRows).group layout)).map (lexemes mode)) trail := by
  have hls := ofLexemes?_of_layout hlayout
  obtain ⟨lead, line, trail, hsql, hsingle, rfl⟩ :=
    RowLayout.ofLexemes?_eq_some_iff_isSingleRow.1 hls
  have hlexed : lexemes mode (Lexeme.text (lead ++ line ++ trail)) = lead ++ line ++ trail := by
    rw [← hsql, text_lexemes]
  have hcount : line.countP Lexeme.isPlaceholder ≤ (compile sql mode joinRows).paramCount := by
    rw [paramCount, compile, Pieces.gaps_ofLexemes, hsql, List.countP_append, List.countP_append]
    omega
  refine ⟨lead, trail, rfl, rfl, hsingle.alone, ?_⟩
  have hinsert := hsingle.insertOfRows_fillRows hlexed ((compile sql mode joinRows).literals row)
    (rows.map (compile sql mode joinRows).literals) ?_ ?_
  · rw [List.map_map (f := (compile sql mode joinRows).literals)] at hinsert
    exact hinsert
  · intro vs hvs
    rw [← List.map_cons] at hvs
    obtain ⟨r, hr, rfl⟩ := List.mem_map.1 hvs
    rw [literals, List.length_map, hrows r hr]
    exact hcount
  · intro vs hvs v hv
    rw [← List.map_cons] at hvs
    obtain ⟨r, -, rfl⟩ := List.mem_map.1 hvs
    exact isIntact_of_mem_literals (compile sql mode joinRows) hv

/-- However many rows an insert carries, and whatever their values are, its text is read as the
lead, one group for each row and the trail.  With one row it has the layout of its template, with
that row filled in, and with more rows it has none.  The depth has no bound here, so the template
stands for one with fewer than `2 ^ 32` open parentheses; those of values are quoted and do not
count. -/
theorem joined_rows_apart (sql : String) (mode : EscapeMode) (joinRows : Bool)
    {layout : RowLayout} (hlayout : (compile sql mode joinRows).layout = some layout)
    (row : Row) (rows : List Row)
    (hrows : ∀ r ∈ row :: rows, r.length = (compile sql mode joinRows).paramCount) :
    ∃ text lead first others trail,
      (compile sql mode joinRows).renderJoined? (row :: rows) = some text ∧
      RowLayout.IsInsertOfRows (lexemes mode text.toList) lead first others trail ∧
      Lexeme.text lead = layout.lead ∧
      (first :: others).map Lexeme.text =
        (row :: rows).map ((compile sql mode joinRows).group layout) ∧
      Lexeme.text trail = layout.trail ∧
      (compile text mode true).paramCount = 0 ∧
      (compile text mode true).layout =
        if rows = [] then
          some ⟨layout.lead, ⟨(compile sql mode joinRows).group layout row, []⟩, layout.trail⟩
        else none := by
  obtain ⟨lead, trail, hlead, htrail, halone, hinsert⟩ := insertOfRows_of_layout hlayout hrows
  have htext : (compile sql mode joinRows).renderJoined? (row :: rows) =
      some (String.ofList
        (layout.fillRows ((row :: rows).map (compile sql mode joinRows).literals))) := by
    rw [renderJoined?, hlayout]
    rfl
  rw [← String.toList_ofList (l := layout.fillRows _)] at hinsert
  refine ⟨_, lead, _, _, trail, htext, hinsert, hlead, ?_, htrail, ?_, ?_⟩
  · simp [List.map_map, Function.comp_def]
  · rw [paramCount, compile, Pieces.gaps_ofLexemes, List.countP_eq_zero]
    intro l hl
    simp [hinsert.filled l hl]
  · have hlayout' := hinsert.ofLexemes?_eq (htrail ▸ halone)
    simp only [List.map_eq_nil_iff, text_lexemes, hlead, htrail] at hlayout'
    exact hlayout'

/-- Two rows of texts that would close their quotes, their groups and the statement. -/
theorem joined_rows_apart_quoted :
    ∃ text lead first others trail,
      (compile "insert into t values (?, (?)) -- end" .plain true).renderJoined?
          [[.text "'), (values", .null], [.text "\\'", .text ");"]] = some text ∧
      RowLayout.IsInsertOfRows (lexemes .plain text.toList) lead first others trail ∧
      (first :: others).map Lexeme.text =
        ["('''), (values', (NULL))".toList, "('\\''', (');'))".toList] ∧
      (compile text .plain true).layout = none := by
  have hlayout : (compile "insert into t values (?, (?)) -- end" .plain true).layout =
      some ⟨"insert into t values ".toList, ⟨"(".toList, [", (".toList, "))".toList]⟩,
        " -- end".toList⟩ := by decide
  obtain ⟨text, lead, first, others, trail, htext, hinsert, -, hgroups, -, -, hnone⟩ :=
    joined_rows_apart _ _ _ hlayout [.text "'), (values", .null] [[.text "\\'", .text ");"]]
      (by decide)
  exact ⟨text, lead, first, others, trail, htext, hinsert, hgroups.trans (by decide), hnone⟩

end Template
end SqlStatement
