import SqlStatement.Proofs.Sql.RowsApart
/-!
# Plain inserts

In a text without quotes, comments and parentheses every character is code, so an insert that is
made of such texts is read part by part.  It has the layout of its one row whatever the table is
called, except for `value`: that name is taken for the keyword of the row
(`Template.layout_of_plain_insert`).
-/
namespace SqlStatement

namespace Sql

variable {mode : EscapeMode}

/-- Nothing in the text opens a quoted text, a comment or a group, or ends a statement. -/
structure IsPlainText (chars : List Char) : Prop where
  no_quote : ∀ q : Quote, q.char ∉ chars
  no_open : '(' ∉ chars
  no_close : ')' ∉ chars
  no_end : ';' ∉ chars
  no_hash : '#' ∉ chars
  no_dashes : ¬['-', '-'] <:+: chars
  no_opener : ¬['/', '*'] <:+: chars

theorem IsPlainText.tail {c : Char} {chars : List Char} (h : IsPlainText (c :: chars)) :
    IsPlainText chars where
  no_quote q hq := h.no_quote q (List.mem_cons_of_mem c hq)
  no_open hc := h.no_open (List.mem_cons_of_mem c hc)
  no_close hc := h.no_close (List.mem_cons_of_mem c hc)
  no_end hc := h.no_end (List.mem_cons_of_mem c hc)
  no_hash hc := h.no_hash (List.mem_cons_of_mem c hc)
  no_dashes hd := h.no_dashes (hd.trans (List.suffix_cons c chars).isInfix)
  no_opener ho := h.no_opener (ho.trans (List.suffix_cons c chars).isInfix)

private theorem isPlainText_of_words {chars : List Char}
    (h : (chars.all fun c => Text.isWordChar c || [' ', ',', '?'].contains c) = true) :
    IsPlainText chars := by
  have hnot {c : Char} (hword : Text.isWordChar c = false)
      (hother : [' ', ',', '?'].contains c = false) : c ∉ chars := by
    intro hc
    have hof := List.all_eq_true.1 h c hc
    rw [hword, hother] at hof
    cases hof
  have hpair {c d : Char} (hc : c ∉ chars) : ¬[c, d] <:+: chars :=
    fun hi => hc (hi.subset List.mem_cons_self)
  refine ⟨?_, hnot (by decide) (by decide), hnot (by decide) (by decide),
    hnot (by decide) (by decide), hnot (by decide) (by decide),
    hpair (hnot (by decide) (by decide)), hpair (hnot (by decide) (by decide))⟩
  intro q
  cases q <;> exact hnot (by decide) (by decide)

private theorem pair_infix_of_head {c d : Char} {chars : List Char} (h : chars.head? = some d) :
    [c, d] <:+: c :: chars := by
  obtain ⟨rest, rfl⟩ := List.head?_eq_some_iff.1 h
  exact ⟨[], rest, rfl⟩

private theorem head_append_fence {c d : Char} {chars rest : List Char}
    (h : (chars ++ c :: rest).head? = some d) : chars.head? = some d ∨ c = d := by
  cases chars with
  | nil => exact .inr (Option.some.inj h)
  | cons x xs => exact .inl h

private theorem IsPlainText.readingFrom_append {chars : List Char} (h : IsPlainText chars)
    {c : Char} (hc : IsFence c) (hstar : c ≠ '*') (rest : List Char) :
    readingFrom mode .code (chars ++ c :: rest) =
      chars.map (Prod.mk .code) ++ (.code, c) :: readingFrom mode .code rest := by
  induction chars with
  | nil =>
    rw [List.nil_append, readingFrom, hc.stays mode rest]
    rfl
  | cons x xs ih =>
    have hquote : Quote.ofChar? x = none := by
      rw [Option.eq_none_iff_forall_ne_some]
      intro q hq
      exact h.no_quote q (Quote.ofChar?_eq_some.1 hq ▸ List.mem_cons_self)
    have hline : opensLineComment x (xs ++ c :: rest) = false := by
      have hhash : x ≠ '#' := fun hx => h.no_hash (hx ▸ List.mem_cons_self)
      by_cases hdash : x = '-'
      · subst hdash
        apply opensLineComment_dash_of_head_ne
        intro hhead
        rcases head_append_fence hhead with hhead | rfl
        · exact h.no_dashes (pair_infix_of_head hhead)
        · exact hc.ne_dash rfl
      · simp only [opensLineComment, if_neg hhash, if_neg hdash]
    have hblock : opensBlockComment x (xs ++ c :: rest) = false := by
      unfold opensBlockComment
      rw [Bool.and_eq_false_iff]
      by_cases hslash : x = '/'
      · subst hslash
        right
        rw [decide_eq_false_iff_not]
        intro hhead
        rcases head_append_fence hhead with hhead | hstar'
        · exact h.no_opener (pair_infix_of_head hhead)
        · exact hstar hstar'
      · left
        simpa using hslash
    have hnext : Region.next mode .code x (xs ++ c :: rest) = .code := by
      rw [Region.next_code, hquote, hline, hblock]
      rfl
    rw [List.cons_append, readingFrom, hnext, ih h.tail]
    rfl

open Lexeme

def codeLexemes (chars : List Char) : List Lexeme :=
  lexemesOf (chars.map (Prod.mk .code))

def codeGroup (chars : List Char) : List Lexeme :=
  .symbol '(' :: codeLexemes chars ++ [.symbol ')']

private theorem text_codeLexemes (chars : List Char) : Lexeme.text (codeLexemes chars) = chars := by
  rw [← map_snd_marks, codeLexemes, marks_lexemesOf, List.map_map]
  exact List.map_id chars

private theorem symbol_mem_codeLexemes {c : Char} (hc : Text.isWordChar c = false)
    (chars : List Char) : .symbol c ∈ codeLexemes chars ↔ c ∈ chars := by
  rw [codeLexemes, symbol_mem_lexemesOf hc]
  simp

private theorem symbol_mem_codeGroup {c : Char} (hc : Text.isWordChar c = false) (hopen : c ≠ '(')
    (hclose : c ≠ ')') (chars : List Char) : .symbol c ∈ codeGroup chars ↔ c ∈ chars := by
  simp [codeGroup, symbol_mem_codeLexemes hc, hopen, hclose]

private theorem codeGroup_eq (chars : List Char) :
    codeGroup chars = codeLexemes ('(' :: chars ++ [')']) := by
  have hclose : codeLexemes (chars ++ [')']) = codeLexemes chars ++ [.symbol ')'] := by
    unfold codeLexemes
    rw [List.map_append]
    exact lexemesOf_symbol (by decide) _ []
  change _ = consCode '(' (codeLexemes (chars ++ [')']))
  rw [consCode_symbol (by decide), hclose]
  rfl

private theorem isGroup_codeGroup {chars : List Char} (hopen : '(' ∉ chars) (hclose : ')' ∉ chars) :
    IsGroup (codeGroup chars) := by
  have hlevel : IsLevel (chars.map (Prod.mk .code)) := by
    intro m hm
    obtain ⟨c, hc, rfl⟩ := List.mem_map.1 hm
    refine ⟨?_, ?_⟩
    · rintro heq
      exact hopen ((Prod.mk.inj heq).2 ▸ hc)
    · rintro heq
      exact hclose ((Prod.mk.inj heq).2 ▸ hc)
  have hend : Closes 1 (lexemesOf (chars.map (Prod.mk .code) ++ [(.code, ')')])) :=
    (hlevel.closes_append Nat.one_pos _).2 rfl
  rw [lexemesOf_symbol (by decide)] at hend
  exact isGroup_iff.2 ⟨_, rfl, hend⟩

private theorem toList_ofLexemes_code (chars : List Char) :
    (Pieces.ofLexemes (codeLexemes chars)).toList = chars.splitOn '?' := by
  induction chars with
  | nil => rfl
  | cons c chars ih =>
    have hcons := Pieces.ofLexemes_consRole (.code, c) (codeLexemes chars)
    change Pieces.ofLexemes (codeLexemes (c :: chars)) = _ at hcons
    have hsplit : (c :: chars).splitOn '?' = if (c == '?') = true then [] :: chars.splitOn '?'
        else (chars.splitOn '?').modifyHead (c :: ·) :=
      List.splitOnP_cons_eq_if_modifyHead c chars
    rw [hsplit, hcons, ← ih]
    by_cases hc : c = '?'
    · subst hc
      rfl
    · have hmark : ((.code, c) : Mark) ≠ gapMark := fun h => hc (Prod.mk.inj h).2
      rw [if_neg hmark, if_neg (by simpa using hc)]
      rfl

namespace RowLayout

private theorem IsFirstKeyword.behind_group {group before : List Lexeme} {l : Lexeme}
    (hgroup : IsGroup group) (h : IsFirstKeyword 0 before l) :
    IsFirstKeyword 0 (group ++ before) l where
  keyword := h.keyword
  outside := by
    rw [depthFrom, List.foldl_append]
    change depthFrom (depthFrom 0 group) before = 0
    rw [hgroup.closed]
    exact h.outside
  first earlier k later heq hdepth := by
    rcases List.append_eq_append_iff.1 heq with ⟨rest, rfl, hbefore⟩ | ⟨rest, hgroupEq, hrest⟩
    · refine h.first rest k later hbefore ?_
      rw [depthFrom, List.foldl_append] at hdepth
      change depthFrom (depthFrom 0 group) rest = 0 at hdepth
      rwa [hgroup.closed] at hdepth
    · cases rest with
      | nil => exact h.first [] k later hrest.symm rfl
      | cons m ms =>
        obtain ⟨rfl, -⟩ := List.cons.inj hrest
        cases earlier with
        | nil =>
          obtain ⟨inner, hinner⟩ := hgroup.delimited
          rw [hinner] at hgroupEq
          obtain ⟨rfl, -⟩ := List.cons.inj hgroupEq
          rfl
        | cons d ds =>
          have hpos := hgroup.inside (d :: ds) (k :: ms) hgroupEq (List.cons_ne_nil d ds)
            (List.cons_ne_nil k ms)
          omega

private theorem IsFirstKeyword.behind_level {ls before : List Lexeme} {l : Lexeme}
    (h : IsFirstKeyword 0 before l) (hlevel : ∀ k ∈ ls, k.depthAfter 0 = 0)
    (hother : ∀ k ∈ ls, k.isKeyword rowKeywords = false) : IsFirstKeyword 0 (ls ++ before) l := by
  induction ls with
  | nil => exact h
  | cons k ls ih =>
    obtain ⟨hdepth, hlevel⟩ := List.forall_mem_cons.1 hlevel
    obtain ⟨hkeyword, hother⟩ := List.forall_mem_cons.1 hother
    refine isFirstKeyword_cons.2 ⟨by simp [hkeyword], ?_⟩
    rw [hdepth]
    exact ih hlevel hother

end RowLayout

private theorem IsPlainText.lexemes_append {chars : List Char} (h : IsPlainText chars) {c : Char}
    (hc : IsFence c) (hstar : c ≠ '*') (rest : List Char) :
    lexemes mode (chars ++ c :: rest) = codeLexemes chars ++ .symbol c :: lexemes mode rest := by
  rw [lexemes_eq_lexemesOf, h.readingFrom_append hc hstar, lexemesOf_symbol hc.ends_word,
    ← lexemes_eq_lexemesOf]
  rfl

/-- A table name that is one word, and not the keyword of rows. -/
structure IsTableName (name : List Char) : Prop where
  ne_nil : name ≠ []
  word : ∀ c ∈ name, Text.isWordChar c = true
  not_values : Text.eqIgnoringCase name "VALUES".toList = false

def insertInto : List Lexeme :=
  [.word "INSERT".toList, .symbol ' ', .word "INTO".toList, .symbol ' ']

def insertLead (table : List Char) : List Lexeme :=
  insertInto ++ [.word table, .symbol ' ']

def rowLead : List Lexeme :=
  [.symbol ' ', .word "VALUES".toList, .symbol ' ']

private theorem codeLexemes_insertLead {table : List Char} (h : IsTableName table) :
    codeLexemes ("INSERT INTO ".toList ++ table ++ [' ']) = insertLead table := by
  have hwords : WholeWords (insertLead table) :=
    .word (by decide) (List.all_eq_true.1 (by decide)) nofun <| .symbol (by decide) <|
      .word (by decide) (List.all_eq_true.1 (by decide)) nofun <| .symbol (by decide) <|
        .word h.ne_nil h.word nofun <| .symbol (by decide) .nil
  have hmarks : (insertLead table).flatMap marks =
      ("INSERT INTO ".toList ++ table ++ [' ']).map (Prod.mk .code) := by
    simp [insertLead, insertInto, marks]
  rw [codeLexemes, ← hmarks, hwords.lexemesOf_marks]

private theorem isPlainText_insertLead {table : List Char} (h : IsTableName table) :
    IsPlainText ("INSERT INTO ".toList ++ table ++ [' ']) := by
  have htable : (table.all fun c => Text.isWordChar c || [' ', ',', '?'].contains c) = true := by
    rw [List.all_eq_true]
    intro c hc
    rw [h.word c hc, Bool.true_or]
  apply isPlainText_of_words
  rw [List.all_append, List.all_append, htable]
  decide

def insertChars (table columns row : List Char) : List Char :=
  "INSERT INTO ".toList ++ table ++ [' '] ++
    '(' :: (columns ++ ')' :: (" VALUES ".toList ++ '(' :: (row ++ [')'])))

private theorem lexemes_insertChars {table columns row : List Char} (htable : IsTableName table)
    (hcolumns : IsPlainText columns) (hrow : IsPlainText row) :
    lexemes mode (insertChars table columns row) =
      insertLead table ++ codeGroup columns ++ (rowLead ++ codeGroup row) := by
  have hvalues : IsPlainText " VALUES ".toList := isPlainText_of_words (by decide)
  have hrowLead : codeLexemes " VALUES ".toList = rowLead := by decide
  unfold insertChars
  rw [(isPlainText_insertLead htable).lexemes_append isFence_open (by decide),
    hcolumns.lexemes_append isFence_close (by decide),
    hvalues.lexemes_append isFence_open (by decide),
    hrow.lexemes_append isFence_close (by decide), codeLexemes_insertLead htable, hrowLead]
  simp [codeGroup, lexemes, lexemesFrom]

private theorem any_isPlaceholder_iff {ls : List Lexeme} :
    ls.any isPlaceholder = true ↔ .symbol '?' ∈ ls := by
  rw [List.any_eq_true]
  constructor
  · rintro ⟨l, hl, hgap⟩
    cases l with
    | symbol c =>
      obtain rfl : c = '?' := by simpa [isPlaceholder] using hgap
      exact hl
    | word w | literal c | comment c => cases hgap
  · exact fun hmem => ⟨_, hmem, rfl⟩

namespace RowLayout

private theorem isKeyword_word (w : List Char) : Lexeme.isKeyword rowKeywords (.word w) =
    (Text.eqIgnoringCase w "VALUES".toList || Text.eqIgnoringCase w "VALUE".toList) := by
  simp only [Lexeme.isKeyword, rowKeywords, List.any_cons, List.any_nil, Bool.or_false]

private theorem ofLexemes?_of_split {ls lead row trail : List Lexeme}
    (hinsert : startsInsert ls = true) (hone : isOneStatement ls = true)
    (hsplit : split? ls = some (lead, row, trail)) :
    ofLexemes? ls =
      if .symbol '?' ∈ lead ∨ .symbol '?' ∈ trail ∨ announcesRow (Lexeme.text trail) then none
      else some ⟨Lexeme.text lead, Pieces.ofLexemes row, Lexeme.text trail⟩ := by
  rw [ofLexemes?, if_pos ⟨hinsert, hone⟩, hsplit]
  simp only [Option.bind_some, any_isPlaceholder_iff]

section Plain

variable {table columns row : List Char} (htable : IsTableName table)
  (hcolumns : IsPlainText columns) (hrow : IsPlainText row)
include htable hcolumns hrow

private theorem startsInsert_insertChars :
    startsInsert (lexemes mode (insertChars table columns row)) = true := by
  rw [lexemes_insertChars htable hcolumns hrow]
  exact startsInsert_iff.2 ⟨[], _, _, rfl, nofun, by decide⟩

private theorem isOneStatement_insertChars :
    isOneStatement (lexemes mode (insertChars table columns row)) = true := by
  have hend :
      .symbol ';' ∉ insertLead table ++ codeGroup columns ++ (rowLead ++ codeGroup row) := by
    simp [insertLead, insertInto, rowLead,
      symbol_mem_codeGroup (c := ';') (by decide) (by decide) (by decide), hcolumns.no_end,
      hrow.no_end]
  rw [lexemes_insertChars htable hcolumns hrow, ← List.append_nil (_ ++ _),
    isOneStatement_append_of_not_mem hend]
  rfl

private theorem split?_of_not_value (hvalue : Text.eqIgnoringCase table "VALUE".toList = false) :
    split? (lexemes mode (insertChars table columns row)) =
      some (insertLead table ++ codeGroup columns ++ rowLead, codeGroup row, []) := by
  have hname : Lexeme.isKeyword rowKeywords (.word table) = false := by
    rw [isKeyword_word, htable.not_values, hvalue]
    rfl
  have hblank : IsFirstKeyword 0 [.symbol ' '] (.word "VALUES".toList) :=
    isFirstKeyword_cons.2 ⟨by decide, isFirstKeyword_nil.2 (by decide)⟩
  have hcolumnsGroup := isGroup_codeGroup hcolumns.no_open hcolumns.no_close
  have hfirst : IsFirstKeyword 0 (insertLead table ++ (codeGroup columns ++ [.symbol ' ']))
      (.word "VALUES".toList) := by
    refine (hblank.behind_group hcolumnsGroup).behind_level ?_ ?_
    · exact List.forall_mem_append.2 ⟨by decide, List.forall_mem_cons.2 ⟨rfl, by decide⟩⟩
    · exact List.forall_mem_append.2 ⟨by decide, List.forall_mem_cons.2 ⟨hname, by decide⟩⟩
  rw [lexemes_insertChars htable hcolumns hrow, split?_eq_some_iff]
  refine ⟨by simp, ⟨insertLead table ++ (codeGroup columns ++ [.symbol ' ']), "VALUES".toList,
    [.symbol ' '], by simp [rowLead], hfirst, by decide⟩,
    isGroup_codeGroup hrow.no_open hrow.no_close⟩

private theorem split?_of_value (hvalue : Text.eqIgnoringCase table "VALUE".toList = true) :
    split? (lexemes mode (insertChars table columns row)) =
      some (insertLead table, codeGroup columns, rowLead ++ codeGroup row) := by
  have hname : Lexeme.isKeyword rowKeywords (.word table) = true := by
    rw [isKeyword_word, hvalue, Bool.or_true]
  have hfirst : IsFirstKeyword 0 (insertInto ++ []) (.word table) :=
    (isFirstKeyword_nil.2 ⟨rfl, hname⟩).behind_level (by decide) (by decide)
  rw [lexemes_insertChars htable hcolumns hrow, split?_eq_some_iff]
  exact ⟨by simp, ⟨_, table, [.symbol ' '], rfl, hfirst, by decide⟩,
    isGroup_codeGroup hcolumns.no_open hcolumns.no_close⟩

private theorem ofLexemes?_of_not_value (hfilled : '?' ∉ columns)
    (hvalue : Text.eqIgnoringCase table "VALUE".toList = false) :
    ofLexemes? (lexemes mode (insertChars table columns row)) =
      some ⟨Lexeme.text (insertLead table ++ codeGroup columns ++ rowLead),
        Pieces.ofLexemes (codeGroup row), []⟩ := by
  have hlead :
      .symbol '?' ∉ insertLead table ++ codeGroup columns ++ rowLead := by
    simp [insertLead, insertInto, rowLead,
      symbol_mem_codeGroup (c := '?') (by decide) (by decide) (by decide), hfilled]
  rw [ofLexemes?_of_split (startsInsert_insertChars htable hcolumns hrow)
    (isOneStatement_insertChars htable hcolumns hrow)
    (split?_of_not_value htable hcolumns hrow hvalue), if_neg]
  · rfl
  · rintro (hgap | hgap | hgap)
    · exact hlead hgap
    · cases hgap
    · cases hgap

private theorem ofLexemes?_of_value (hfilled : '?' ∉ columns)
    (hvalue : Text.eqIgnoringCase table "VALUE".toList = true) :
    ofLexemes? (lexemes mode (insertChars table columns row)) =
      if '?' ∈ row then none
      else some ⟨Lexeme.text (insertLead table), ⟨Lexeme.text (codeGroup columns), []⟩,
        Lexeme.text (rowLead ++ codeGroup row)⟩ := by
  have hlead : .symbol '?' ∉ insertLead table := by simp [insertLead, insertInto]
  have htrail : .symbol '?' ∈ rowLead ++ codeGroup row ↔ '?' ∈ row := by
    simp [rowLead, symbol_mem_codeGroup (c := '?') (by decide) (by decide) (by decide)]
  have halone : announcesRow (Lexeme.text (rowLead ++ codeGroup row)) = false := rfl
  have hgroup : (codeGroup columns).any Lexeme.isPlaceholder = false := by
    rw [Bool.eq_false_iff, ne_eq, any_isPlaceholder_iff,
      symbol_mem_codeGroup (by decide) (by decide) (by decide)]
    exact hfilled
  rw [ofLexemes?_of_split (startsInsert_insertChars htable hcolumns hrow)
    (isOneStatement_insertChars htable hcolumns hrow)
    (split?_of_value htable hcolumns hrow hvalue), Pieces.ofLexemes_of_no_placeholder hgroup]
  simp only [hlead, htrail, halone, Bool.false_eq_true, or_false, false_or]

end Plain

end RowLayout

private theorem text_codeGroup (chars : List Char) :
    Lexeme.text (codeGroup chars) = '(' :: chars ++ [')'] := by
  rw [codeGroup_eq, text_codeLexemes]

end Sql

namespace Template

open Sql

def plainInsert (table columns row : String) : String :=
  "INSERT INTO " ++ table ++ " (" ++ columns ++ ") VALUES (" ++ row ++ ")"

private theorem toList_plainInsert (table columns row : String) :
    (plainInsert table columns row).toList =
      insertChars table.toList columns.toList row.toList := by
  have hcolumns : " (".toList = [' ', '('] := rfl
  have hrow : ") VALUES (".toList = ')' :: " VALUES ".toList ++ ['('] := rfl
  have hend : ")".toList = [')'] := rfl
  unfold plainInsert insertChars
  simp only [String.toList_append, hcolumns, hrow, hend, List.append_assoc, List.cons_append,
    List.nil_append]

private theorem layout_compile (sql : String) (mode : EscapeMode) :
    (compile sql mode true).layout = RowLayout.ofLexemes? (lexemes mode sql.toList) := rfl

/-- A plain insert whose columns have no placeholder has the layout of its one row, cut at the
placeholders of the row.  A table of the name `value` is the exception: the columns are taken for
the row then, and there is no layout if the row has placeholders. -/
theorem layout_of_plain_insert (mode : EscapeMode) {table columns row : String}
    (htable : IsTableName table.toList) (hcolumns : IsPlainText columns.toList)
    (hrow : IsPlainText row.toList) (hfilled : '?' ∉ columns.toList) :
    (Text.eqIgnoringCase table.toList "VALUE".toList = false →
      ∃ layout, (compile (plainInsert table columns row) mode true).layout = some layout ∧
        layout.lead = ("INSERT INTO " ++ table ++ " (" ++ columns ++ ") VALUES ").toList ∧
        layout.row.toList = ("(" ++ row ++ ")").toList.splitOn '?' ∧ layout.trail = []) ∧
      (Text.eqIgnoringCase table.toList "VALUE".toList = true →
        (compile (plainInsert table columns row) mode true).layout =
          if '?' ∈ row.toList then none
          else some ⟨("INSERT INTO " ++ table ++ " ").toList,
            ⟨("(" ++ columns ++ ")").toList, []⟩, (" VALUES (" ++ row ++ ")").toList⟩) := by
  rw [layout_compile, toList_plainInsert]
  refine ⟨fun hvalue => ?_, fun hvalue => ?_⟩
  · refine ⟨_, RowLayout.ofLexemes?_of_not_value htable hcolumns hrow hfilled hvalue, ?_, ?_, rfl⟩
    · simp [insertLead, insertInto, rowLead, text_codeGroup, Lexeme.chars]
    · change (Pieces.ofLexemes (codeGroup row.toList)).toList = _
      rw [codeGroup_eq, toList_ofLexemes_code]
      simp
  · rw [RowLayout.ofLexemes?_of_value htable hcolumns hrow hfilled hvalue]
    simp [insertLead, insertInto, rowLead, text_codeGroup, Lexeme.chars]

theorem layout_of_plain_insert_values_1 :
    ∃ layout,
      (compile (plainInsert "values_1" "id, VALUE" "7, ?") .plain true).layout = some layout ∧
      layout.lead = ("INSERT INTO " ++ "values_1" ++ " (" ++ "id, VALUE" ++ ") VALUES ").toList ∧
      layout.row.toList = ["(7, ".toList, [')']] ∧ layout.trail = [] := by
  have htable : IsTableName "values_1".toList :=
    ⟨by decide, List.all_eq_true.1 (by decide), by decide⟩
  have hcolumns : IsPlainText "id, VALUE".toList := isPlainText_of_words (by decide)
  have hrow : IsPlainText "7, ?".toList := isPlainText_of_words (by decide)
  obtain ⟨layout, hlayout, hlead, hpieces, htrail⟩ :=
    (layout_of_plain_insert .plain htable hcolumns hrow (by decide)).1 (by decide)
  refine ⟨layout, hlayout, hlead, hpieces.trans ?_, htrail⟩
  simp only [String.toList_append]
  rfl

/-- A plain insert into a table of the name `value` has no layout, or one that repeats the columns
for each row. -/
theorem value_table_has_no_layout :
    plainInsert "value" "a" "?" = "INSERT INTO value (a) VALUES (?)" ∧
      IsTableName "value".toList ∧ IsPlainText "a".toList ∧ IsPlainText "?".toList ∧
      '?' ∉ "a".toList ∧
      (compile "INSERT INTO value (a) VALUES (?)" .backslash true).layout = none ∧
      (compile "INSERT INTO value (a) VALUES (1)" .backslash true).renderJoined? [[], []] =
        some "INSERT INTO value (a),(a) VALUES (1)" := by
  have htext : plainInsert "value" "a" "?" = "INSERT INTO value (a) VALUES (?)" := by
    rw [← String.toList_inj, toList_plainInsert]
    rfl
  have htable : IsTableName "value".toList := ⟨by decide, List.all_eq_true.1 (by decide), by decide⟩
  exact ⟨htext, htable, isPlainText_of_words (by decide), isPlainText_of_words (by decide),
    by decide, by decide, by decide⟩

end Template
end SqlStatement
