import SqlStatement.Proofs.Sql.JoinedRows
/-!
# Inserts of several rows

A layout is meant for inserts of one row.  A further row is seen when nothing but blanks stands in
front of its comma; behind a comment it is missed: `Template.layout_of_further_row`.
-/
namespace SqlStatement

namespace Sql

namespace Lexeme

def isGap : Lexeme → Bool
  | .symbol c => Text.isAsciiBlank c
  | .comment _ => true
  | _ => false

private theorem isBlank_of_isGap {l : Lexeme} (hgap : l.isGap = true)
    (hcomment : ∀ c, l ≠ .comment c) : l.isBlank = true := by
  cases l with
  | symbol c => exact hgap
  | comment c => exact absurd rfl (hcomment c)
  | word w | literal c => cases hgap

private theorem isBlank_of_mem_text {ls : List Lexeme} (h : ∀ l ∈ ls, l.isBlank = true) :
    ∀ c ∈ text ls, Text.isBlank c = true := by
  intro c hc
  obtain ⟨l, hl, hcl⟩ := List.mem_flatMap.1 hc
  have hblank := h l hl
  cases l with
  | symbol d =>
    obtain rfl := List.mem_singleton.1 hcl
    exact Text.isBlank_of_isAsciiBlank hblank
  | word w | literal d | comment d => cases hblank

private theorem consRole_eq_symbol_cons {role : Role} {c d : Char} {ls ms : List Lexeme}
    (h : consRole role c ls = .symbol d :: ms) : role = .code ∧ ls = ms := by
  cases role with
  | code =>
    unfold consRole consCode at h
    dsimp only at h
    split at h
    · split at h <;> cases h
    · cases h
      exact ⟨rfl, rfl⟩
  | literal | comment => cases h

private theorem consRole_eq_comment_cons {role : Role} {c d : Char} {ls ms : List Lexeme}
    (h : consRole role c ls = .comment d :: ms) : role = .comment ∧ c = d := by
  cases role with
  | code =>
    unfold consRole consCode at h
    dsimp only at h
    split at h
    · split at h <;> cases h
    · cases h
  | literal => cases h
  | comment =>
    cases h
    exact ⟨rfl, rfl⟩

private theorem exists_first_comment {ls : List Lexeme} (hgap : ∀ l ∈ ls, l.isGap = true)
    (hcomment : ∃ c, .comment c ∈ ls) :
    ∃ blanks c more, ls = blanks ++ .comment c :: more ∧ ∀ l ∈ blanks, l.isBlank = true := by
  induction ls with
  | nil =>
    obtain ⟨c, hc⟩ := hcomment
    cases hc
  | cons l ls ih =>
    by_cases hl : ∃ c, l = .comment c
    · obtain ⟨c, rfl⟩ := hl
      exact ⟨[], c, ls, rfl, List.forall_mem_nil _⟩
    · rw [not_exists] at hl
      obtain ⟨hgapHead, hgapRest⟩ := List.forall_mem_cons.1 hgap
      have hrest : ∃ c, .comment c ∈ ls := by
        obtain ⟨c, hc⟩ := hcomment
        rcases List.mem_cons.1 hc with hhead | hc
        · exact absurd hhead.symm (hl c)
        · exact ⟨c, hc⟩
      obtain ⟨blanks, c, more, rfl, hblanks⟩ := ih hgapRest hrest
      have hblank := isBlank_of_isGap hgapHead hl
      exact ⟨l :: blanks, c, more, rfl, List.forall_mem_cons.2 ⟨hblank, hblanks⟩⟩

end Lexeme

private theorem Region.eq_code_of_role {r : Region} (h : Region.role .code r = .code) :
    r = .code := by
  cases r with
  | code => rfl
  | _ => cases h

private theorem opener_of_role {mode : EscapeMode} {c : Char} {rest : List Char}
    (h : Region.role .code (Region.next mode .code c rest) = .comment) :
    c = '#' ∨ c = '-' ∨ c = '/' := by
  rw [Region.next_code] at h
  split at h
  · cases h
  · split at h
    · next hline =>
      unfold opensLineComment at hline
      split at hline
      · next hc => exact .inl hc
      · split at hline
        · next hc => exact .inr (.inl hc)
        · cases hline
    · split at h
      · next hblock =>
        unfold opensBlockComment at hblock
        simp at hblock
        exact .inr (.inr hblock.1)
      · cases h

private theorem opener_of_blanks {mode : EscapeMode} {chars : List Char} {c : Char}
    {blanks more : List Lexeme} (h : lexemesFrom mode .code chars = blanks ++ .comment c :: more)
    (hblanks : ∀ l ∈ blanks, l.isBlank = true) : c = '#' ∨ c = '-' ∨ c = '/' := by
  induction blanks generalizing chars with
  | nil =>
    cases chars with
    | nil => cases h
    | cons d rest =>
      obtain ⟨hrole, rfl⟩ := Lexeme.consRole_eq_comment_cons h
      exact opener_of_role hrole
  | cons l blanks ih =>
    obtain ⟨hl, hrest⟩ := List.forall_mem_cons.1 hblanks
    cases chars with
    | nil => cases h
    | cons d rest =>
      cases l with
      | symbol b =>
        obtain ⟨hrole, hls⟩ := Lexeme.consRole_eq_symbol_cons h
        rw [Region.eq_code_of_role hrole] at hls
        exact ih hls hrest
      | word w | literal b | comment b => cases hl

def gap (mode : EscapeMode) (chars : List Char) : List Lexeme :=
  (lexemes mode chars).takeWhile Lexeme.isGap

/-- After the blanks and comments at its start the text goes on with a comma. -/
def ListsFurtherRow (mode : EscapeMode) (chars : List Char) : Prop :=
  ((lexemes mode chars).dropWhile Lexeme.isGap).head? = some (.symbol ',')

instance (mode : EscapeMode) (chars : List Char) : Decidable (ListsFurtherRow mode chars) :=
  inferInstanceAs (Decidable (_ = some (Lexeme.symbol ',')))

private theorem isGap_of_mem_gap {mode : EscapeMode} {chars : List Char} :
    ∀ l ∈ gap mode chars, l.isGap = true :=
  List.all_eq_true.1 List.all_takeWhile

private theorem announcesRow_of_no_comment {mode : EscapeMode} {chars : List Char}
    (hrow : ListsFurtherRow mode chars) (hcomment : ∀ c, .comment c ∉ gap mode chars) :
    RowLayout.announcesRow chars = true := by
  obtain ⟨rest, hrest⟩ := List.head?_eq_some_iff.1 hrow
  have hsplit : gap mode chars ++ .symbol ',' :: rest = lexemes mode chars := by
    rw [← hrest]
    exact List.takeWhile_append_dropWhile
  have hblank : ∀ c ∈ Lexeme.text (gap mode chars), Text.isBlank c = true := by
    apply Lexeme.isBlank_of_mem_text
    intro l hl
    apply Lexeme.isBlank_of_isGap (isGap_of_mem_gap l hl)
    rintro c rfl
    exact hcomment c hl
  have hchars : chars = Lexeme.text (gap mode chars) ++ ',' :: Lexeme.text rest := by
    simpa [Lexeme.chars] using (congrArg Lexeme.text hsplit).symm
  rw [RowLayout.announcesRow, hchars, List.dropWhile_append_of_pos hblank,
    List.dropWhile_cons_of_neg (by decide)]
  rfl

private theorem announcesRow_eq_false_of_comment {mode : EscapeMode} {chars : List Char}
    (hcomment : ∃ c, .comment c ∈ gap mode chars) : RowLayout.announcesRow chars = false := by
  obtain ⟨blanks, c, more, hgap, hblanks⟩ :=
    Lexeme.exists_first_comment isGap_of_mem_gap hcomment
  have hlexemes : lexemesFrom mode .code chars =
      blanks ++ .comment c :: (more ++ (lexemes mode chars).dropWhile Lexeme.isGap) := by
    have hsplit := List.takeWhile_append_dropWhile (p := Lexeme.isGap) (l := lexemes mode chars)
    rw [show (lexemes mode chars).takeWhile Lexeme.isGap = _ from hgap] at hsplit
    rw [List.append_assoc, List.cons_append] at hsplit
    exact hsplit.symm
  have hchars := congrArg Lexeme.text hlexemes
  rw [text_lexemesFrom, Lexeme.text_append, Lexeme.text_cons] at hchars
  have hopener := opener_of_blanks hlexemes hblanks
  have hnot : Text.isBlank c = false ∧ c ≠ ',' := by
    rcases hopener with rfl | rfl | rfl <;> decide
  rw [RowLayout.announcesRow, hchars,
    List.dropWhile_append_of_pos (Lexeme.isBlank_of_mem_text hblanks), Lexeme.chars,
    List.singleton_append, List.dropWhile_cons_of_neg (by simp [hnot.1])]
  simp [hnot.2]

end Sql

namespace Template

open Sql

/-- A recorded row is the only one of its text unless a comment hides the comma behind it.  And a
comment does hide it: an insert that goes on with a further row has a layout exactly if a comment
stands in between. -/
theorem layout_of_further_row (sql : String) (mode : EscapeMode) :
    (∀ joinRows layout, (compile sql mode joinRows).layout = some layout →
      (∀ c, .comment c ∉ gap mode layout.trail) → ¬ListsFurtherRow mode layout.trail) ∧
    ∀ lead row trail, RowLayout.split? (lexemes mode sql.toList) = some (lead, row, trail) →
      RowLayout.startsInsert (lexemes mode sql.toList) = true →
      RowLayout.isOneStatement (lexemes mode sql.toList) = true →
      lead.any Lexeme.isPlaceholder = false → trail.any Lexeme.isPlaceholder = false →
      ListsFurtherRow mode (Lexeme.text trail) →
        ((compile sql mode true).canJoinRows = true ↔
          ∃ c, .comment c ∈ gap mode (Lexeme.text trail)) := by
  constructor
  · intro joinRows layout hlayout hcomment hrow
    cases joinRows with
    | false => cases hlayout
    | true =>
      obtain ⟨-, _, _, trail, -, -, -, hannounced, rfl⟩ :=
        RowLayout.ofLexemes?_eq_some_iff.1 hlayout
      have hseen := announcesRow_of_no_comment hrow hcomment
      rw [hannounced] at hseen
      cases hseen
  · intro lead row trail hsplit hinsert hone hlead htrail hrow
    rw [canJoinRows, Option.isSome_iff_exists]
    constructor
    · rintro ⟨layout, hlayout⟩
      obtain ⟨-, _, _, _, hsplit', -, -, hannounced, -⟩ :=
        RowLayout.ofLexemes?_eq_some_iff.1 hlayout
      rw [hsplit] at hsplit'
      cases hsplit'
      apply Classical.byContradiction
      intro hcomment
      rw [announcesRow_of_no_comment hrow (not_exists.1 hcomment)] at hannounced
      cases hannounced
    · intro hcomment
      have hunseen := announcesRow_eq_false_of_comment hcomment
      exact ⟨_, RowLayout.ofLexemes?_eq_some_iff.2
        ⟨⟨hinsert, hone⟩, lead, row, trail, hsplit, hlead, htrail, hunseen, rfl⟩⟩

/-- An insert that goes on behind its row, and one with a second row behind a comment. -/
theorem layout_of_further_row_returning :
    (∃ layout, (compile "insert into t values (?) returning a" .backslash true).layout =
        some layout ∧ ¬ListsFurtherRow .backslash layout.trail) ∧
      (compile "insert into t values (?) /* more */, (2)" .backslash true).canJoinRows = true := by
  constructor
  · have hlayout : (compile "insert into t values (?) returning a" .backslash true).layout =
        some ⟨"insert into t values ".toList, ⟨"(".toList, [")".toList]⟩,
          " returning a".toList⟩ := by decide
    have hgap : gap .backslash " returning a".toList = [.symbol ' '] := by decide
    refine ⟨_, hlayout, (layout_of_further_row _ .backslash).1 true _ hlayout ?_⟩
    intro c
    rw [hgap]
    simp
  · have hcut : (RowLayout.split? (lexemes .backslash
        "insert into t values (?) /* more */, (2)".toList)).map
          (fun cut => (cut.1.any Lexeme.isPlaceholder, cut.2.2.any Lexeme.isPlaceholder,
            Lexeme.text cut.2.2)) = some (false, false, " /* more */, (2)".toList) := by decide
    obtain ⟨⟨lead, row, trail⟩, hsplit, hcut⟩ := Option.map_eq_some_iff.1 hcut
    simp only [Prod.mk.injEq] at hcut
    obtain ⟨hlead, htrail, htext⟩ := hcut
    have hrow : ListsFurtherRow .backslash (Lexeme.text trail) := by
      rw [htext]
      decide
    have hcomment : .comment '/' ∈ gap .backslash (Lexeme.text trail) := by
      rw [htext]
      decide
    exact ((layout_of_further_row _ .backslash).2 lead row trail hsplit (by decide) (by decide)
      hlead htrail hrow).2 ⟨'/', hcomment⟩

/-- Behind a comment the second row is not seen, and it stays when rows are joined. -/
theorem layout_with_hidden_row :
    ∃ layout, (compile "insert into t values (?) /* more */, (2)" .backslash true).layout =
        some layout ∧
      ListsFurtherRow .backslash layout.trail ∧
      (compile "insert into t values (?) /* more */, (2)" .backslash true).renderJoined?
          [[.int 1], [.int 3]] = some "insert into t values (1),(3) /* more */, (2)" := by
  refine ⟨⟨"insert into t values ".toList, ⟨"(".toList, [")".toList]⟩, " /* more */, (2)".toList⟩,
    ?_, ?_, ?_⟩
  · decide
  · decide
  · decide

end Template
end SqlStatement
