import SqlStatement.Proofs.Sql.JoinedRows
import SqlStatement.Proofs.Sql.Lexing
/-!
# The single row of an insert

What a layout says about its text: one insert, the keyword of the row outside parentheses, a group
that closes with its last parenthesis, and no placeholder outside the group.  A text has a layout
exactly if it can be cut in this way: `Template.layout_iff_single_row`.  Texts are taken to have
fewer than `2 ^ 32` open parentheses, see `Lexeme.depthAfter`.
-/
namespace SqlStatement

namespace Sql

namespace Lexeme

def depthFrom (depth : Nat) (ls : List Lexeme) : Nat :=
  ls.foldl depthAfter depth

@[simp] theorem depthFrom_nil (depth : Nat) : depthFrom depth [] = depth := rfl

@[simp] theorem depthFrom_cons (depth : Nat) (l : Lexeme) (ls : List Lexeme) :
    depthFrom depth (l :: ls) = depthFrom (l.depthAfter depth) ls := rfl

private theorem eq_word_of_isKeyword {names : List String} {l : Lexeme}
    (h : l.isKeyword names = true) : ∃ w, l = .word w := by
  cases l with
  | word w => exact ⟨w, rfl⟩
  | symbol c | literal c | comment c => cases h

end Lexeme

open Lexeme

/-- A text in parentheses, of which the last closes the first. -/
structure IsGroup (group : List Lexeme) : Prop where
  delimited : ∃ inner, group = .symbol '(' :: inner ++ [.symbol ')']
  closed : depthFrom 0 group = 0
  inside : ∀ before after, group = before ++ after → before ≠ [] → after ≠ [] →
    0 < depthFrom 0 before

/-- The depth comes back to zero with the last lexeme and not before. -/
def Closes : Nat → List Lexeme → Prop
  | _, [] => False
  | depth, l :: ls => if l.depthAfter depth = 0 then ls = [] else Closes (l.depthAfter depth) ls

private theorem closes_iff {depth : Nat} {ls : List Lexeme} :
    Closes depth ls ↔ ls ≠ [] ∧ depthFrom depth ls = 0 ∧
      ∀ before after, ls = before ++ after → before ≠ [] → after ≠ [] →
        0 < depthFrom depth before := by
  induction ls generalizing depth with
  | nil => simp [Closes]
  | cons l ls ih =>
    unfold Closes
    split
    · next hzero =>
      constructor
      · rintro rfl
        refine ⟨List.cons_ne_nil l [], hzero, ?_⟩
        intro before after heq hbefore hafter
        obtain ⟨d, ds, rfl⟩ := List.exists_cons_of_ne_nil hbefore
        have hnil := (List.cons.inj heq).2
        exact absurd (List.append_eq_nil_iff.1 hnil.symm).2 hafter
      · rintro ⟨-, -, hinside⟩
        apply Classical.byContradiction
        intro hne
        have hpos := hinside [l] ls rfl (List.cons_ne_nil l []) hne
        simp [hzero] at hpos
    · next hopen =>
      rw [ih]
      constructor
      · rintro ⟨-, hclosed, hinside⟩
        refine ⟨List.cons_ne_nil l ls, hclosed, ?_⟩
        intro before after heq hbefore hafter
        obtain ⟨d, ds, rfl⟩ := List.exists_cons_of_ne_nil hbefore
        obtain ⟨rfl, rfl⟩ := List.cons.inj heq
        by_cases hds : ds = []
        · subst hds
          exact Nat.pos_of_ne_zero hopen
        · exact hinside ds after rfl hds hafter
      · rintro ⟨-, hclosed, hinside⟩
        refine ⟨?_, hclosed, ?_⟩
        · rintro rfl
          exact hopen hclosed
        · intro before after heq _ hafter
          exact hinside (l :: before) after (congrArg (l :: ·) heq) (List.cons_ne_nil l before)
            hafter

theorem Closes.ends {depth : Nat} {ls : List Lexeme} (h : Closes (depth + 1) ls) :
    ∃ inner, ls = inner ++ [.symbol ')'] := by
  induction ls generalizing depth with
  | nil => exact h.elim
  | cons l ls ih =>
    unfold Closes at h
    split at h
    · next hzero =>
      subst h
      refine ⟨[], ?_⟩
      cases l with
      | symbol c =>
        simp only [depthAfter] at hzero
        split at hzero
        · omega
        · split at hzero
          · next hc => rw [hc]; rfl
          · omega
      | word w | literal c | comment c => cases hzero
    · next hopen =>
      obtain ⟨deeper, hdeeper⟩ := Nat.exists_eq_succ_of_ne_zero hopen
      rw [hdeeper] at h
      obtain ⟨inner, rfl⟩ := ih h
      exact ⟨l :: inner, rfl⟩

theorem isGroup_iff {group : List Lexeme} :
    IsGroup group ↔ ∃ rest, group = .symbol '(' :: rest ∧ Closes 0 group := by
  constructor
  · rintro ⟨⟨inner, rfl⟩, hclosed, hinside⟩
    exact ⟨_, rfl, closes_iff.2 ⟨List.cons_ne_nil _ _, hclosed, hinside⟩⟩
  · rintro ⟨rest, rfl, h⟩
    have hrest : Closes (0 + 1) rest := h
    obtain ⟨inner, rfl⟩ := hrest.ends
    obtain ⟨-, hclosed, hinside⟩ := closes_iff.1 h
    exact ⟨⟨inner, rfl⟩, hclosed, hinside⟩

namespace RowLayout

private theorem splitAfterGroup_eq_some_iff {depth : Nat} {ls group behind : List Lexeme} :
    splitAfterGroup depth ls = some (group, behind) ↔
      ls = group ++ behind ∧ Closes depth group := by
  induction ls generalizing depth group with
  | nil =>
    constructor
    · intro h
      cases h
    · rintro ⟨h, hcloses⟩
      rw [(List.append_eq_nil_iff.1 h.symm).1] at hcloses
      exact hcloses.elim
  | cons l ls ih =>
    unfold splitAfterGroup
    split
    · next hzero =>
      constructor
      · intro h
        cases h
        exact ⟨rfl, by simp [Closes, hzero]⟩
      · rintro ⟨h, hcloses⟩
        cases group with
        | nil => exact hcloses.elim
        | cons d ds =>
          obtain ⟨rfl, rfl⟩ := List.cons.inj h
          simp only [Closes, if_pos hzero] at hcloses
          subst hcloses
          rfl
    · next hopen =>
      rw [Option.map_eq_some_iff]
      constructor
      · rintro ⟨⟨ds, after⟩, hsplit, heq⟩
        cases heq
        obtain ⟨rfl, hcloses⟩ := ih.1 hsplit
        exact ⟨rfl, by simpa [Closes, hopen] using hcloses⟩
      · rintro ⟨h, hcloses⟩
        cases group with
        | nil => exact hcloses.elim
        | cons d ds =>
          obtain ⟨rfl, hls⟩ := List.cons.inj h
          simp only [Closes, if_neg hopen] at hcloses
          exact ⟨(ds, behind), ih.2 ⟨hls, hcloses⟩, rfl⟩

/-- A keyword outside parentheses, behind lexemes of which none is one. -/
structure IsFirstKeyword (depth : Nat) (before : List Lexeme) (l : Lexeme) : Prop where
  keyword : l.isKeyword rowKeywords = true
  outside : depthFrom depth before = 0
  first : ∀ earlier k later, before = earlier ++ k :: later → depthFrom depth earlier = 0 →
    k.isKeyword rowKeywords = false

theorem isFirstKeyword_nil {depth : Nat} {l : Lexeme} :
    IsFirstKeyword depth [] l ↔ depth = 0 ∧ l.isKeyword rowKeywords = true := by
  constructor
  · intro h
    exact ⟨h.outside, h.keyword⟩
  · rintro ⟨hdepth, hkeyword⟩
    refine ⟨hkeyword, hdepth, ?_⟩
    intro earlier k later h
    simp at h

theorem isFirstKeyword_cons {depth : Nat} {k l : Lexeme} {before : List Lexeme} :
    IsFirstKeyword depth (k :: before) l ↔
      ¬(depth = 0 ∧ k.isKeyword rowKeywords = true) ∧
        IsFirstKeyword (k.depthAfter depth) before l := by
  constructor
  · intro h
    refine ⟨?_, h.keyword, h.outside, ?_⟩
    · rintro ⟨hdepth, hkeyword⟩
      rw [h.first [] k before rfl hdepth] at hkeyword
      cases hkeyword
    · intro earlier m later heq hdepth
      exact h.first (k :: earlier) m later (congrArg (k :: ·) heq) hdepth
  · rintro ⟨hother, h⟩
    refine ⟨h.keyword, h.outside, ?_⟩
    intro earlier m later heq hdepth
    cases earlier with
    | nil =>
      obtain ⟨rfl, -⟩ := List.cons.inj heq
      exact Bool.eq_false_iff.2 fun hkeyword => hother ⟨hdepth, hkeyword⟩
    | cons d ds =>
      obtain ⟨rfl, hbefore⟩ := List.cons.inj heq
      exact h.first ds m later hbefore hdepth

private theorem splitAfterKeyword_eq_some_iff {depth : Nat} {ls lead behind : List Lexeme} :
    splitAfterKeyword depth ls = some (lead, behind) ↔
      ls = lead ++ behind ∧ ∃ before l, lead = before ++ [l] ∧ IsFirstKeyword depth before l := by
  induction ls generalizing depth lead with
  | nil =>
    constructor
    · intro h
      cases h
    · rintro ⟨h, before, l, rfl, -⟩
      simp at h
  | cons k ls ih =>
    unfold splitAfterKeyword
    split
    · next hkeyword =>
      constructor
      · intro h
        cases h
        exact ⟨rfl, [], k, rfl, isFirstKeyword_nil.2 hkeyword⟩
      · rintro ⟨h, before, l, rfl, hfirst⟩
        cases before with
        | nil =>
          obtain ⟨rfl, rfl⟩ := List.cons.inj h
          rfl
        | cons d ds =>
          obtain ⟨rfl, -⟩ := List.cons.inj h
          exact absurd hkeyword (isFirstKeyword_cons.1 hfirst).1
    · next hother =>
      rw [Option.map_eq_some_iff]
      constructor
      · rintro ⟨⟨ds, after⟩, hsplit, heq⟩
        cases heq
        obtain ⟨rfl, before, l, rfl, hfirst⟩ := ih.1 hsplit
        exact ⟨rfl, k :: before, l, rfl, isFirstKeyword_cons.2 ⟨hother, hfirst⟩⟩
      · rintro ⟨h, before, l, rfl, hfirst⟩
        cases before with
        | nil =>
          obtain ⟨rfl, -⟩ := List.cons.inj h
          exact absurd (isFirstKeyword_nil.1 hfirst) hother
        | cons d ds =>
          obtain ⟨rfl, hls⟩ := List.cons.inj h
          exact ⟨(ds ++ [l], behind), ih.2 ⟨hls, ds, l, rfl, (isFirstKeyword_cons.1 hfirst).2⟩, rfl⟩

/-- The text in front of a row: it ends with the first keyword of rows outside parentheses and
blanks. -/
def LeadsToRow (lead : List Lexeme) : Prop :=
  ∃ before w blanks, lead = before ++ .word w :: blanks ∧ IsFirstKeyword 0 before (.word w) ∧
    ∀ l ∈ blanks, l.isBlank = true

theorem split?_eq_some_iff {ls lead row trail : List Lexeme} :
    split? ls = some (lead, row, trail) ↔
      ls = lead ++ row ++ trail ∧ LeadsToRow lead ∧ IsGroup row := by
  unfold split?
  rw [Option.bind_eq_some_iff]
  constructor
  · rintro ⟨⟨keyed, behind⟩, hkeyword, h⟩
    obtain ⟨rfl, before, l, rfl, hfirst⟩ := splitAfterKeyword_eq_some_iff.1 hkeyword
    dsimp only at h
    split at h
    · next inner hafter =>
      obtain ⟨⟨group, rest⟩, hgroup, heq⟩ := Option.map_eq_some_iff.1 h
      cases heq
      obtain ⟨hinner, hcloses⟩ := splitAfterGroup_eq_some_iff.1 hgroup
      obtain ⟨w, rfl⟩ := eq_word_of_isKeyword hfirst.keyword
      refine ⟨?_, ⟨before, w, behind.takeWhile isBlank, by simp, hfirst, ?_⟩, isGroup_iff.2 ?_⟩
      · rw [List.append_assoc _ group rest, ← hinner, ← hafter,
          List.append_assoc _ (List.takeWhile _ _), List.takeWhile_append_dropWhile]
      · exact List.all_eq_true.1 List.all_takeWhile
      · cases group with
        | nil => exact hcloses.elim
        | cons d ds =>
          obtain ⟨rfl, -⟩ := List.cons.inj hinner
          exact ⟨ds, rfl, hcloses⟩
    · cases h
  · rintro ⟨rfl, ⟨before, w, blanks, rfl, hfirst, hblanks⟩, hgroup⟩
    obtain ⟨rest, rfl, hcloses⟩ := isGroup_iff.1 hgroup
    refine ⟨(before ++ [.word w], blanks ++ .symbol '(' :: rest ++ trail),
      splitAfterKeyword_eq_some_iff.2 ⟨by simp, before, .word w, rfl, hfirst⟩, ?_⟩
    have hdrop : (blanks ++ .symbol '(' :: rest ++ trail).dropWhile isBlank =
        .symbol '(' :: (rest ++ trail) := by
      rw [List.append_assoc, List.dropWhile_append_of_pos hblanks]
      rfl
    have htake : (blanks ++ .symbol '(' :: rest ++ trail).takeWhile isBlank = blanks := by
      rw [List.append_assoc, List.takeWhile_append_of_pos hblanks]
      exact List.append_nil blanks
    have hsplit : splitAfterGroup 0 (.symbol '(' :: (rest ++ trail)) =
        some (.symbol '(' :: rest, trail) := splitAfterGroup_eq_some_iff.2 ⟨rfl, hcloses⟩
    dsimp only
    rw [hdrop, htake]
    refine Option.map_eq_some_iff.2 ⟨_, hsplit, ?_⟩
    rw [List.append_assoc]
    rfl

theorem startsInsert_iff {ls : List Lexeme} :
    startsInsert ls = true ↔
      ∃ before w after, ls = before ++ .word w :: after ∧ (∀ l ∈ before, l.word? = none) ∧
        isKeyword insertKeywords (.word w) = true := by
  unfold startsInsert
  rw [Option.any_eq_true]
  constructor
  · rintro ⟨l, hfind, hkeyword⟩
    obtain ⟨-, before, after, rfl, hbefore⟩ := List.find?_eq_some_iff_append.1 hfind
    obtain ⟨w, rfl⟩ := eq_word_of_isKeyword hkeyword
    exact ⟨before, w, after, rfl, fun l hl => by simpa using hbefore l hl, hkeyword⟩
  · rintro ⟨before, w, after, rfl, hbefore, hkeyword⟩
    refine ⟨.word w, List.find?_eq_some_iff_append.2 ⟨rfl, before, after, rfl, ?_⟩, hkeyword⟩
    intro l hl
    simp [hbefore l hl]

theorem isOneStatement_iff {ls : List Lexeme} :
    isOneStatement ls = true ↔
      ∀ before after, ls = before ++ .symbol ';' :: after → .symbol ';' ∉ before →
        ∀ l ∈ after, isIdle l = true := by
  unfold isOneStatement
  induction ls with
  | nil => simp
  | cons k ls ih =>
    by_cases hk : k = .symbol ';'
    · subst hk
      rw [List.dropWhile_cons_of_neg (by simp), List.all_eq_true, List.forall_mem_cons]
      constructor
      · rintro ⟨-, hidle⟩ before after heq hbefore
        cases before with
        | nil => exact (List.cons.inj heq).2 ▸ hidle
        | cons d ds => exact absurd ((List.cons.inj heq).1 ▸ List.mem_cons_self) hbefore
      · intro h
        exact ⟨rfl, h [] ls rfl List.not_mem_nil⟩
    · rw [List.dropWhile_cons_of_pos (by simpa using hk), ih]
      constructor
      · intro h before after heq hbefore
        cases before with
        | nil => exact absurd (List.cons.inj heq).1 hk
        | cons d ds =>
          exact h ds after (List.cons.inj heq).2 fun hd => hbefore (List.mem_cons_of_mem d hd)
      · intro h before after heq hbefore
        refine h (k :: before) after (congrArg (k :: ·) heq) ?_
        rw [List.mem_cons, not_or]
        exact ⟨Ne.symm hk, hbefore⟩

/-- The parts of a text that is one insert of one row. -/
structure IsSingleRow (lead row trail : List Lexeme) : Prop where
  insert : ∃ before w after, lead ++ row ++ trail = before ++ .word w :: after ∧
    (∀ l ∈ before, l.word? = none) ∧ isKeyword insertKeywords (.word w) = true
  keyword : LeadsToRow lead
  group : IsGroup row
  /-- All placeholders stand in the row. -/
  lead_filled : ∀ l ∈ lead, l.isPlaceholder = false
  trail_filled : ∀ l ∈ trail, l.isPlaceholder = false
  last : ∀ before after, lead ++ row ++ trail = before ++ .symbol ';' :: after →
    .symbol ';' ∉ before → ∀ l ∈ after, isIdle l = true
  alone : announcesRow (Lexeme.text trail) = false

theorem ofLexemes?_eq_some_iff_isSingleRow {ls : List Lexeme} {layout : RowLayout} :
    ofLexemes? ls = some layout ↔
      ∃ lead row trail, ls = lead ++ row ++ trail ∧ IsSingleRow lead row trail ∧
        layout = ⟨Lexeme.text lead, Pieces.ofLexemes row, Lexeme.text trail⟩ := by
  rw [ofLexemes?_eq_some_iff, startsInsert_iff, isOneStatement_iff]
  constructor
  · rintro ⟨⟨hinsert, hlast⟩, lead, row, trail, hsplit, hlead, htrail, halone, hlayout⟩
    obtain ⟨rfl, hkeyword, hgroup⟩ := split?_eq_some_iff.1 hsplit
    exact ⟨lead, row, trail, rfl, ⟨hinsert, hkeyword, hgroup, by simpa using hlead,
      by simpa using htrail, hlast, halone⟩, hlayout⟩
  · rintro ⟨lead, row, trail, rfl, h, hlayout⟩
    exact ⟨⟨h.insert, h.last⟩, lead, row, trail,
      split?_eq_some_iff.2 ⟨rfl, h.keyword, h.group⟩, by simpa using h.lead_filled,
      by simpa using h.trail_filled, h.alone, hlayout⟩

end RowLayout
end Sql

namespace Template

open Sql

/-- A text has a layout exactly if its lexemes, with whole words, are those of an insert of one
row, and the layout says where the row stands.  The depth in this has no bound, so the text stands
for one with fewer than `2 ^ 32` open parentheses. -/
theorem layout_iff_single_row (sql : String) (mode : EscapeMode) (layout : RowLayout) :
    (compile sql mode true).layout = some layout ↔
      ∃ lead row trail, Lexeme.WholeWords (lead ++ row ++ trail) ∧
        (lead ++ row ++ trail).flatMap Lexeme.marks = readingFrom mode .code sql.toList ∧
        RowLayout.IsSingleRow lead row trail ∧
        layout = ⟨Lexeme.text lead, Pieces.ofLexemes row, Lexeme.text trail⟩ := by
  change RowLayout.ofLexemes? (lexemes mode sql.toList) = some layout ↔ _
  rw [RowLayout.ofLexemes?_eq_some_iff_isSingleRow]
  constructor
  · rintro ⟨lead, row, trail, hls, hrow, hlayout⟩
    obtain ⟨hwords, hmarks⟩ := lexemes_iff.1 hls.symm
    exact ⟨lead, row, trail, hwords, hmarks, hrow, hlayout⟩
  · rintro ⟨lead, row, trail, hwords, hmarks, hrow, hlayout⟩
    exact ⟨lead, row, trail, (lexemes_iff.2 ⟨hwords, hmarks⟩).symm, hrow, hlayout⟩

end Template
end SqlStatement
