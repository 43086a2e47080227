import SqlStatement.Proofs.Sql.Reading
/-!
# Lexemes group a reading

The lexemes of a text are its marks with the characters of each word put together, and no other
list of lexemes is: `lexemes_iff`.
-/
namespace SqlStatement.Sql

namespace Lexeme

def marks : Lexeme → List Mark
  | .word w => w.map (Prod.mk .code)
  | .symbol c => [(.code, c)]
  | .literal c => [(.literal, c)]
  | .comment c => [(.comment, c)]

/-- All word characters in code belong to words, and each word goes as far as it can. -/
inductive WholeWords : List Lexeme → Prop
  | nil : WholeWords []
  | word {w : List Char} {ls : List Lexeme} (hne : w ≠ [])
      (hchars : ∀ c ∈ w, Text.isWordChar c = true) (hends : ∀ v more, ls ≠ .word v :: more)
      (h : WholeWords ls) : WholeWords (.word w :: ls)
  | symbol {c : Char} {ls : List Lexeme} (hc : Text.isWordChar c = false) (h : WholeWords ls) :
      WholeWords (.symbol c :: ls)
  | literal {c : Char} {ls : List Lexeme} (h : WholeWords ls) : WholeWords (.literal c :: ls)
  | comment {c : Char} {ls : List Lexeme} (h : WholeWords ls) : WholeWords (.comment c :: ls)

private theorem marks_consRole (m : Mark) (ls : List Lexeme) :
    (consRole m.1 m.2 ls).flatMap marks = m :: ls.flatMap marks := by
  apply consRole_cases (motive := fun m ls made => made.flatMap marks = m :: ls.flatMap marks)
  case joined | opened | single | quoted | remark =>
    intros
    rfl

theorem map_snd_marks (ls : List Lexeme) :
    (ls.flatMap marks).map Prod.snd = text ls := by
  induction ls with
  | nil => rfl
  | cons l ls ih =>
    rw [List.flatMap_cons, List.map_append, ih, text_cons]
    cases l with
    | word w => simp [marks, chars, Function.comp_def]
    | symbol c | literal c | comment c => rfl

theorem consCode_symbol {c : Char} (hc : Text.isWordChar c = false) (ls : List Lexeme) :
    consCode c ls = .symbol c :: ls := by
  unfold consCode
  rw [if_neg (Bool.eq_false_iff.1 hc)]

private theorem consCode_of_no_word {c : Char} {ls : List Lexeme} (hc : Text.isWordChar c = true)
    (h : ∀ v more, ls ≠ .word v :: more) : consCode c ls = .word [c] :: ls := by
  unfold consCode
  rw [if_pos hc]
  split
  · next v more => exact absurd rfl (h v more)
  · rfl

private theorem consCode_word {c : Char} (hc : Text.isWordChar c = true) (w : List Char)
    (ls : List Lexeme) : consCode c (.word w :: ls) = .word (c :: w) :: ls := by
  unfold consCode
  rw [if_pos hc]

theorem WholeWords.of_append {ls ms : List Lexeme} (h : WholeWords (ls ++ ms)) :
    WholeWords ls := by
  induction ls with
  | nil => exact .nil
  | cons l ls ih =>
    cases h with
    | word hne hchars hends h =>
      refine .word hne hchars ?_ (ih h)
      rintro v more rfl
      exact hends v _ rfl
    | symbol hc h => exact .symbol hc (ih h)
    | literal h => exact .literal (ih h)
    | comment h => exact .comment (ih h)

theorem WholeWords.consRole {ls : List Lexeme} (h : WholeWords ls) (role : Role) (c : Char) :
    WholeWords (consRole role c ls) := by
  cases role with
  | literal => exact .literal h
  | comment => exact .comment h
  | code =>
    change WholeWords (consCode c ls)
    cases hc : Text.isWordChar c with
    | false =>
      rw [consCode_symbol hc]
      exact .symbol hc h
    | true =>
      by_cases hword : ∃ v more, ls = .word v :: more
      · obtain ⟨w, more, rfl⟩ := hword
        rw [consCode_word hc]
        cases h with
        | word _ hchars hends h =>
          exact .word (List.cons_ne_nil _ _) (List.forall_mem_cons.2 ⟨hc, hchars⟩) hends h
      · have hends : ∀ v more, ls ≠ .word v :: more := fun v more hls => hword ⟨v, more, hls⟩
        rw [consCode_of_no_word hc hends]
        exact .word (List.cons_ne_nil _ _) (by simpa using hc) hends h

private theorem consRole_append_symbol (role : Role) (c d : Char) (ls ms : List Lexeme) :
    consRole role c (ls ++ .symbol d :: ms) = consRole role c ls ++ .symbol d :: ms := by
  cases role with
  | literal | comment => rfl
  | code =>
    unfold consRole consCode
    dsimp only
    split
    · cases ls with
      | nil => rfl
      | cons l ls => cases l <;> rfl
    · rfl

private theorem symbol_mem_consRole {d : Char} (hd : Text.isWordChar d = false) (m : Mark)
    (ls : List Lexeme) :
    .symbol d ∈ consRole m.1 m.2 ls ↔ m = (.code, d) ∨ .symbol d ∈ ls := by
  apply consRole_cases (motive := fun m ls made =>
    .symbol d ∈ made ↔ m = (.code, d) ∨ .symbol d ∈ ls)
  case joined =>
    intro c w ls hw
    simp [ne_of_isWordChar_mark hw hd]
  case opened =>
    intro c ls hw
    simp [ne_of_isWordChar_mark hw hd]
  case single =>
    intro c ls _
    rw [List.mem_cons, Lexeme.symbol.injEq, Prod.mk.injEq, eq_comm, eq_self, true_and]
  case quoted => simp
  case remark => simp

end Lexeme

open Lexeme

theorem marks_lexemesOf (ms : List Mark) : (lexemesOf ms).flatMap marks = ms := by
  induction ms with
  | nil => rfl
  | cons m ms ih => rw [lexemesOf_cons, marks_consRole, ih]

private theorem wholeWords_lexemesOf (ms : List Mark) : WholeWords (lexemesOf ms) := by
  induction ms with
  | nil => exact .nil
  | cons m ms ih => exact ih.consRole m.1 m.2

theorem lexemesOf_symbol {c : Char} (hc : Text.isWordChar c = false) (ms ns : List Mark) :
    lexemesOf (ms ++ (.code, c) :: ns) = lexemesOf ms ++ .symbol c :: lexemesOf ns := by
  induction ms with
  | nil =>
    exact consCode_symbol hc (lexemesOf ns)
  | cons m ms ih =>
    rw [List.cons_append, lexemesOf_cons, lexemesOf_cons, ih, consRole_append_symbol]

theorem symbol_mem_lexemesOf {c : Char} (hc : Text.isWordChar c = false) (ms : List Mark) :
    .symbol c ∈ lexemesOf ms ↔ (.code, c) ∈ ms := by
  induction ms with
  | nil => simp [lexemesOf]
  | cons m ms ih => rw [lexemesOf_cons, symbol_mem_consRole hc, ih, List.mem_cons, eq_comm]

private theorem lexemesOf_word {w : List Char} {ls : List Lexeme} {ms : List Mark} (hne : w ≠ [])
    (hchars : ∀ c ∈ w, Text.isWordChar c = true) (hends : ∀ v more, ls ≠ .word v :: more)
    (hls : lexemesOf ms = ls) : lexemesOf (w.map (Prod.mk .code) ++ ms) = .word w :: ls := by
  induction w with
  | nil => exact absurd rfl hne
  | cons c w ih =>
    obtain ⟨hc, hchars⟩ := List.forall_mem_cons.1 hchars
    rw [List.map_cons, List.cons_append, lexemesOf_cons]
    change consCode c (lexemesOf (w.map (Prod.mk .code) ++ ms)) = _
    by_cases hw : w = []
    · subst hw
      rw [List.map_nil, List.nil_append, hls]
      exact consCode_of_no_word hc hends
    · rw [ih hw hchars, consCode_word hc]

theorem Lexeme.WholeWords.lexemesOf_marks {ls : List Lexeme} (h : WholeWords ls) :
    lexemesOf (ls.flatMap marks) = ls := by
  induction h with
  | nil => rfl
  | word hne hchars hends _ ih =>
    rw [List.flatMap_cons]
    exact lexemesOf_word hne hchars hends ih
  | @symbol c ls hc _ ih =>
    have hsplit := lexemesOf_symbol hc [] (ls.flatMap marks)
    rw [ih] at hsplit
    exact hsplit
  | @literal c ls _ ih => exact congrArg (.literal c :: ·) ih
  | @comment c ls _ ih => exact congrArg (.comment c :: ·) ih

/-- The lexemes of a text are the only ones that have its marks and whole words. -/
theorem lexemes_iff {mode : EscapeMode} {chars : List Char} {ls : List Lexeme} :
    ls = lexemes mode chars ↔
      WholeWords ls ∧ ls.flatMap marks = readingFrom mode .code chars := by
  rw [lexemes_eq_lexemesOf]
  constructor
  · rintro rfl
    exact ⟨wholeWords_lexemesOf _, marks_lexemesOf _⟩
  · rintro ⟨hwords, hmarks⟩
    rw [← hmarks, hwords.lexemesOf_marks]

end SqlStatement.Sql
