import SqlStatement.Sql.RowLayout
/-!
# Readings of SQL text

A reading gives each character of a text its role.  Lexemes, the pieces between placeholders and
the rule of one statement are functions of the reading alone, so two texts with the same reading
have the same structure.
-/
namespace SqlStatement.Sql

/-- A character with the role in which it was read. -/
abbrev Mark := Role × Char

def readingFrom (mode : EscapeMode) : Region → List Char → List Mark
  | _, [] => []
  | r, c :: rest =>
    (r.role (r.next mode c rest), c) :: readingFrom mode (r.next mode c rest) rest

def gapMark : Mark := (.code, '?')

def endMark : Mark := (.code, ';')

def isIdleMark : Mark → Bool
  | (.code, c) => Text.isAsciiBlank c || c == ';'
  | (.comment, _) => true
  | (.literal, _) => false

def lexemesOf (ms : List Mark) : List Lexeme :=
  ms.foldr (fun m ls => Lexeme.consRole m.1 m.2 ls) []

@[simp] theorem lexemesOf_cons (m : Mark) (ms : List Mark) :
    lexemesOf (m :: ms) = Lexeme.consRole m.1 m.2 (lexemesOf ms) := rfl

private theorem lexemesFrom_eq_lexemesOf (mode : EscapeMode) (r : Region) (chars : List Char) :
    lexemesFrom mode r chars = lexemesOf (readingFrom mode r chars) := by
  induction chars generalizing r with
  | nil => rfl
  | cons c rest ih => simp only [lexemesFrom, readingFrom, lexemesOf_cons, ih]

theorem lexemes_eq_lexemesOf (mode : EscapeMode) (chars : List Char) :
    lexemes mode chars = lexemesOf (readingFrom mode .code chars) :=
  lexemesFrom_eq_lexemesOf mode .code chars

theorem map_snd_readingFrom (mode : EscapeMode) (r : Region) (chars : List Char) :
    (readingFrom mode r chars).map Prod.snd = chars := by
  induction chars generalizing r with
  | nil => rfl
  | cons c rest ih => simp [readingFrom, ih]

theorem Region.role_of_ne_code {r : Region} (h : r ≠ .code) (after : Region) :
    r.role after = r.kind := by
  cases r with
  | code => exact absurd rfl h
  | _ => rfl

theorem Region.next_code_question (mode : EscapeMode) (rest : List Char) :
    Region.next mode .code '?' rest = .code := rfl

theorem mark_eq_gapMark_iff (mode : EscapeMode) (r : Region) (c : Char) (rest : List Char) :
    (r.role (r.next mode c rest), c) = gapMark ↔ r = .code ∧ c = '?' := by
  constructor
  · intro h
    obtain ⟨hrole, hc⟩ := Prod.mk.inj h
    cases r with
    | code => exact ⟨rfl, hc⟩
    | _ => cases hrole
  · rintro ⟨rfl, rfl⟩
    rfl

namespace Lexeme

theorem consRole_cases {motive : Mark → List Lexeme → List Lexeme → Prop}
    (joined : ∀ c w ls, Text.isWordChar c = true →
      motive (.code, c) (.word w :: ls) (.word (c :: w) :: ls))
    (opened : ∀ c ls, Text.isWordChar c = true → motive (.code, c) ls (.word [c] :: ls))
    (single : ∀ c ls, Text.isWordChar c = false → motive (.code, c) ls (.symbol c :: ls))
    (quoted : ∀ c ls, motive (.literal, c) ls (.literal c :: ls))
    (remark : ∀ c ls, motive (.comment, c) ls (.comment c :: ls)) (m : Mark) (ls : List Lexeme) :
    motive m ls (consRole m.1 m.2 ls) := by
  obtain ⟨role, c⟩ := m
  cases role with
  | code =>
    unfold consRole consCode
    dsimp only
    split
    · next hw =>
      split
      · next w rest => exact joined c w rest hw
      · exact opened c ls hw
    · next hw => exact single c ls (Bool.eq_false_iff.2 hw)
  | literal => exact quoted c ls
  | comment => exact remark c ls

theorem ne_of_isWordChar_mark {c d : Char} (hc : Text.isWordChar c = true)
    (hd : Text.isWordChar d = false) : (Role.code, c) ≠ (.code, d) := by
  intro h
  exact Text.ne_of_isWordChar hc hd (Prod.mk.inj h).2

private theorem countP_isPlaceholder_consRole (m : Mark) (ls : List Lexeme) :
    (consRole m.1 m.2 ls).countP isPlaceholder =
      (if m = gapMark then 1 else 0) + ls.countP isPlaceholder := by
  apply consRole_cases (motive := fun m ls made =>
    made.countP isPlaceholder = (if m = gapMark then 1 else 0) + ls.countP isPlaceholder)
  case joined =>
    intro c w ls hw
    have hc := ne_of_isWordChar_mark hw (d := '?') (by decide)
    simp [isPlaceholder, gapMark, hc]
  case opened =>
    intro c ls hw
    have hc := ne_of_isWordChar_mark hw (d := '?') (by decide)
    simp [isPlaceholder, gapMark, hc]
  case single =>
    intro c ls _
    by_cases hc : c = '?' <;> simp [isPlaceholder, gapMark, hc, Nat.add_comm]
  case quoted => simp [isPlaceholder, gapMark]
  case remark => simp [isPlaceholder, gapMark]

private theorem dropWhile_ne_end_consRole (m : Mark) (ls : List Lexeme) :
    (consRole m.1 m.2 ls).dropWhile (· != .symbol ';') =
      if m = endMark then consRole m.1 m.2 ls else ls.dropWhile (· != .symbol ';') := by
  apply consRole_cases (motive := fun m ls made =>
    made.dropWhile (· != .symbol ';') =
      if m = endMark then made else ls.dropWhile (· != .symbol ';'))
  case joined =>
    intro c w ls hw
    have hc := ne_of_isWordChar_mark hw (d := ';') (by decide)
    simp [endMark, hc]
  case opened =>
    intro c ls hw
    have hc := ne_of_isWordChar_mark hw (d := ';') (by decide)
    simp [endMark, hc]
  case single =>
    intro c ls _
    by_cases hc : c = ';' <;> simp [endMark, hc]
  case quoted => simp [endMark]
  case remark => simp [endMark]

private theorem all_isIdle_consRole (m : Mark) (ls : List Lexeme) :
    (consRole m.1 m.2 ls).all RowLayout.isIdle = (isIdleMark m && ls.all RowLayout.isIdle) := by
  have hword {c : Char} (hw : Text.isWordChar c = true) : isIdleMark (.code, c) = false := by
    have hend : c ≠ ';' := Text.ne_of_isWordChar hw (by decide)
    simp [isIdleMark, Text.isAsciiBlank_eq_false_of_isWordChar hw, hend]
  apply consRole_cases (motive := fun m ls made =>
    made.all RowLayout.isIdle = (isIdleMark m && ls.all RowLayout.isIdle))
  case joined =>
    intro c w ls hw
    simp [RowLayout.isIdle, hword hw]
  case opened =>
    intro c ls hw
    simp [RowLayout.isIdle, hword hw]
  case single => simp [RowLayout.isIdle, isIdleMark]
  case quoted => simp [RowLayout.isIdle, isIdleMark]
  case remark => simp [RowLayout.isIdle, isIdleMark]

end Lexeme

theorem countP_isPlaceholder_lexemesOf (ms : List Mark) :
    (lexemesOf ms).countP Lexeme.isPlaceholder = ms.count gapMark := by
  induction ms with
  | nil => rfl
  | cons m ms ih =>
    rw [lexemesOf_cons, Lexeme.countP_isPlaceholder_consRole, ih, List.count_cons, Nat.add_comm]
    simp only [beq_iff_eq]

private theorem all_isIdle_lexemesOf (ms : List Mark) :
    (lexemesOf ms).all RowLayout.isIdle = ms.all isIdleMark := by
  induction ms with
  | nil => rfl
  | cons m ms ih => rw [lexemesOf_cons, Lexeme.all_isIdle_consRole, ih, List.all_cons]

theorem isOneStatement_lexemesOf (ms : List Mark) :
    RowLayout.isOneStatement (lexemesOf ms) = (ms.dropWhile (· != endMark)).all isIdleMark := by
  induction ms with
  | nil => rfl
  | cons m ms ih =>
    unfold RowLayout.isOneStatement at ih ⊢
    rw [lexemesOf_cons, Lexeme.dropWhile_ne_end_consRole]
    by_cases hm : m = endMark
    · subst hm
      rw [if_pos rfl, Lexeme.all_isIdle_consRole, all_isIdle_lexemesOf]
      rfl
    · rw [if_neg hm, ih, List.dropWhile_cons_of_pos (by simpa using hm)]

end SqlStatement.Sql
