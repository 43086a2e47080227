import SqlStatement.Sql.Pieces
/-!
# The row of a single-row insert

A statement that inserts one row of values can carry many rows instead.  `RowLayout.ofLexemes?`
finds the row: the parenthesised group right after the first keyword of values outside
parentheses, when the text is one insert, all its placeholders stand in that group, and no
further row follows.
-/
namespace SqlStatement.Sql

structure RowLayout where
  lead : List Char
  row : Pieces
  trail : List Char
deriving DecidableEq, Repr

namespace RowLayout

def insertKeywords : List String :=
  ["INSERT", "REPLACE"]

def rowKeywords : List String :=
  ["VALUES", "VALUE"]

def startsInsert (ls : List Lexeme) : Bool :=
  (ls.find? fun l => l.word?.isSome).any (Lexeme.isKeyword insertKeywords)

/-- What may follow the end of a statement: blanks, comments and further semicolons. -/
def isIdle : Lexeme → Bool
  | .symbol c => Text.isAsciiBlank c || c == ';'
  | .comment _ => true
  | _ => false

/-- Nothing but idle lexemes follows the first semicolon. -/
def isOneStatement (ls : List Lexeme) : Bool :=
  (ls.dropWhile fun l => l != .symbol ';').all isIdle

/-- Cuts after the first row keyword outside parentheses. -/
def splitAfterKeyword : Nat → List Lexeme → Option (List Lexeme × List Lexeme)
  | _, [] => none
  | depth, l :: ls =>
    if depth = 0 ∧ l.isKeyword rowKeywords = true then some ([l], ls)
    else (splitAfterKeyword (l.depthAfter depth) ls).map fun (before, after) =>
      (l :: before, after)

/-- Cuts after the lexeme at which the depth comes back to zero. -/
def splitAfterGroup : Nat → List Lexeme → Option (List Lexeme × List Lexeme)
  | _, [] => none
  | depth, l :: ls =>
    if l.depthAfter depth = 0 then some ([l], ls)
    else (splitAfterGroup (l.depthAfter depth) ls).map fun (before, after) =>
      (l :: before, after)

def split? (ls : List Lexeme) : Option (List Lexeme × List Lexeme × List Lexeme) :=
  (splitAfterKeyword 0 ls).bind fun (before, after) =>
    match after.dropWhile Lexeme.isBlank with
    | .symbol '(' :: inner =>
      (splitAfterGroup 0 (.symbol '(' :: inner)).map fun (row, trail) =>
        (before ++ after.takeWhile Lexeme.isBlank, row, trail)
    | _ => none

def announcesRow (trail : List Char) : Bool :=
  (trail.dropWhile Text.isBlank).head? == some ','

def ofLexemes? (ls : List Lexeme) : Option RowLayout :=
  if startsInsert ls ∧ isOneStatement ls then
    (split? ls).bind fun (lead, row, trail) =>
      if lead.any Lexeme.isPlaceholder ∨ trail.any Lexeme.isPlaceholder ∨
          announcesRow (Lexeme.text trail) then none
      else some ⟨Lexeme.text lead, Pieces.ofLexemes row, Lexeme.text trail⟩
  else none

def fillRows (layout : RowLayout) (rows : List (List (List Char))) : List Char :=
  layout.lead ++ List.intercalate [','] (rows.map layout.row.fill) ++ layout.trail

theorem splitAfterKeyword_eq_some {depth : Nat} {ls before after : List Lexeme}
    (h : splitAfterKeyword depth ls = some (before, after)) : before ++ after = ls := by
  induction ls generalizing depth before with
  | nil => cases h
  | cons l ls ih =>
    unfold splitAfterKeyword at h
    split at h
    · cases h; rfl
    · obtain ⟨⟨b, a⟩, hs, he⟩ := Option.map_eq_some_iff.1 h
      cases he
      simp [ih hs]

theorem splitAfterGroup_eq_some {depth : Nat} {ls before after : List Lexeme}
    (h : splitAfterGroup depth ls = some (before, after)) : before ++ after = ls := by
  induction ls generalizing depth before with
  | nil => cases h
  | cons l ls ih =>
    unfold splitAfterGroup at h
    split at h
    · cases h; rfl
    · obtain ⟨⟨b, a⟩, hs, he⟩ := Option.map_eq_some_iff.1 h
      cases he
      simp [ih hs]

end RowLayout
end SqlStatement.Sql
