import SqlStatement.Sql.Region
/-!
# Lexemes of SQL text

The lexemes of a text are its words, its other code characters, and the characters of its
quoted texts and comments.  Nothing is lost: `text_lexemes` gives the text back.
-/
namespace SqlStatement.Sql

inductive Lexeme where
  | word (chars : List Char)
  | symbol (c : Char)
  | literal (c : Char)
  | comment (c : Char)
deriving DecidableEq, Repr

namespace Lexeme

def chars : Lexeme → List Char
  | .word w => w
  | .symbol c | .literal c | .comment c => [c]

def text (ls : List Lexeme) : List Char :=
  ls.flatMap chars

@[simp] theorem text_nil : text [] = [] := rfl

@[simp] theorem text_cons (l : Lexeme) (ls : List Lexeme) :
    text (l :: ls) = l.chars ++ text ls := rfl

@[simp] theorem text_append (ls ms : List Lexeme) : text (ls ++ ms) = text ls ++ text ms := by
  simp [text]

/-- Puts a code character in front, joining it to a word that follows at once. -/
def consCode (c : Char) (ls : List Lexeme) : List Lexeme :=
  if Text.isWordChar c then
    match ls with
    | .word w :: rest => .word (c :: w) :: rest
    | _ => .word [c] :: ls
  else .symbol c :: ls

@[simp] theorem text_consCode (c : Char) (ls : List Lexeme) :
    text (consCode c ls) = c :: text ls := by
  unfold consCode
  split
  · split <;> simp [chars]
  · simp [chars]

def consRole (role : Role) (c : Char) (ls : List Lexeme) : List Lexeme :=
  match role with
  | .code => consCode c ls
  | .literal => .literal c :: ls
  | .comment => .comment c :: ls

@[simp] theorem text_consRole (role : Role) (c : Char) (ls : List Lexeme) :
    text (consRole role c ls) = c :: text ls := by
  cases role <;> simp [consRole, chars]

/-- A placeholder is a question mark in code. -/
def isPlaceholder : Lexeme → Bool
  | .symbol c => c == '?'
  | _ => false

def isBlank : Lexeme → Bool
  | .symbol c => Text.isAsciiBlank c
  | _ => false

def word? : Lexeme → Option (List Char)
  | .word w => some w
  | _ => none

def isKeyword (names : List String) : Lexeme → Bool
  | .word w => names.any fun name => Text.eqIgnoringCase w name.toList
  | _ => false

/-- The depth of parentheses after a lexeme; a stray closing one is ignored.  The depth has no
bound here.  A counter of 32 bits shows the same depth for every text with fewer than `2 ^ 32`
open parentheses, and of longer texts this says nothing. -/
def depthAfter (depth : Nat) : Lexeme → Nat
  | .symbol c => if c = '(' then depth + 1 else if c = ')' then depth - 1 else depth
  | _ => depth

end Lexeme

def lexemesFrom (mode : EscapeMode) : Region → List Char → List Lexeme
  | _, [] => []
  | r, c :: rest =>
    let r' := r.next mode c rest
    Lexeme.consRole (r.role r') c (lexemesFrom mode r' rest)

def lexemes (mode : EscapeMode) (chars : List Char) : List Lexeme :=
  lexemesFrom mode .code chars

theorem text_lexemesFrom (mode : EscapeMode) (r : Region) (chars : List Char) :
    Lexeme.text (lexemesFrom mode r chars) = chars := by
  induction chars generalizing r with
  | nil => rfl
  | cons c rest ih => simp [lexemesFrom, ih]

@[simp] theorem text_lexemes (mode : EscapeMode) (chars : List Char) :
    Lexeme.text (lexemes mode chars) = chars :=
  text_lexemesFrom mode .code chars

end SqlStatement.Sql
