import SqlStatement.Text.CharClass
/-!
# Lexical regions of SQL text

Every character of a SQL text stands in code, inside a quoted text or inside a comment.
`Region.next` moves from one character to the next with at most two characters of lookahead;
`Region.role` says what the character just passed was.
-/
namespace SqlStatement

/-- How the server reads a backslash in a string: as an escape, or as itself. -/
inductive EscapeMode where
  | backslash
  | plain
deriving DecidableEq, Repr

namespace Sql

inductive Quote where
  | single
  | double
  | backtick
deriving DecidableEq, Repr

def Quote.char : Quote → Char
  | .single => '\x27'
  | .double => '\x22'
  | .backtick => '\x60'

def Quote.ofChar? (c : Char) : Option Quote :=
  if c = Quote.single.char then some .single
  else if c = Quote.double.char then some .double
  else if c = Quote.backtick.char then some .backtick
  else none

theorem Quote.ofChar?_char (q : Quote) : Quote.ofChar? q.char = some q := by
  cases q <;> rfl

theorem Quote.ofChar?_eq_some {c : Char} {q : Quote} : Quote.ofChar? c = some q ↔ c = q.char := by
  constructor
  · intro h
    unfold Quote.ofChar? at h
    split at h
    · cases h; assumption
    · split at h
      · cases h; assumption
      · split at h
        · cases h; assumption
        · cases h
  · rintro rfl
    exact q.ofChar?_char

inductive Region where
  | code
  | quoted (q : Quote)
  /-- Inside a quoted text whose next character belongs to it whatever it is. -/
  | guarded (q : Quote)
  | lineComment
  /-- Between the slash and the star that open a block comment. -/
  | blockOpener
  | blockComment
  | blockCloser
deriving DecidableEq, Repr

inductive Role where
  | code
  | literal
  | comment
deriving DecidableEq, Repr

/-- A hash opens a line comment; two dashes do when a blank or the end of the text follows. -/
def opensLineComment (c : Char) (rest : List Char) : Bool :=
  if c = '#' then true
  else if c = '-' then
    match rest with
    | '-' :: after => after.head?.all Text.isAsciiBlank
    | _ => false
  else false

def opensBlockComment (c : Char) (rest : List Char) : Bool :=
  c = '/' && rest.head? = some '*'

/-- The place after the character `c`, when `rest` follows it. -/
def Region.next (mode : EscapeMode) : Region → Char → List Char → Region
  | .code, c, rest =>
    match Quote.ofChar? c with
    | some q => .quoted q
    | none =>
      if opensLineComment c rest then .lineComment
      else if opensBlockComment c rest then .blockOpener
      else .code
  | .quoted q, c, rest =>
    if c = '\\' ∧ q ≠ .backtick ∧ mode = .backslash then .guarded q
    else if c = q.char then
      if rest.head? = some q.char then .guarded q else .code
    else .quoted q
  | .guarded q, _, _ => .quoted q
  | .lineComment, c, _ => if c = '\n' then .code else .lineComment
  | .blockOpener, _, _ => .blockComment
  | .blockComment, c, rest =>
    if c = '*' ∧ rest.head? = some '/' then .blockCloser else .blockComment
  | .blockCloser, _, _ => .code

theorem Region.next_code (mode : EscapeMode) (c : Char) (rest : List Char) :
    Region.next mode .code c rest =
      match Quote.ofChar? c with
      | some q => .quoted q
      | none =>
        if opensLineComment c rest then .lineComment
        else if opensBlockComment c rest then .blockOpener
        else .code := rfl

theorem Region.next_quoted (mode : EscapeMode) (q : Quote) (c : Char) (rest : List Char) :
    Region.next mode (.quoted q) c rest =
      if c = '\\' ∧ q ≠ .backtick ∧ mode = .backslash then .guarded q
      else if c = q.char then
        if rest.head? = some q.char then .guarded q else .code
      else .quoted q := rfl

theorem Region.next_blockComment (mode : EscapeMode) (c : Char) (rest : List Char) :
    Region.next mode .blockComment c rest =
      if c = '*' ∧ rest.head? = some '/' then .blockCloser else .blockComment := rfl

def Region.kind : Region → Role
  | .code => .code
  | .quoted _ | .guarded _ => .literal
  | .lineComment | .blockOpener | .blockComment | .blockCloser => .comment

/-- The role of a character between two places: an opening delimiter already belongs to what it
opens, a closing one still belongs to what it closes. -/
def Region.role (before after : Region) : Role :=
  match before with
  | .code => after.kind
  | _ => before.kind

def Region.after (mode : EscapeMode) : Region → List Char → Region
  | r, [] => r
  | r, c :: rest => Region.after mode (r.next mode c rest) rest

end Sql
end SqlStatement
