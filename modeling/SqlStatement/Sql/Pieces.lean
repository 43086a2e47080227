import SqlStatement.Sql.Lexeme
/-!
# Text in pieces

SQL text cut at its placeholders.  `join` puts the placeholders back and `fill` puts a text
into each gap; `join_ofLexemes` says that cutting loses nothing.
-/
namespace SqlStatement.Sql

/-- A text with gaps: what stands before the first gap, and what follows each gap. -/
structure Pieces where
  first : List Char
  rest : List (List Char)
deriving DecidableEq, Repr

namespace Pieces

def gaps (p : Pieces) : Nat :=
  p.rest.length

def toList (p : Pieces) : List (List Char) :=
  p.first :: p.rest

def join (p : Pieces) : List Char :=
  p.first ++ p.rest.flatMap fun piece => '?' :: piece

private def fillRest : List (List Char) → List (List Char) → List Char
  | piece :: pieces, value :: values => value ++ piece ++ fillRest pieces values
  | _, _ => []

/-- The text with one value in each gap.  Surplus values are ignored, and the text stops before
the first gap that has no value. -/
def fill (p : Pieces) (values : List (List Char)) : List Char :=
  p.first ++ fillRest p.rest values

def prepend (chars : List Char) (p : Pieces) : Pieces :=
  { p with first := chars ++ p.first }

def append (p : Pieces) (chars : List Char) : Pieces :=
  match p.rest.getLast? with
  | none => { p with first := p.first ++ chars }
  | some last => { p with rest := p.rest.dropLast ++ [last ++ chars] }

def cons (p : Pieces) (l : Lexeme) : Pieces :=
  if l.isPlaceholder then ⟨[], p.toList⟩ else p.prepend l.chars

def ofLexemes (ls : List Lexeme) : Pieces :=
  ls.foldr (fun l p => cons p l) ⟨[], []⟩

theorem ofLexemes_cons (l : Lexeme) (ls : List Lexeme) :
    ofLexemes (l :: ls) = (ofLexemes ls).cons l := rfl

@[simp] theorem fill_last (chars : List Char) (values : List (List Char)) :
    fill ⟨chars, []⟩ values = chars := by
  simp only [fill, fillRest, List.append_nil]

@[simp] theorem fill_gap (chars piece value : List Char) (pieces values : List (List Char)) :
    fill ⟨chars, piece :: pieces⟩ (value :: values) =
      chars ++ (value ++ fill ⟨piece, pieces⟩ values) := by
  simp only [fill, fillRest, List.append_assoc]

@[simp] theorem fill_prepend (chars : List Char) (p : Pieces) (values : List (List Char)) :
    (p.prepend chars).fill values = chars ++ p.fill values := by
  simp only [fill, prepend, List.append_assoc]

@[simp] theorem prepend_prepend (first second : List Char) (p : Pieces) :
    (p.prepend second).prepend first = p.prepend (first ++ second) := by
  simp only [prepend, List.append_assoc]

private theorem join_prepend (chars : List Char) (p : Pieces) :
    (p.prepend chars).join = chars ++ p.join := by
  simp [join, prepend]

private theorem chars_of_isPlaceholder {l : Lexeme} (h : l.isPlaceholder = true) :
    l.chars = ['?'] := by
  cases l <;> simp_all [Lexeme.isPlaceholder, Lexeme.chars]

private theorem join_cons (l : Lexeme) (p : Pieces) : (p.cons l).join = l.chars ++ p.join := by
  unfold cons
  split
  · next h => simp [join, toList, chars_of_isPlaceholder h]
  · exact join_prepend l.chars p

private theorem gaps_cons (l : Lexeme) (p : Pieces) :
    (p.cons l).gaps = (if l.isPlaceholder then 1 else 0) + p.gaps := by
  unfold cons
  split <;> simp_all [gaps, toList, prepend, Nat.add_comm]

theorem join_ofLexemes (ls : List Lexeme) : (ofLexemes ls).join = Lexeme.text ls := by
  induction ls with
  | nil => rfl
  | cons l ls ih =>
    rw [ofLexemes_cons, join_cons, ih, Lexeme.text_cons]

theorem gaps_ofLexemes (ls : List Lexeme) :
    (ofLexemes ls).gaps = ls.countP Lexeme.isPlaceholder := by
  induction ls with
  | nil => rfl
  | cons l ls ih =>
    rw [ofLexemes_cons, gaps_cons, ih, List.countP_cons, Nat.add_comm]

end Pieces
end SqlStatement.Sql
