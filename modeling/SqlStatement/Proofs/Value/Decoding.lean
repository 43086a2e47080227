import SqlStatement.Value.Literal
/-!
# Reading string literals

A server reads a quoted text up to the quote that closes it.  A text that was quoted in a mode is
read back by a server in that mode, whatever follows, unless another quote follows at once.
-/
namespace SqlStatement.Value

def unescaped (c : Char) : Char :=
  if c = '0' then '\x00' else c

def readBody (mode : EscapeMode) : List Char → Option (List Char × List Char)
  | [] => none
  | [c] => if c = '\x27' then some ([], []) else none
  | c :: d :: rest =>
    if c = '\x27' then
      if d = '\x27' then (readBody mode rest).map fun p => ('\x27' :: p.1, p.2)
      else some ([], d :: rest)
    else if c = '\\' ∧ mode = .backslash then
      (readBody mode rest).map fun p => (unescaped d :: p.1, p.2)
    else (readBody mode (d :: rest)).map fun p => (c :: p.1, p.2)

def readQuoted? (mode : EscapeMode) : List Char → Option (List Char × List Char)
  | [] => none
  | c :: rest => if c = '\x27' then readBody mode rest else none

theorem readBody_plainChar {mode : EscapeMode} {c : Char} (hquote : c ≠ '\x27')
    (hslash : ¬(c = '\\' ∧ mode = .backslash)) (rest : List Char) :
    readBody mode (c :: rest) = (readBody mode rest).map fun p => (c :: p.1, p.2) := by
  cases rest with
  | nil => simp only [readBody, if_neg hquote, Option.map_none]
  | cons d more => rw [readBody, if_neg hquote, if_neg hslash]

theorem readBody_closing {mode : EscapeMode} {rest : List Char}
    (h : rest.head? ≠ some '\x27') : readBody mode ('\x27' :: rest) = some ([], rest) := by
  cases rest with
  | nil => rfl
  | cons d more =>
    have hd : d ≠ '\x27' := fun hd => h (congrArg some hd)
    rw [readBody, if_pos rfl, if_neg hd]

private theorem readBody_quoteChar (mode : EscapeMode) (c : Char) (rest : List Char) :
    readBody mode (quoteChar mode c ++ rest) =
      (readBody mode rest).map fun p => (c :: p.1, p.2) := by
  by_cases hquote : c = '\x27'
  · subst hquote
    rfl
  cases mode with
  | plain =>
    have hself : quoteChar .plain c = [c] := by simp [quoteChar, hquote]
    rw [hself]
    exact readBody_plainChar hquote (by simp) rest
  | backslash =>
    by_cases hslash : c = '\\'
    · subst hslash
      rfl
    by_cases hnul : c = '\x00'
    · subst hnul
      rfl
    have hself : quoteChar .backslash c = [c] := by simp [quoteChar, hquote, hslash, hnul]
    rw [hself]
    exact readBody_plainChar hquote (by simp [hslash]) rest

private theorem readBody_quoteChars (mode : EscapeMode) (chars : List Char) {rest : List Char}
    (h : rest.head? ≠ some '\x27') :
    readBody mode (chars.flatMap (quoteChar mode) ++ '\x27' :: rest) = some (chars, rest) := by
  induction chars with
  | nil => exact readBody_closing h
  | cons c cs ih =>
    rw [List.flatMap_cons, List.append_assoc, readBody_quoteChar, ih]
    rfl

/-- A quoted text is read back exactly in the mode in which it was written. -/
theorem readQuoted?_quoted (mode : EscapeMode) (chars : List Char) {rest : List Char}
    (h : rest.head? ≠ some '\x27') :
    readQuoted? mode (quoted mode chars ++ rest) = some (chars, rest) := by
  have hsplit : quoted mode chars ++ rest =
      '\x27' :: (chars.flatMap (quoteChar mode) ++ '\x27' :: rest) := by
    simp [quoted]
  rw [hsplit]
  exact readBody_quoteChars mode chars h

/-- Reading back works for all texts only if it is done in the mode of the writing: a server in
the other mode takes a backslash for something else. -/
theorem readsBack_iff (written read : EscapeMode) :
    (∀ chars rest : List Char, rest.head? ≠ some '\x27' →
      readQuoted? read (quoted written chars ++ rest) = some (chars, rest)) ↔ written = read := by
  constructor
  · intro h
    have hslash := h ['\\'] [] (by simp)
    cases written <;> cases read
    · rfl
    · exact absurd hslash (by decide)
    · exact absurd hslash (by decide)
    · rfl
  · rintro rfl chars rest hrest
    exact readQuoted?_quoted _ chars hrest

end SqlStatement.Value
