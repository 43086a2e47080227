import SqlStatement.Json.Token
import SqlStatement.Proofs.Value.Decoding
/-!
# What literals spell

A string literal spells a text and a hexadecimal literal spells bytes, by the rules of the server
that reads them.  At the start of a SQL text a literal can be read in one way only, and what the
literal of a value spells is the value: `Value.literals_decode`.
-/
namespace SqlStatement.Value

variable {mode : EscapeMode}

/-- What stands between the delimiters of a string literal, and the text that it spells.  Two
quotes spell one; where backslashes are escapes, two spell one, and `\0` spells a NUL. -/
inductive Spells (mode : EscapeMode) : List Char → List Char → Prop
  | done : Spells mode [] []
  | plain {c : Char} {body chars : List Char} (hquote : c ≠ '\x27')
      (hslash : mode = .backslash → c ≠ '\\') (h : Spells mode body chars) :
      Spells mode (c :: body) (c :: chars)
  | quote {body chars : List Char} (h : Spells mode body chars) :
      Spells mode ('\x27' :: '\x27' :: body) ('\x27' :: chars)
  | backslash {body chars : List Char} (hmode : mode = .backslash) (h : Spells mode body chars) :
      Spells mode ('\\' :: '\\' :: body) ('\\' :: chars)
  | nul {body chars : List Char} (hmode : mode = .backslash) (h : Spells mode body chars) :
      Spells mode ('\\' :: '0' :: body) ('\x00' :: chars)

inductive SpellsBytes : List Char → List UInt8 → Prop
  | done : SpellsBytes [] []
  | byte {high low : Char} {x y : Nat} {digits : List Char} {bytes : List UInt8}
      (hhigh : Json.hexValue? high = some x) (hlow : Json.hexValue? low = some y)
      (h : SpellsBytes digits bytes) :
      SpellsBytes (high :: low :: digits) (UInt8.ofNat (16 * x + y) :: bytes)

/-- At the start of a SQL text stands a string literal that spells `chars`, and `rest` follows it.
A quote cannot follow, since it would go on with the literal. -/
def ReadsText (mode : EscapeMode) (sql chars rest : List Char) : Prop :=
  ∃ body, sql = '\x27' :: body ++ '\x27' :: rest ∧ Spells mode body chars ∧
    rest.head? ≠ some '\x27'

/-- At the start of a SQL text stands a hexadecimal literal that spells `bytes`, and `rest`
follows it. -/
def ReadsBytes (sql : List Char) (bytes : List UInt8) (rest : List Char) : Prop :=
  ∃ digits, sql = 'X' :: '\x27' :: digits ++ '\x27' :: rest ∧ SpellsBytes digits bytes

theorem Spells.readBody {body chars rest : List Char} (h : Spells mode body chars)
    (hrest : rest.head? ≠ some '\x27') :
    readBody mode (body ++ '\x27' :: rest) = some (chars, rest) := by
  induction h with
  | done => exact readBody_closing hrest
  | plain hquote hslash _ ih =>
    rw [List.cons_append, readBody_plainChar hquote fun h => hslash h.2 h.1, ih]
    rfl
  | quote _ ih =>
    rw [List.cons_append, List.cons_append, Value.readBody, if_pos rfl, if_pos rfl, ih]
    rfl
  | backslash hmode _ ih | nul hmode _ ih =>
    rw [List.cons_append, List.cons_append, Value.readBody, if_neg (by decide),
      if_pos ⟨rfl, hmode⟩, ih]
    rfl

theorem ReadsText.readQuoted? {sql chars rest : List Char} (h : ReadsText mode sql chars rest) :
    readQuoted? mode sql = some (chars, rest) := by
  obtain ⟨body, rfl, hspells, hrest⟩ := h
  exact hspells.readBody hrest

theorem Spells.quoteChar {body chars : List Char} (h : Spells mode body chars) (c : Char) :
    Spells mode (quoteChar mode c ++ body) (c :: chars) := by
  by_cases hquote : c = '\x27'
  · subst hquote
    exact .quote h
  cases mode with
  | plain =>
    rw [show Value.quoteChar .plain c = [c] by simp [Value.quoteChar, hquote]]
    exact .plain hquote (fun hmode => absurd hmode (by decide)) h
  | backslash =>
    by_cases hslash : c = '\\'
    · subst hslash
      exact .backslash rfl h
    by_cases hnul : c = '\x00'
    · subst hnul
      exact .nul rfl h
    rw [show Value.quoteChar .backslash c = [c] by simp [Value.quoteChar, hquote, hslash, hnul]]
    exact .plain hquote (fun _ => hslash) h

private theorem spells_quoteChars (mode : EscapeMode) (chars : List Char) :
    Spells mode (chars.flatMap (quoteChar mode)) chars := by
  induction chars with
  | nil => exact .done
  | cons c cs ih => exact ih.quoteChar c

/-- At the start of a quoted text nothing can be read but its text, up to its last quote. -/
theorem readsText_quoted_iff {chars found rest after : List Char}
    (hrest : rest.head? ≠ some '\x27') :
    ReadsText mode (quoted mode chars ++ rest) found after ↔ found = chars ∧ after = rest := by
  constructor
  · intro h
    have hread := h.readQuoted?
    rw [readQuoted?_quoted mode chars hrest] at hread
    cases hread
    exact ⟨rfl, rfl⟩
  · rintro ⟨rfl, rfl⟩
    exact ⟨_, by simp [quoted], spells_quoteChars mode found, hrest⟩

private theorem hexValue?_digitChar : ∀ n < 16, Json.hexValue? (Nat.digitChar n) = some n := by
  decide

theorem SpellsBytes.byteDigits {digits : List Char} {bytes : List UInt8}
    (h : SpellsBytes digits bytes) (b : UInt8) :
    SpellsBytes (byteDigits b ++ digits) (b :: bytes) := by
  have hb : b.toNat < 256 := b.toNat_lt
  have hhigh := hexValue?_digitChar (b.toNat / 16) (by omega)
  have hlow := hexValue?_digitChar (b.toNat % 16) (by omega)
  have hspells := h.byte hhigh hlow
  rwa [Nat.div_add_mod, UInt8.ofNat_toNat] at hspells

private theorem spellsBytes_byteDigits (bytes : List UInt8) :
    SpellsBytes (bytes.flatMap byteDigits) bytes := by
  induction bytes with
  | nil => exact .done
  | cons b bs ih => exact ih.byteDigits b

private theorem SpellsBytes.unique {digits digits' rest rest' : List Char}
    {bytes bytes' : List UInt8} (h : SpellsBytes digits bytes) (h' : SpellsBytes digits' bytes')
    (heq : digits ++ '\x27' :: rest = digits' ++ '\x27' :: rest') :
    bytes = bytes' ∧ rest = rest' := by
  have hquote : Json.hexValue? '\x27' = none := by decide
  induction h generalizing digits' bytes' with
  | done =>
    cases h' with
    | done =>
      cases heq
      exact ⟨rfl, rfl⟩
    | byte hhigh _ _ =>
      cases heq
      simp [hquote] at hhigh
  | byte hhigh hlow h ih =>
    cases h' with
    | done =>
      cases heq
      simp [hquote] at hhigh
    | byte hhigh' hlow' h' =>
      simp only [List.cons_append, List.cons.injEq] at heq
      obtain ⟨rfl, rfl, heq⟩ := heq
      obtain ⟨rfl, hrest⟩ := ih h' heq
      cases hhigh.symm.trans hhigh'
      cases hlow.symm.trans hlow'
      exact ⟨rfl, hrest⟩

private theorem readsBytes_hexadecimal_iff {bytes found : List UInt8} {rest after : List Char} :
    ReadsBytes (hexadecimal bytes ++ rest) found after ↔ found = bytes ∧ after = rest := by
  have hsplit : hexadecimal bytes ++ rest =
      'X' :: '\x27' :: bytes.flatMap byteDigits ++ '\x27' :: rest := by
    simp [hexadecimal]
  rw [hsplit]
  constructor
  · rintro ⟨digits, heq, hdigits⟩
    simp only [List.cons_append, List.cons.injEq, true_and] at heq
    exact hdigits.unique (spellsBytes_byteDigits bytes) heq.symm
  · rintro ⟨rfl, rfl⟩
    exact ⟨_, rfl, spellsBytes_byteDigits found⟩

/-- The literal of a text, of a JSON value or of bytes is read as what was bound and as nothing
else, and it ends with its last character, whatever follows. -/
theorem literals_decode (mode : EscapeMode) (rest : List Char) :
    (∀ (s : String) found after, rest.head? ≠ some '\x27' →
      (ReadsText mode (literal mode (.text s) ++ rest) found after ↔
        found = s.toList ∧ after = rest)) ∧
    (∀ (v : Json) found after, rest.head? ≠ some '\x27' →
      (ReadsText mode (literal mode (.json v) ++ rest) found after ↔
        found = v.compact ∧ after = rest)) ∧
    (∀ bytes found after,
      ReadsBytes (literal mode (.blob bytes) ++ rest) found after ↔
        found = bytes ∧ after = rest) ∧
    ∀ bytes found after,
      ReadsBytes (literal mode (.stream bytes) ++ rest) found after ↔
        found = bytes ∧ after = rest := by
  refine ⟨?_, ?_, ?_, ?_⟩
  · intro s found after hrest
    exact readsText_quoted_iff hrest
  · intro v found after hrest
    exact readsText_quoted_iff hrest
  · intro bytes found after
    exact readsBytes_hexadecimal_iff
  · intro bytes found after
    exact readsBytes_hexadecimal_iff

/-- A quote, a NUL and a backslash at the end, in front of another literal. -/
theorem literals_decode_backslash_at_end :
    literal .backslash (.text "it's\x00\\") = "'it''s\\0\\\\'".toList ∧
      ", 'b'".toList.head? ≠ some '\x27' ∧
      ReadsText .backslash (literal .backslash (.text "it's\x00\\") ++ ", 'b'".toList)
        "it's\x00\\".toList ", 'b'".toList :=
  ⟨by decide, by decide,
    ((literals_decode .backslash ", 'b'".toList).1 "it's\x00\\" _ _ (by decide)).2 ⟨rfl, rfl⟩⟩

end SqlStatement.Value
