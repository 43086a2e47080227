import SqlStatement.Proofs.Sql.Reading
/-!
# Readings of filled texts

An intact text is read in the same way wherever it stands in code.  When every gap of a text is
filled with an intact one, the reading of the whole is the reading of the text with the marks of
the fillings in its gaps, also where a filling touches a quote, a dash or a slash.
-/
namespace SqlStatement.Sql

variable {mode : EscapeMode}

def isBareChar (c : Char) : Bool :=
  c.isAlphanum || c == '.' || c == '-'

def OpensIntact : List Char → Prop
  | [] => False
  | c :: cs => Text.isAsciiBlank c = false ∧ c ≠ '*' ∧ c ≠ '\x22' ∧ c ≠ '\x60' ∧
      (c = '-' → ∃ d ds, cs = d :: ds ∧ Text.isAsciiBlank d = false)

/-- A text that leaves the structure of what surrounds it alone. -/
structure IsIntact (mode : EscapeMode) (text : List Char) : Prop where
  opens : OpensIntact text
  reads : ∀ rest, readingFrom mode .code (text ++ rest) =
    readingFrom mode .code text ++ readingFrom mode .code rest
  ends : ∀ rest, Region.after mode .code (text ++ rest) = Region.after mode .code rest
  marks : ∀ m ∈ readingFrom mode .code text,
    m.1 = .literal ∨ m.1 = .code ∧ isBareChar m.2 = true

def fillFrom (mode : EscapeMode) (r : Region) (chars : List Char) (values : List (List Char)) :
    List Char :=
  (Pieces.ofLexemes (lexemesFrom mode r chars)).fill values

def fillMarks : List Mark → List (List Mark) → List Mark
  | [], _ => []
  | m :: ms, values =>
    if m = gapMark then
      match values with
      | [] => []
      | v :: vs => v ++ fillMarks ms vs
    else m :: fillMarks ms values

theorem fillMarks_gap (ms v : List Mark) (vs : List (List Mark)) :
    fillMarks (gapMark :: ms) (v :: vs) = v ++ fillMarks ms vs := rfl

theorem fillMarks_of_ne {m : Mark} (h : m ≠ gapMark) (ms : List Mark) (values : List (List Mark)) :
    fillMarks (m :: ms) values = m :: fillMarks ms values := by
  cases values <;> simp only [fillMarks, if_neg h]

theorem mem_fillMarks {m : Mark} {ms : List Mark} {values : List (List Mark)}
    (h : m ∈ fillMarks ms values) : m ∈ ms ∨ ∃ v ∈ values, m ∈ v := by
  induction ms generalizing values with
  | nil => cases h
  | cons k ms ih =>
    by_cases hk : k = gapMark
    · subst hk
      cases values with
      | nil => cases h
      | cons v vs =>
        rw [fillMarks_gap, List.mem_append] at h
        obtain h | h := h
        · exact .inr ⟨v, List.mem_cons_self, h⟩
        · obtain h | ⟨w, hw, h⟩ := ih h
          · exact .inl (List.mem_cons_of_mem _ h)
          · exact .inr ⟨w, List.mem_cons_of_mem v hw, h⟩
    · rw [fillMarks_of_ne hk, List.mem_cons] at h
      obtain rfl | h := h
      · exact .inl List.mem_cons_self
      · exact (ih h).imp_left (List.mem_cons_of_mem k)

theorem OpensIntact.append {text : List Char} (h : OpensIntact text) (rest : List Char) :
    OpensIntact (text ++ rest) := by
  cases text with
  | nil => exact h.elim
  | cons c cs =>
    obtain ⟨hblank, hstar, hdouble, hbacktick, hdash⟩ := h
    refine ⟨hblank, hstar, hdouble, hbacktick, ?_⟩
    intro hc
    obtain ⟨d, ds, rfl, hd⟩ := hdash hc
    exact ⟨d, ds ++ rest, rfl, hd⟩

theorem IsIntact.of_reading {text : List Char} {ms : List Mark} (hopens : OpensIntact text)
    (hreads : ∀ rest,
      readingFrom mode .code (text ++ rest) = ms ++ readingFrom mode .code rest ∧
        Region.after mode .code (text ++ rest) = Region.after mode .code rest)
    (hmarks : ∀ m ∈ ms, m.1 = .literal ∨ m.1 = .code ∧ isBareChar m.2 = true) :
    IsIntact mode text := by
  have halone : readingFrom mode .code text = ms := by
    have hempty := (hreads []).1
    rwa [List.append_nil, readingFrom, List.append_nil] at hempty
  refine ⟨hopens, ?_, ?_, ?_⟩
  · intro rest
    rw [(hreads rest).1, halone]
  · intro rest
    exact (hreads rest).2
  · rw [halone]
    exact hmarks

theorem Pieces.ofLexemes_consRole (m : Mark) (ls : List Lexeme) :
    ofLexemes (Lexeme.consRole m.1 m.2 ls) =
      if m = gapMark then ⟨[], (ofLexemes ls).toList⟩ else (ofLexemes ls).prepend [m.2] := by
  apply Lexeme.consRole_cases (motive := fun m ls made =>
    ofLexemes made =
      if m = gapMark then ⟨[], (ofLexemes ls).toList⟩ else (ofLexemes ls).prepend [m.2])
  case joined =>
    intro c w ls hw
    have hc := Lexeme.ne_of_isWordChar_mark hw (d := '?') (by decide)
    simp [ofLexemes_cons, cons, Lexeme.isPlaceholder, Lexeme.chars, gapMark, hc]
  case opened =>
    intro c ls hw
    have hc := Lexeme.ne_of_isWordChar_mark hw (d := '?') (by decide)
    simp [ofLexemes_cons, cons, Lexeme.isPlaceholder, Lexeme.chars, gapMark, hc]
  case single =>
    intro c ls _
    by_cases hc : c = '?' <;>
      simp [ofLexemes_cons, cons, Lexeme.isPlaceholder, Lexeme.chars, gapMark, hc]
  case quoted => simp [ofLexemes_cons, cons, Lexeme.isPlaceholder, Lexeme.chars, gapMark]
  case remark => simp [ofLexemes_cons, cons, Lexeme.isPlaceholder, Lexeme.chars, gapMark]

private theorem count_gapMark_question (mode : EscapeMode) (rest : List Char) :
    (readingFrom mode .code ('?' :: rest)).count gapMark =
      (readingFrom mode .code rest).count gapMark + 1 := by
  rw [readingFrom, Region.next_code_question]
  exact List.count_cons_self

private theorem fillFrom_gap (rest value : List Char) (values : List (List Char)) :
    fillFrom mode .code ('?' :: rest) (value :: values) =
      value ++ fillFrom mode .code rest values := by
  have h := Pieces.ofLexemes_consRole gapMark (lexemesFrom mode .code rest)
  rw [if_pos rfl] at h
  unfold fillFrom
  rw [show lexemesFrom mode .code ('?' :: rest) =
    Lexeme.consRole gapMark.1 gapMark.2 (lexemesFrom mode .code rest) from rfl, h]
  exact Pieces.fill_gap [] _ value _ values

private theorem fillFrom_char {r : Region} {c : Char} (h : ¬(r = .code ∧ c = '?'))
    (rest : List Char) (values : List (List Char)) :
    fillFrom mode r (c :: rest) values =
      c :: fillFrom mode (r.next mode c rest) rest values := by
  have hm := mt (mark_eq_gapMark_iff mode r c rest).1 h
  have hp := Pieces.ofLexemes_consRole (r.role (r.next mode c rest), c)
    (lexemesFrom mode (r.next mode c rest) rest)
  rw [if_neg hm] at hp
  unfold fillFrom
  rw [lexemesFrom, hp, Pieces.fill_prepend]
  rfl

private theorem head_fillFrom {r : Region} {chars : List Char} {values : List (List Char)}
    (hgaps : (readingFrom mode r chars).count gapMark ≤ values.length)
    (hintact : ∀ v ∈ values, IsIntact mode v) :
    (fillFrom mode r chars values).head? = chars.head? ∨
      r = .code ∧ chars.head? = some '?' ∧ OpensIntact (fillFrom mode r chars values) := by
  cases chars with
  | nil => exact .inl rfl
  | cons c rest =>
    by_cases h : r = .code ∧ c = '?'
    · obtain ⟨rfl, rfl⟩ := h
      cases values with
      | nil => simp [count_gapMark_question] at hgaps
      | cons v vs =>
        rw [fillFrom_gap]
        exact .inr ⟨rfl, rfl, (hintact v List.mem_cons_self).opens.append _⟩
    · rw [fillFrom_char h]
      exact .inl rfl

private theorem head_fillFrom_of_ne_code {r : Region} {chars : List Char}
    {values : List (List Char)} (hgaps : (readingFrom mode r chars).count gapMark ≤ values.length)
    (hintact : ∀ v ∈ values, IsIntact mode v) (hr : r ≠ .code) :
    (fillFrom mode r chars values).head? = chars.head? := by
  obtain h | ⟨h, -⟩ := head_fillFrom hgaps hintact
  · exact h
  · exact absurd h hr

private theorem OpensIntact.head_not_blank {text : List Char} (h : OpensIntact text) :
    text.head?.all Text.isAsciiBlank = false := by
  cases text with
  | nil => exact h.elim
  | cons c cs => exact h.1

private theorem OpensIntact.not_opens_comment {text : List Char} (h : OpensIntact text) :
    opensLineComment '-' text = false := by
  cases text with
  | nil => exact h.elim
  | cons c cs =>
    by_cases hc : c = '-'
    · obtain ⟨d, ds, rfl, hd⟩ := h.2.2.2.2 hc
      subst hc
      exact hd
    · simp [opensLineComment, hc]

theorem opensLineComment_dash_of_head_ne {rest : List Char} (h : rest.head? ≠ some '-') :
    opensLineComment '-' rest = false := by
  cases rest with
  | nil => rfl
  | cons d after =>
    have hd : d ≠ '-' := fun hd => h (congrArg some hd)
    simp [opensLineComment, hd]

private theorem opensLineComment_fillFrom {c : Char} {r : Region} {rest : List Char}
    {values : List (List Char)} (hgaps : (readingFrom mode r rest).count gapMark ≤ values.length)
    (hintact : ∀ v ∈ values, IsIntact mode v) :
    opensLineComment c (fillFrom mode r rest values) = opensLineComment c rest := by
  by_cases hdash : c = '-'
  · subst hdash
    cases rest with
    | nil => rfl
    | cons d after =>
      by_cases hd : d = '-'
      · subst hd
        rw [fillFrom_char (by simp)]
        have hcount : (readingFrom mode (r.next mode '-' after) after).count gapMark ≤
            values.length := by
          rw [readingFrom, List.count_cons] at hgaps
          omega
        change Option.all _ (fillFrom mode (r.next mode '-' after) after values).head? =
          Option.all _ after.head?
        obtain h | ⟨-, h, hopens⟩ := head_fillFrom hcount hintact
        · rw [h]
        · rw [hopens.head_not_blank, h]
          rfl
      · have hright : opensLineComment '-' (d :: after) = false :=
          opensLineComment_dash_of_head_ne (by simp [hd])
        rw [hright]
        obtain h | ⟨-, -, hopens⟩ := head_fillFrom hgaps hintact
        · apply opensLineComment_dash_of_head_ne
          rw [h]
          simp [hd]
        · exact hopens.not_opens_comment
  · simp only [opensLineComment, if_neg hdash]

private theorem opensBlockComment_fillFrom {c : Char} {r : Region} {rest : List Char}
    {values : List (List Char)} (hgaps : (readingFrom mode r rest).count gapMark ≤ values.length)
    (hintact : ∀ v ∈ values, IsIntact mode v) :
    opensBlockComment c (fillFrom mode r rest values) = opensBlockComment c rest := by
  unfold opensBlockComment
  obtain h | ⟨-, hgap, hopens⟩ := head_fillFrom hgaps hintact
  · rw [h]
  · cases htext : fillFrom mode r rest values with
    | nil => simp [htext, OpensIntact] at hopens
    | cons d ds =>
      rw [htext] at hopens
      simp [hgap, hopens.2.1]

/-- At a single quote, a place in code and a place inside a quoted text that was just reopened
lead to the same reading. -/
def SamePlace (text : List Char) (r r' : Region) : Prop :=
  r' = r ∨ r = .code ∧ r' = .guarded .single ∧ text.head? = some '\x27'

theorem SamePlace.readingFrom_eq {text : List Char} {r r' : Region} (h : SamePlace text r r') :
    readingFrom mode r' text = readingFrom mode r text := by
  obtain rfl | ⟨rfl, rfl, hhead⟩ := h
  · rfl
  · cases text with
    | nil => rfl
    | cons c rest =>
      cases hhead
      rfl

theorem SamePlace.after_eq {text : List Char} {r r' : Region} (h : SamePlace text r r') :
    Region.after mode r' text = Region.after mode r text := by
  obtain rfl | ⟨rfl, rfl, hhead⟩ := h
  · rfl
  · cases text with
    | nil => cases hhead
    | cons c rest =>
      cases hhead
      rfl

private theorem OpensIntact.quote_eq_single {text : List Char} (h : OpensIntact text) {q : Quote}
    (hq : text.head? = some q.char) : q = .single := by
  cases text with
  | nil => exact h.elim
  | cons c cs =>
    obtain ⟨-, -, hdouble, hbacktick, -⟩ := h
    cases q with
    | single => rfl
    | double => exact absurd (Option.some.inj hq) hdouble
    | backtick => exact absurd (Option.some.inj hq) hbacktick

/-- Outside gaps, filling what follows a character leads to the same place. -/
theorem samePlace_next {r after : Region} {c : Char} {rest : List Char}
    {values : List (List Char)} (hafter : r.next mode c rest = after)
    (hgaps : (readingFrom mode after rest).count gapMark ≤ values.length)
    (hintact : ∀ v ∈ values, IsIntact mode v) :
    SamePlace (fillFrom mode after rest values) after
      (r.next mode c (fillFrom mode after rest values)) := by
  cases r with
  | code =>
    rw [Region.next_code] at hafter ⊢
    rw [opensLineComment_fillFrom hgaps hintact, opensBlockComment_fillFrom hgaps hintact]
    exact .inl hafter
  | quoted q =>
    rw [Region.next_quoted] at hafter ⊢
    by_cases hslash : c = '\\' ∧ q ≠ .backtick ∧ mode = .backslash
    · rw [if_pos hslash] at hafter ⊢
      exact .inl hafter
    rw [if_neg hslash] at hafter ⊢
    by_cases hclose : c = q.char
    · rw [if_pos hclose] at hafter ⊢
      by_cases hdoubled : rest.head? = some q.char
      · -- A doubled quote is no gap, so the quote that follows is still there.
        rw [if_pos hdoubled] at hafter
        have hhead := head_fillFrom_of_ne_code hgaps hintact (by simp [← hafter])
        rw [hhead, if_pos hdoubled]
        exact .inl hafter
      · rw [if_neg hdoubled] at hafter
        by_cases hmerge : (fillFrom mode after rest values).head? = some q.char
        · rw [if_pos hmerge]
          obtain h | ⟨-, -, hopens⟩ := head_fillFrom hgaps hintact
          · exact absurd (h.symm.trans hmerge) hdoubled
          · obtain rfl := hopens.quote_eq_single hmerge
            exact .inr ⟨hafter.symm, rfl, hmerge⟩
        · rw [if_neg hmerge]
          exact .inl hafter
    · rw [if_neg hclose] at hafter ⊢
      exact .inl hafter
  | guarded q => exact .inl hafter
  | lineComment => exact .inl hafter
  | blockOpener => exact .inl hafter
  | blockComment =>
    rw [Region.next_blockComment] at hafter ⊢
    have hcode : after ≠ .code := by
      rw [← hafter]
      split <;> simp
    rw [head_fillFrom_of_ne_code hgaps hintact hcode]
    exact .inl hafter
  | blockCloser => exact .inl hafter

private theorem role_next_fillFrom {r : Region} {c : Char} {rest text : List Char}
    (h : SamePlace text (r.next mode c rest) (r.next mode c text)) :
    r.role (r.next mode c text) = r.role (r.next mode c rest) := by
  by_cases hr : r = .code
  · subst hr
    obtain h | ⟨-, h, -⟩ := h
    · rw [h]
    · rw [Region.next_code] at h
      split at h
      · cases h
      · split at h
        · cases h
        · split at h <;> cases h
  · rw [Region.role_of_ne_code hr, Region.role_of_ne_code hr]

/-- Filling a text fills its reading and leaves the place at its end as it is. -/
theorem readingFrom_fillFrom {r : Region} {chars : List Char} {values : List (List Char)}
    (hgaps : (readingFrom mode r chars).count gapMark ≤ values.length)
    (hintact : ∀ v ∈ values, IsIntact mode v) :
    readingFrom mode r (fillFrom mode r chars values) =
        fillMarks (readingFrom mode r chars) (values.map (readingFrom mode .code)) ∧
      Region.after mode r (fillFrom mode r chars values) = Region.after mode r chars := by
  induction chars generalizing r values with
  | nil => exact ⟨rfl, rfl⟩
  | cons c rest ih =>
    by_cases h : r = .code ∧ c = '?'
    · obtain ⟨rfl, rfl⟩ := h
      rw [count_gapMark_question] at hgaps
      cases values with
      | nil => simp at hgaps
      | cons v vs =>
        have hv := hintact v List.mem_cons_self
        have hcount : (readingFrom mode .code rest).count gapMark ≤ vs.length :=
          Nat.le_of_succ_le_succ hgaps
        obtain ⟨hreading, hplace⟩ := ih hcount fun w hw => hintact w (List.mem_cons_of_mem v hw)
        rw [fillFrom_gap, hv.reads, hv.ends, hreading, hplace]
        exact ⟨rfl, rfl⟩
    · have hm := mt (mark_eq_gapMark_iff mode r c rest).1 h
      rw [readingFrom, List.count_cons_of_ne hm] at hgaps
      have hsame := samePlace_next rfl hgaps hintact
      obtain ⟨hreading, hplace⟩ := ih hgaps hintact
      rw [fillFrom_char h, readingFrom, role_next_fillFrom hsame, hsame.readingFrom_eq, hreading,
        Region.after, hsame.after_eq, hplace, readingFrom, fillMarks_of_ne hm]
      exact ⟨rfl, rfl⟩

end SqlStatement.Sql
