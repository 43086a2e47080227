import SqlStatement.Proofs.Sql.Filling
import SqlStatement.Proofs.Sql.SingleRow
/-!
# Groups are read apart

The lookahead never reaches past a parenthesis in code.  So what is read in front of one does not
depend on what follows it, and a group is read in the same way wherever it stands.
-/
namespace SqlStatement.Sql

variable {mode : EscapeMode}

/-- A character that ends words and, in code, opens nothing, whatever follows it. -/
structure IsFence (c : Char) : Prop where
  ends_word : Text.isWordChar c = false
  stays : ∀ mode rest, Region.next mode .code c rest = .code

theorem isFence_open : IsFence '(' :=
  ⟨by decide, fun _ _ => rfl⟩

theorem isFence_close : IsFence ')' :=
  ⟨by decide, fun _ _ => rfl⟩

theorem IsFence.ne_dash {c : Char} (h : IsFence c) : c ≠ '-' := by
  rintro rfl
  exact absurd (h.stays .plain ['-']) (by decide)

private theorem head_append_cons (xs : List Char) (c : Char) (ys zs : List Char) :
    (xs ++ c :: ys).head? = (xs ++ c :: zs).head? := by
  cases xs <;> rfl

private theorem IsFence.opensLineComment_eq {c : Char} (hc : IsFence c) (x : Char)
    (xs ys zs : List Char) :
    opensLineComment x (xs ++ c :: ys) = opensLineComment x (xs ++ c :: zs) := by
  by_cases hx : x = '-'
  · subst hx
    cases xs with
    | nil =>
      rw [opensLineComment_dash_of_head_ne (by simpa using hc.ne_dash),
        opensLineComment_dash_of_head_ne (by simpa using hc.ne_dash)]
    | cons d ds =>
      by_cases hd : d = '-'
      · subst hd
        exact congrArg (Option.all Text.isAsciiBlank) (head_append_cons ds c ys zs)
      · rw [opensLineComment_dash_of_head_ne (by simpa using hd),
          opensLineComment_dash_of_head_ne (by simpa using hd)]
  · simp only [opensLineComment, if_neg hx]

private theorem IsFence.next_eq {c : Char} (hc : IsFence c) (r : Region) (x : Char)
    (xs ys zs : List Char) :
    r.next mode x (xs ++ c :: ys) = r.next mode x (xs ++ c :: zs) := by
  have hhead := head_append_cons xs c ys zs
  cases r with
  | code =>
    rw [Region.next_code, Region.next_code, hc.opensLineComment_eq x xs ys zs,
      opensBlockComment, opensBlockComment, hhead]
  | quoted q => rw [Region.next_quoted, Region.next_quoted, hhead]
  | blockComment => rw [Region.next_blockComment, Region.next_blockComment, hhead]
  | guarded q | lineComment | blockOpener | blockCloser => rfl

/-- What is read in front of a fence does not depend on what follows it, and behind it reading
starts anew. -/
theorem readingFrom_fence {c : Char} (hc : IsFence c) {r : Region} {ms ns : List Mark}
    {behind : List Char}
    (h : readingFrom mode r (ms.map Prod.snd ++ c :: behind) = ms ++ (.code, c) :: ns)
    (rest : List Char) :
    readingFrom mode r (ms.map Prod.snd ++ c :: rest) =
      ms ++ (.code, c) :: readingFrom mode .code rest := by
  induction ms generalizing r with
  | nil =>
    have hrole : r.role (r.next mode c behind) = .code := (Prod.mk.inj (List.cons.inj h).1).1
    have hr : r = .code := by
      cases r with
      | code => rfl
      | _ => cases hrole
    subst hr
    rw [List.map_nil, List.nil_append, List.nil_append, readingFrom, hc.stays mode rest]
    rfl
  | cons m ms ih =>
    rw [List.map_cons, List.cons_append, List.cons_append, readingFrom] at h ⊢
    obtain ⟨hm, hrest⟩ := List.cons.inj h
    rw [hc.next_eq r m.2 _ behind rest] at hm hrest
    rw [hm, ih hrest]

private theorem lexemes_fence {c : Char} (hc : IsFence c) {ls ms : List Lexeme} {behind : List Char}
    (h : lexemes mode (Lexeme.text ls ++ c :: behind) = ls ++ .symbol c :: ms)
    (rest : List Char) :
    lexemes mode (Lexeme.text ls ++ c :: rest) = ls ++ .symbol c :: lexemes mode rest := by
  obtain ⟨hwords, hmarks⟩ := lexemes_iff.1 h.symm
  rw [List.flatMap_append, ← Lexeme.map_snd_marks] at hmarks
  have hreading := readingFrom_fence hc hmarks.symm rest
  rw [← Lexeme.map_snd_marks, lexemes_eq_lexemesOf, hreading, lexemesOf_symbol hc.ends_word,
    hwords.of_append.lexemesOf_marks, ← lexemes_eq_lexemesOf]

private theorem lexemes_comma (rest : List Char) :
    lexemes mode (',' :: rest) = .symbol ',' :: lexemes mode rest := rfl

/-- A group is read alone as it is read anywhere. -/
theorem lexemes_append_of_isGroup {text : List Char} (h : IsGroup (lexemes mode text))
    (rest : List Char) : lexemes mode (text ++ rest) = lexemes mode text ++ lexemes mode rest := by
  obtain ⟨inner, hgroup⟩ := h.delimited
  have htext : text = Lexeme.text (.symbol '(' :: inner) ++ [')'] := by
    rw [← text_lexemes mode text, hgroup, Lexeme.text_append]
    rfl
  have hclose : lexemes mode (Lexeme.text (.symbol '(' :: inner) ++ [')']) =
      .symbol '(' :: inner ++ [.symbol ')'] := by rw [← htext, hgroup]
  have happend := lexemes_fence isFence_close hclose rest
  rw [hgroup, htext, List.append_assoc, List.singleton_append, happend, List.append_assoc]
  rfl

private theorem lexemes_rows {groups : List (List Char)}
    (h : ∀ g ∈ groups, IsGroup (lexemes mode g)) (rest : List Char) :
    lexemes mode (groups.flatMap (',' :: ·) ++ rest) =
      (groups.map (lexemes mode)).flatMap (.symbol ',' :: ·) ++ lexemes mode rest := by
  induction groups with
  | nil => rfl
  | cons g gs ih =>
    obtain ⟨hg, hgs⟩ := List.forall_mem_cons.1 h
    rw [List.flatMap_cons, List.append_assoc, List.cons_append, lexemes_comma,
      lexemes_append_of_isGroup hg, ih hgs, List.map_cons, List.flatMap_cons, List.append_assoc,
      List.cons_append]

theorem lexemes_around_group {lead row trail : List Lexeme} (hgroup : IsGroup row)
    (h : lexemes mode (Lexeme.text (lead ++ row ++ trail)) = lead ++ row ++ trail) :
    lexemes mode (Lexeme.text row) = row ∧ lexemes mode (Lexeme.text trail) = trail ∧
      ∀ rest,
        lexemes mode (Lexeme.text lead ++ '(' :: rest) = lead ++ lexemes mode ('(' :: rest) := by
  obtain ⟨inner, rfl⟩ := hgroup.delimited
  have hopen : lexemes mode (Lexeme.text lead ++ '(' ::
      (Lexeme.text inner ++ ')' :: Lexeme.text trail)) =
      lead ++ .symbol '(' :: (inner ++ .symbol ')' :: trail) := by
    simpa [Lexeme.chars] using h
  have hlead := lexemes_fence isFence_open hopen
  have hinside : lexemes mode (Lexeme.text (.symbol '(' :: inner) ++ ')' :: Lexeme.text trail) =
      .symbol '(' :: inner ++ .symbol ')' :: trail :=
    List.append_cancel_left ((hlead _).symm.trans hopen)
  have hclose := lexemes_fence isFence_close hinside
  refine ⟨?_, ?_, hlead⟩
  · have hrow := hclose []
    simpa [Lexeme.chars, lexemes, lexemesFrom] using hrow
  · have hall := (hclose _).symm.trans hinside
    simpa using hall

theorem lexemes_joined {lead row trail : List Lexeme} (hgroup : IsGroup row)
    (h : lexemes mode (Lexeme.text (lead ++ row ++ trail)) = lead ++ row ++ trail)
    {group : List Char} {groups : List (List Char)}
    (hgroups : ∀ g ∈ group :: groups, IsGroup (lexemes mode g)) :
    lexemes mode (Lexeme.text lead ++ (group ++ groups.flatMap (',' :: ·)) ++ Lexeme.text trail) =
      lead ++ lexemes mode group ++
        ((groups.map (lexemes mode)).flatMap (.symbol ',' :: ·) ++ trail) := by
  obtain ⟨-, htrail, hlead⟩ := lexemes_around_group hgroup h
  obtain ⟨hfirst, hothers⟩ := List.forall_mem_cons.1 hgroups
  obtain ⟨inner, hinner⟩ := hfirst.delimited
  have hopen : group = '(' :: Lexeme.text (inner ++ [.symbol ')']) := by
    rw [← text_lexemes mode group, hinner]
    rfl
  have hcut := hlead (Lexeme.text (inner ++ [.symbol ')']) ++
    (groups.flatMap (',' :: ·) ++ Lexeme.text trail))
  rw [← List.cons_append, ← hopen] at hcut
  rw [List.append_assoc, List.append_assoc, hcut, lexemes_append_of_isGroup hfirst,
    lexemes_rows hothers, htrail, List.append_assoc]

end SqlStatement.Sql
