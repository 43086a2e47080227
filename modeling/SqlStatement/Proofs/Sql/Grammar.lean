import SqlStatement.Proofs.Sql.Filling
import SqlStatement.Proofs.Sql.JoinedRows
/-!
# The lexical grammar of SQL text

Strings, identifiers in backticks and comments are the tokens of SQL text, and everything else is
read one character at a time.  The grammar says where each token ends, without regions and without
lookahead.  It reads every text in exactly one way, `reads_iff`, and the question marks that it
finds outside tokens are the gaps of the template, byte for byte.
-/
namespace SqlStatement

namespace Sql

def Quote.Protects (mode : EscapeMode) (q : Quote) : Prop :=
  q ≠ .backtick ∧ mode = .backslash

/-- A quoted text without its opening delimiter, in front of `rest`.  One that is not closed runs
to the end. -/
inductive IsQuotedTail (mode : EscapeMode) (q : Quote) : List Char → List Char → Prop
  | unclosed : IsQuotedTail mode q [] []
  | closed {rest : List Char} (hrest : rest.head? ≠ some q.char) :
      IsQuotedTail mode q [q.char] rest
  | doubled {tail rest : List Char} (h : IsQuotedTail mode q tail rest) :
      IsQuotedTail mode q (q.char :: q.char :: tail) rest
  | escaped {c : Char} {tail rest : List Char} (hq : q.Protects mode)
      (h : IsQuotedTail mode q tail rest) : IsQuotedTail mode q ('\\' :: c :: tail) rest
  | lastBackslash (hq : q.Protects mode) : IsQuotedTail mode q ['\\'] []
  | plain {c : Char} {tail rest : List Char} (hc : c ≠ q.char)
      (hbackslash : q.Protects mode → c ≠ '\\') (h : IsQuotedTail mode q tail rest) :
      IsQuotedTail mode q (c :: tail) rest

inductive IsLineTail : List Char → List Char → Prop
  | closed {line rest : List Char} (hline : '\n' ∉ line) : IsLineTail (line ++ ['\n']) rest
  | unclosed {line : List Char} (hline : '\n' ∉ line) : IsLineTail line []

inductive IsBlockTail : List Char → List Char → Prop
  | closed {inner rest : List Char} (hinner : ¬['*', '/'] <:+: inner ++ ['*']) :
      IsBlockTail (inner ++ ['*', '/']) rest
  | unclosed {inner : List Char} (hinner : ¬['*', '/'] <:+: inner) : IsBlockTail inner []

/-- A string, an identifier in backticks or a comment, in front of `rest`. -/
inductive IsToken (mode : EscapeMode) : List Char → List Char → Prop
  | quoted {q : Quote} {tail rest : List Char} (h : IsQuotedTail mode q tail rest) :
      IsToken mode (q.char :: tail) rest
  | hash {tail rest : List Char} (h : IsLineTail tail rest) : IsToken mode ('#' :: tail) rest
  | dashes {tail rest : List Char} (h : IsLineTail tail rest)
      (hblank : ∀ c, (tail ++ rest).head? = some c → Text.isAsciiBlank c = true) :
      IsToken mode ('-' :: '-' :: tail) rest
  | block {tail rest : List Char} (h : IsBlockTail tail rest) :
      IsToken mode ('/' :: '*' :: tail) rest

def BeginsToken (mode : EscapeMode) (chars : List Char) : Prop :=
  ∃ token rest, chars = token ++ rest ∧ IsToken mode token rest

def byteLength (chars : List Char) : Nat :=
  (String.ofList chars).utf8ByteSize

/-- A text is read from left to right.  It begins at the first offset, and the placeholders that
are met outside tokens stand at the offsets listed. -/
inductive Reads (mode : EscapeMode) : Nat → List Char → List Nat → Prop
  | done {n : Nat} : Reads mode n [] []
  | token {n : Nat} {token rest : List Char} {offsets : List Nat} (htoken : IsToken mode token rest)
      (hrest : Reads mode (n + byteLength token) rest offsets) :
      Reads mode n (token ++ rest) offsets
  | placeholder {n : Nat} {rest : List Char} {offsets : List Nat}
      (hrest : Reads mode (n + byteLength ['?']) rest offsets) :
      Reads mode n ('?' :: rest) (n :: offsets)
  | other {n : Nat} {c : Char} {rest : List Char} {offsets : List Nat} (hc : c ≠ '?')
      (hfree : ¬BeginsToken mode (c :: rest))
      (hrest : Reads mode (n + byteLength [c]) rest offsets) : Reads mode n (c :: rest) offsets

private theorem byteLength_append (first second : List Char) :
    byteLength (first ++ second) = byteLength first + byteLength second := by
  simp [byteLength, String.ofList_append]

private theorem byteLength_cons (c : Char) (chars : List Char) :
    byteLength (c :: chars) = byteLength [c] + byteLength chars :=
  byteLength_append [c] chars

namespace Pieces

def gapOffsets : Nat → List (List Char) → List Nat
  | _, [] => []
  | n, piece :: pieces => n :: gapOffsets (n + byteLength ['?'] + byteLength piece) pieces

def offsetsFrom (n : Nat) (p : Pieces) : List Nat :=
  gapOffsets (n + byteLength p.first) p.rest

/-- Where the placeholders of the joined text stand, in bytes. -/
def offsets (p : Pieces) : List Nat :=
  p.offsetsFrom 0

private theorem length_gapOffsets (n : Nat) (pieces : List (List Char)) :
    (gapOffsets n pieces).length = pieces.length := by
  induction pieces generalizing n with
  | nil => rfl
  | cons piece pieces ih => exact congrArg Nat.succ (ih _)

private theorem offsetsFrom_gap (n : Nat) (p : Pieces) :
    offsetsFrom n ⟨[], p.toList⟩ = n :: p.offsetsFrom (n + byteLength ['?']) := rfl

private theorem offsetsFrom_prepend (n : Nat) (chars : List Char) (p : Pieces) :
    (p.prepend chars).offsetsFrom n = p.offsetsFrom (n + byteLength chars) := by
  rw [offsetsFrom, offsetsFrom, prepend, byteLength_append, Nat.add_assoc]

private theorem offsetsFrom_ofLexemes_append (ls ms : List Lexeme) (n : Nat) :
    (ofLexemes (ls ++ ms)).offsetsFrom n =
      (ofLexemes ls).offsetsFrom n ++
        (ofLexemes ms).offsetsFrom (n + byteLength (Lexeme.text ls)) := by
  induction ls generalizing n with
  | nil => rfl
  | cons l ls ih =>
    rw [List.cons_append, ofLexemes_cons, ofLexemes_cons, Lexeme.text_cons, byteLength_append, cons,
      cons]
    by_cases hl : l.isPlaceholder = true
    · have hchars : l.chars = ['?'] := by
        cases l <;> simp_all [Lexeme.isPlaceholder, Lexeme.chars]
      rw [if_pos hl, if_pos hl, offsetsFrom_gap, offsetsFrom_gap, ih, hchars, List.cons_append,
        Nat.add_assoc]
    · rw [if_neg hl, if_neg hl, offsetsFrom_prepend, offsetsFrom_prepend, ih, Nat.add_assoc]

end Pieces

variable {mode : EscapeMode} {q : Quote} {r r' : Region} {c : Char} {tail rest chars : List Char}

def offsetsFrom (mode : EscapeMode) (r : Region) (n : Nat) (chars : List Char) : List Nat :=
  (Pieces.ofLexemes (lexemesFrom mode r chars)).offsetsFrom n

private theorem offsetsFrom_gap (n : Nat) (rest : List Char) :
    offsetsFrom mode .code n ('?' :: rest) =
      n :: offsetsFrom mode .code (n + byteLength ['?']) rest := by
  have hp := Pieces.ofLexemes_consRole gapMark (lexemesFrom mode .code rest)
  rw [if_pos rfl] at hp
  rw [offsetsFrom, show lexemesFrom mode .code ('?' :: rest) =
    Lexeme.consRole gapMark.1 gapMark.2 (lexemesFrom mode .code rest) from rfl, hp]
  exact Pieces.offsetsFrom_gap n _

private theorem offsetsFrom_char (h : ¬(r = .code ∧ c = '?')) (n : Nat) (rest : List Char) :
    offsetsFrom mode r n (c :: rest) =
      offsetsFrom mode (r.next mode c rest) (n + byteLength [c]) rest := by
  have hm := mt (mark_eq_gapMark_iff mode r c rest).1 h
  have hp := Pieces.ofLexemes_consRole (r.role (r.next mode c rest), c)
    (lexemesFrom mode (r.next mode c rest) rest)
  rw [if_neg hm] at hp
  rw [offsetsFrom, lexemesFrom, hp]
  exact Pieces.offsetsFrom_prepend n [c] _

/-- The search passes the text in front of `rest` without a find, from one region to another. -/
def Passes (mode : EscapeMode) (r r' : Region) (chars rest : List Char) : Prop :=
  ∀ n, offsetsFrom mode r n (chars ++ rest) = offsetsFrom mode r' (n + byteLength chars) rest

namespace Passes

theorem nil (mode : EscapeMode) (r : Region) (rest : List Char) : Passes mode r r [] rest :=
  fun _ => rfl

theorem finish (mode : EscapeMode) (r r' : Region) : Passes mode r r' [] [] :=
  fun _ => rfl

theorem cons (next : Region) (h : ¬(r = .code ∧ c = '?'))
    (hnext : r.next mode c (chars ++ rest) = next) (hpasses : Passes mode next r' chars rest) :
    Passes mode r r' (c :: chars) rest := by
  intro n
  rw [List.cons_append, offsetsFrom_char h, hnext, hpasses, byteLength_cons c chars, Nat.add_assoc]

theorem inside (next : Region) (h : r ≠ .code)
    (hnext : r.next mode c (chars ++ rest) = next) (hpasses : Passes mode next r' chars rest) :
    Passes mode r r' (c :: chars) rest :=
  cons next (fun hc => h hc.1) hnext hpasses

end Passes

private theorem Quote.char_ne_placeholder (q : Quote) : q.char ≠ '?' := by
  cases q <;> decide

private theorem Quote.char_ne_backslash (q : Quote) : q.char ≠ '\\' := by
  cases q <;> decide

private theorem Region.next_quoted_protected (h : q.Protects mode) (rest : List Char) :
    Region.next mode (.quoted q) '\\' rest = .guarded q := by
  rw [Region.next_quoted, if_pos ⟨rfl, h⟩]

private theorem Region.next_quoted_delimiter (rest : List Char) :
    Region.next mode (.quoted q) q.char rest =
      if rest.head? = some q.char then .guarded q else .code := by
  rw [Region.next_quoted, if_neg fun h => q.char_ne_backslash h.1, if_pos rfl]

private theorem Region.next_quoted_plain (hc : c ≠ q.char) (hbackslash : q.Protects mode → c ≠ '\\')
    (rest : List Char) : Region.next mode (.quoted q) c rest = .quoted q := by
  rw [Region.next_quoted, if_neg fun h => hbackslash h.2 h.1, if_neg hc]

private theorem IsQuotedTail.passes (h : IsQuotedTail mode q tail rest) :
    Passes mode (.quoted q) .code tail rest := by
  induction h with
  | unclosed => exact .finish mode _ _
  | closed hrest =>
    refine .inside .code nofun ?_ (.nil mode .code _)
    rw [Region.next_quoted_delimiter]
    exact if_neg hrest
  | doubled _ ih =>
    refine .inside (.guarded q) nofun ?_ (.inside (.quoted q) nofun rfl ih)
    rw [Region.next_quoted_delimiter]
    exact if_pos rfl
  | escaped hq _ ih =>
    exact .inside (.guarded q) nofun (Region.next_quoted_protected hq _)
      (.inside (.quoted q) nofun rfl ih)
  | lastBackslash hq =>
    exact .inside (.guarded q) nofun (Region.next_quoted_protected hq _) (.finish mode _ _)
  | plain hc hbackslash _ ih =>
    exact .inside (.quoted q) nofun (Region.next_quoted_plain hc hbackslash _) ih

private theorem passes_line {line : List Char} (hline : '\n' ∉ line)
    (htail : Passes mode .lineComment .code tail rest) :
    Passes mode .lineComment .code (line ++ tail) rest := by
  induction line with
  | nil => exact htail
  | cons c line ih =>
    obtain ⟨hc, hrest⟩ := not_or.1 (mt List.mem_cons.2 hline)
    exact .inside .lineComment nofun (if_neg fun h => hc h.symm) (ih hrest)

private theorem IsLineTail.passes (h : IsLineTail tail rest) :
    Passes mode .lineComment .code tail rest := by
  cases h with
  | closed h => exact passes_line h (.inside .code nofun rfl (.nil mode .code rest))
  | unclosed h =>
    have hpasses := passes_line h (Passes.finish mode .lineComment .code)
    rwa [List.append_nil] at hpasses

private theorem passes_inner {inner : List Char}
    (hinner : ¬['*', '/'] <:+: inner ++ (tail ++ rest).head?.toList)
    (htail : Passes mode .blockComment .code tail rest) :
    Passes mode .blockComment .code (inner ++ tail) rest := by
  induction inner with
  | nil => exact htail
  | cons c inner ih =>
    rw [List.cons_append, List.infix_cons_iff, not_or] at hinner
    refine .inside .blockComment nofun ?_ (ih hinner.2)
    rw [Region.next_blockComment]
    refine if_neg ?_
    rintro ⟨rfl, hhead⟩
    apply hinner.1
    refine List.cons_prefix_cons.2 ⟨rfl, List.singleton_prefix_iff_head?_eq_some.2 ?_⟩
    cases inner with
    | nil => exact (congrArg (·.toList.head?) hhead).trans rfl
    | cons d inner => exact hhead

private theorem IsBlockTail.passes (h : IsBlockTail tail rest) :
    Passes mode .blockComment .code tail rest := by
  cases h with
  | closed h =>
    refine passes_inner (by simpa using h)
      (.inside .blockCloser nofun ?_ (.inside .code nofun rfl (.nil mode .code _)))
    rw [Region.next_blockComment]
    exact if_pos ⟨rfl, rfl⟩
  | unclosed h =>
    have hpasses := passes_inner (by simpa using h) (Passes.finish mode .blockComment .code)
    rwa [List.append_nil] at hpasses

private theorem Region.next_dash (rest : List Char) :
    Region.next mode .code '-' rest =
      if opensLineComment '-' rest then .lineComment else .code := by
  rw [Region.next_code]
  rfl

private theorem opensLineComment_eq_true :
    opensLineComment c rest = true ↔
      c = '#' ∨ ∃ after, c = '-' ∧ rest = '-' :: after ∧
        ∀ d, after.head? = some d → Text.isAsciiBlank d = true := by
  unfold opensLineComment
  split
  · simp_all
  · split
    · split <;> simp_all [Option.all_eq_true]
    · simp_all

private theorem opensBlockComment_eq_true :
    opensBlockComment c rest = true ↔ c = '/' ∧ ∃ after, rest = '*' :: after := by
  simp [opensBlockComment, List.head?_eq_some_iff]

private theorem IsToken.passes {token : List Char} (h : IsToken mode token rest) :
    Passes mode .code .code token rest := by
  cases h with
  | @quoted q tail _ h =>
    refine .cons (.quoted q) (fun hc => q.char_ne_placeholder hc.2) ?_ h.passes
    rw [Region.next_code, Quote.ofChar?_char]
  | hash h => exact .cons .lineComment (by decide) rfl h.passes
  | dashes h hblank =>
    refine .cons .lineComment (by decide) ?_ (.inside .lineComment nofun rfl h.passes)
    rw [Region.next_dash]
    exact if_pos (opensLineComment_eq_true.2 (.inr ⟨_, rfl, rfl, hblank⟩))
  | block h =>
    exact .cons .blockOpener (by decide) rfl (.inside .blockComment nofun rfl h.passes)

private theorem exists_quotedTail (mode : EscapeMode) (q : Quote) :
    ∀ chars, ∃ tail rest, chars = tail ++ rest ∧ IsQuotedTail mode q tail rest
  | [] => ⟨[], [], rfl, .unclosed⟩
  | c :: rest => by
    by_cases hescape : q.Protects mode ∧ c = '\\'
    · obtain ⟨hq, rfl⟩ := hescape
      cases rest with
      | nil => exact ⟨['\\'], [], rfl, .lastBackslash hq⟩
      | cons d after =>
        obtain ⟨tail, rest, rfl, h⟩ := exists_quotedTail mode q after
        exact ⟨'\\' :: d :: tail, rest, rfl, .escaped hq h⟩
    · by_cases hc : c = q.char
      · subst hc
        by_cases hrest : rest.head? = some q.char
        · obtain ⟨after, rfl⟩ := List.head?_eq_some_iff.1 hrest
          obtain ⟨tail, rest, rfl, h⟩ := exists_quotedTail mode q after
          exact ⟨q.char :: q.char :: tail, rest, rfl, .doubled h⟩
        · exact ⟨[q.char], rest, rfl, .closed hrest⟩
      · obtain ⟨tail, rest, rfl, h⟩ := exists_quotedTail mode q rest
        exact ⟨c :: tail, rest, rfl, .plain hc (fun hq hb => hescape ⟨hq, hb⟩) h⟩

private theorem exists_lineTail (chars : List Char) :
    ∃ tail rest, chars = tail ++ rest ∧ IsLineTail tail rest := by
  by_cases h : '\n' ∈ chars
  · obtain ⟨line, rest, rfl, hline⟩ := List.eq_append_cons_of_mem h
    exact ⟨line ++ ['\n'], rest, by simp, .closed hline⟩
  · exact ⟨chars, [], by simp, .unclosed h⟩

private theorem exists_blockTail (chars : List Char) :
    ∃ tail rest, chars = tail ++ rest ∧ IsBlockTail tail rest := by
  induction chars with
  | nil => exact ⟨[], [], rfl, .unclosed (by simp)⟩
  | cons c chars ih =>
    by_cases hc : ['*', '/'] <+: c :: chars
    · obtain ⟨rest, hrest⟩ := hc
      exact ⟨['*', '/'], rest, hrest.symm, @IsBlockTail.closed [] rest (by decide)⟩
    · obtain ⟨tail, rest, rfl, h⟩ := ih
      refine ⟨c :: tail, rest, rfl, ?_⟩
      cases h with
      | @closed inner _ h =>
        refine @IsBlockTail.closed (c :: inner) _ ?_
        rw [List.cons_append, List.infix_cons_iff, not_or]
        refine ⟨fun hcloses => hc (hcloses.trans ?_), h⟩
        exact ⟨'/' :: rest, by simp⟩
      | unclosed h =>
        refine .unclosed ?_
        rw [List.infix_cons_iff, not_or]
        exact ⟨by simpa using hc, h⟩

/-- Where the search leaves the code, the grammar begins a token. -/
theorem beginsToken_of_next (h : Region.next mode .code c rest ≠ .code) :
    BeginsToken mode (c :: rest) := by
  rw [Region.next_code] at h
  cases hq : Quote.ofChar? c with
  | some q =>
    obtain rfl := Quote.ofChar?_eq_some.1 hq
    obtain ⟨tail, rest, rfl, htail⟩ := exists_quotedTail mode q rest
    exact ⟨q.char :: tail, rest, rfl, .quoted htail⟩
  | none =>
    rw [hq] at h
    by_cases hline : opensLineComment c rest = true
    · obtain rfl | ⟨after, rfl, rfl, hblank⟩ := opensLineComment_eq_true.1 hline
      · obtain ⟨tail, rest, rfl, htail⟩ := exists_lineTail rest
        exact ⟨'#' :: tail, rest, rfl, .hash htail⟩
      · obtain ⟨tail, rest, rfl, htail⟩ := exists_lineTail after
        exact ⟨'-' :: '-' :: tail, rest, rfl, .dashes htail hblank⟩
    · by_cases hblock : opensBlockComment c rest = true
      · obtain ⟨rfl, after, rfl⟩ := opensBlockComment_eq_true.1 hblock
        obtain ⟨tail, rest, rfl, htail⟩ := exists_blockTail after
        exact ⟨'/' :: '*' :: tail, rest, rfl, .block htail⟩
      · simp [hline, hblock] at h

private theorem IsToken.length_pos {token : List Char} (h : IsToken mode token rest) :
    0 < token.length := by
  cases h <;> exact Nat.succ_pos _

private theorem exists_reads (mode : EscapeMode) (n : Nat) (chars : List Char) :
    ∃ offsets, Reads mode n chars offsets := by
  induction hlength : chars.length using Nat.strongRecOn generalizing n chars with
  | _ length ih =>
    cases chars with
    | nil => exact ⟨[], .done⟩
    | cons c rest =>
      have hread (m : Nat) (after : List Char) (hafter : after.length ≤ rest.length) :
          ∃ offsets, Reads mode m after offsets :=
        ih after.length (by simp_all; omega) m after rfl
      by_cases hbegins : BeginsToken mode (c :: rest)
      · obtain ⟨token, after, heq, htoken⟩ := hbegins
        have hlonger := congrArg List.length heq
        have hne := htoken.length_pos
        rw [List.length_cons, List.length_append] at hlonger
        obtain ⟨offsets, h⟩ := hread (n + byteLength token) after (by omega)
        exact ⟨offsets, heq ▸ .token htoken h⟩
      · obtain ⟨offsets, h⟩ := hread (n + byteLength [c]) rest (Nat.le_refl _)
        by_cases hc : c = '?'
        · subst hc
          exact ⟨n :: offsets, .placeholder h⟩
        · exact ⟨offsets, .other hc hbegins h⟩

private theorem Reads.offsets_eq {n : Nat} {offsets : List Nat} (h : Reads mode n chars offsets) :
    offsets = offsetsFrom mode .code n chars := by
  induction h with
  | done => rfl
  | token htoken _ ih => rw [ih, htoken.passes]
  | placeholder _ ih => rw [ih, offsetsFrom_gap]
  | other hc hfree _ ih =>
    rw [ih, offsetsFrom_char fun h => hc h.2, Classical.not_not.1 (mt beginsToken_of_next hfree)]

theorem reads_iff {n : Nat} {offsets : List Nat} :
    Reads mode n chars offsets ↔ offsets = offsetsFrom mode .code n chars := by
  constructor
  · exact Reads.offsets_eq
  · rintro rfl
    obtain ⟨offsets, h⟩ := exists_reads mode n chars
    exact h.offsets_eq ▸ h

theorem RowLayout.offsets_of_ofLexemes? {ls : List Lexeme} {layout : RowLayout}
    (h : ofLexemes? ls = some layout) :
    layout.lead ++ layout.row.join ++ layout.trail = Lexeme.text ls ∧
      layout.row.offsetsFrom (byteLength layout.lead) = (Pieces.ofLexemes ls).offsets := by
  obtain ⟨lead, row, trail, rfl, hlead, htrail, rfl⟩ := ofLexemes?_eq_some h
  constructor
  · rw [Pieces.join_ofLexemes, Lexeme.text_append, Lexeme.text_append]
  · rw [Pieces.offsets, List.append_assoc, Pieces.offsetsFrom_ofLexemes_append,
      Pieces.offsetsFrom_ofLexemes_append, Pieces.ofLexemes_of_no_placeholder hlead,
      Pieces.ofLexemes_of_no_placeholder htrail, Nat.zero_add]
    exact (List.append_nil _).symm

end Sql

namespace Template

/-- A template is cut at the question marks that the lexical grammar finds outside tokens, and at
no other place; where it has a layout, that is cut at the same places. -/
theorem offsets_by_grammar (sql : String) (mode : EscapeMode) (joinRows : Bool) :
    (∀ offsets, Sql.Reads mode 0 sql.toList offsets ↔
      offsets = (compile sql mode joinRows).pieces.offsets) ∧
    (compile sql mode joinRows).pieces.join = sql.toList ∧
    (compile sql mode joinRows).paramCount = (compile sql mode joinRows).pieces.offsets.length ∧
    ∀ layout, (compile sql mode joinRows).layout = some layout →
      layout.lead ++ layout.row.join ++ layout.trail = sql.toList ∧
      layout.row.offsetsFrom (Sql.byteLength layout.lead) =
        (compile sql mode joinRows).pieces.offsets := by
  refine ⟨fun offsets => Sql.reads_iff, ?_, (Sql.Pieces.length_gapOffsets _ _).symm, ?_⟩
  · exact (Sql.Pieces.join_ofLexemes _).trans (Sql.text_lexemes mode sql.toList)
  · intro layout hlayout
    obtain ⟨hjoin, hoffsets⟩ := Sql.RowLayout.offsets_of_ofLexemes? (ofLexemes?_of_layout hlayout)
    exact ⟨hjoin.trans (Sql.text_lexemes mode sql.toList), hoffsets⟩

/-- A comment that a slash cannot close at once, a doubled delimiter, a character of two bytes and
two dashes at the end. -/
theorem offsets_by_grammar_hidden :
    ∃ layout, (compile "insert into é values (?, '?''?', /*/?*/ ?) --" .backslash true).layout =
        some layout ∧
      layout.row.offsetsFrom (Sql.byteLength layout.lead) = [23, 41] ∧
      Sql.Reads .backslash 0 "insert into é values (?, '?''?', /*/?*/ ?) --".toList [23, 41] := by
  obtain ⟨hreads, -, -, hlayout⟩ :=
    offsets_by_grammar "insert into é values (?, '?''?', /*/?*/ ?) --" .backslash true
  refine ⟨⟨"insert into é values ".toList,
    ⟨"(".toList, [", '?''?', /*/?*/ ".toList, ")".toList]⟩, " --".toList⟩, by decide, ?_, ?_⟩
  · exact ((hlayout _ (by decide)).2).trans (by decide)
  · exact (hreads _).2 (by decide)

end Template
end SqlStatement
