import SqlStatement.Proofs.Sql.Filling
import SqlStatement.Value.Literal
/-!
# Literals are intact

A literal is bare or quoted.  In a bare one, such as a number, every dash stands before a digit;
in a quoted one, every quote and every backslash that the mode reads as an escape is guarded.
Hence every value can fill every gap: `Value.isIntact_literal`.
-/
namespace SqlStatement

variable {mode : EscapeMode}

namespace Sql

def IsBare : List Char → Prop
  | [] => True
  | c :: cs => isBareChar c = true ∧ (c = '-' → ∃ d ds, cs = d :: ds ∧ d.isDigit = true) ∧ IsBare cs

theorem ne_of_isBareChar {c d : Char} (hc : isBareChar c = true) (hd : isBareChar d = false) :
    c ≠ d := by
  rintro rfl
  rw [hc] at hd
  cases hd

theorem isAsciiBlank_of_isBareChar {c : Char} (h : isBareChar c = true) :
    Text.isAsciiBlank c = false := by
  have hne (d : Char) (hd : isBareChar d = false) : (c == d) = false := by
    simpa using ne_of_isBareChar h hd
  simp only [Text.isAsciiBlank, hne ' ' (by decide), hne '\t' (by decide), hne '\n' (by decide),
    hne '\x0c' (by decide), hne '\r' (by decide), Bool.or_false]

private theorem isBareChar_of_isDigit {c : Char} (h : c.isDigit = true) : isBareChar c = true := by
  simp [isBareChar, Char.isAlphanum, h]

private theorem ne_dash_of_isDigit {c : Char} (h : c.isDigit = true) : c ≠ '-' := by
  rintro rfl
  revert h
  decide

private theorem Region.next_bare {c : Char} {cs : List Char} (hc : isBareChar c = true)
    (hdash : c = '-' → ∃ d ds, cs = d :: ds ∧ d.isDigit = true) (rest : List Char) :
    Region.next mode .code c (cs ++ rest) = .code := by
  have hquote : Quote.ofChar? c = none := by
    cases h : Quote.ofChar? c with
    | none => rfl
    | some q =>
      have hq : isBareChar q.char = false := by cases q <;> decide
      exact absurd (Quote.ofChar?_eq_some.1 h) (ne_of_isBareChar hc hq)
  have hline : opensLineComment c (cs ++ rest) = false := by
    by_cases h : c = '-'
    · obtain ⟨d, ds, rfl, hd⟩ := hdash h
      subst h
      apply opensLineComment_dash_of_head_ne
      simpa using ne_dash_of_isDigit hd
    · simp only [opensLineComment, if_neg (ne_of_isBareChar hc (d := '#') (by decide)), if_neg h]
  have hblock : opensBlockComment c (cs ++ rest) = false := by
    simp [opensBlockComment, ne_of_isBareChar hc (d := '/') (by decide)]
  rw [Region.next_code, hquote, hline, hblock]
  rfl

private theorem readingFrom_bare (mode : EscapeMode) {text : List Char} (h : IsBare text)
    (rest : List Char) :
    readingFrom mode .code (text ++ rest) =
        text.map (Prod.mk .code) ++ readingFrom mode .code rest ∧
      Region.after mode .code (text ++ rest) = Region.after mode .code rest := by
  induction text with
  | nil => exact ⟨rfl, rfl⟩
  | cons c cs ih =>
    obtain ⟨hc, hdash, hcs⟩ := h
    obtain ⟨hreading, hplace⟩ := ih hcs
    rw [List.cons_append, readingFrom, Region.after, Region.next_bare hc hdash, hreading, hplace]
    exact ⟨rfl, rfl⟩

private theorem IsBare.isBareChar_of_mem {text : List Char} (h : IsBare text) {c : Char}
    (hc : c ∈ text) : isBareChar c = true := by
  induction text with
  | nil => cases hc
  | cons d ds ih =>
    obtain rfl | hc := List.mem_cons.1 hc
    · exact h.1
    · exact ih h.2.2 hc

private theorem IsBare.opensIntact {text : List Char} (h : IsBare text) (hne : text ≠ []) :
    OpensIntact text := by
  cases text with
  | nil => exact absurd rfl hne
  | cons c cs =>
    obtain ⟨hc, hdash, -⟩ := h
    refine ⟨isAsciiBlank_of_isBareChar hc, ne_of_isBareChar hc (by decide),
      ne_of_isBareChar hc (by decide), ne_of_isBareChar hc (by decide), ?_⟩
    intro h
    obtain ⟨d, ds, hcs, hd⟩ := hdash h
    exact ⟨d, ds, hcs, isAsciiBlank_of_isBareChar (isBareChar_of_isDigit hd)⟩

theorem IsBare.marks {text : List Char} (h : IsBare text) {m : Mark}
    (hm : m ∈ text.map (Prod.mk Role.code)) : m.1 = .code ∧ isBareChar m.2 = true := by
  obtain ⟨c, hc, rfl⟩ := List.mem_map.1 hm
  exact ⟨rfl, h.isBareChar_of_mem hc⟩

private theorem IsBare.isIntact {text : List Char} (h : IsBare text) (mode : EscapeMode)
    (hne : text ≠ []) : IsIntact mode text := by
  apply IsIntact.of_reading (h.opensIntact hne) (readingFrom_bare mode h)
  intro m hm
  exact .inr (h.marks hm)

theorem IsBare.append {first second : List Char} (hfirst : IsBare first) (hsecond : IsBare second) :
    IsBare (first ++ second) := by
  induction first with
  | nil => exact hsecond
  | cons c cs ih =>
    obtain ⟨hc, hdash, hcs⟩ := hfirst
    refine ⟨hc, ?_, ih hcs⟩
    intro h
    obtain ⟨d, ds, rfl, hd⟩ := hdash h
    exact ⟨d, ds ++ second, rfl, hd⟩

private theorem isBare_of_isDigit {text : List Char} (h : ∀ c ∈ text, c.isDigit = true) :
    IsBare text := by
  induction text with
  | nil => trivial
  | cons c cs ih =>
    have hc := h c List.mem_cons_self
    exact ⟨isBareChar_of_isDigit hc, fun hd => absurd hd (ne_dash_of_isDigit hc),
      ih fun d hd => h d (List.mem_cons_of_mem c hd)⟩

end Sql

namespace Number

open Sql

private theorem isBare_natDigits (n : Nat) : IsBare (natDigits n) :=
  isBare_of_isDigit fun _ => isDigit_of_mem_natDigits

private theorem natDigits_ne_nil (n : Nat) : natDigits n ≠ [] :=
  Nat.toDigits_ne_nil

private theorem isBare_dash_natDigits (n : Nat) : IsBare ('-' :: natDigits n) := by
  refine ⟨by decide, ?_, isBare_natDigits n⟩
  intro _
  cases h : natDigits n with
  | nil => exact absurd h (natDigits_ne_nil n)
  | cons d ds => exact ⟨d, ds, rfl, isDigit_of_mem_natDigits (n := n) (by simp [h])⟩

private theorem isBare_intDigits (n : Int) : IsBare (intDigits n) := by
  cases n with
  | ofNat n => exact isBare_natDigits n
  | negSucc n => exact isBare_dash_natDigits (n + 1)

private theorem intDigits_ne_nil (n : Int) : intDigits n ≠ [] := by
  cases n with
  | ofNat n => exact natDigits_ne_nil n
  | negSucc n => exact List.cons_ne_nil _ _

private theorem isDigit_of_mem_zeros {n : Nat} {c : Char} (h : c ∈ List.replicate n '0') :
    c.isDigit = true := by
  rw [List.eq_of_mem_replicate h]
  decide

private theorem isBare_point {text : List Char} (h : IsBare text) : IsBare ('.' :: text) :=
  ⟨by decide, fun h => absurd h (by decide), h⟩

namespace DecimalFormat

def IsUnsigned (text : List Char) : Prop :=
  IsBare text ∧ ∃ d ds, text = d :: ds ∧ d.isDigit = true

private theorem isUnsigned_append (digits : List Char) {rest : List Char} (hne : digits ≠ [])
    (hdigits : ∀ c ∈ digits, c.isDigit = true) (hrest : IsBare rest) :
    IsUnsigned (digits ++ rest) := by
  refine ⟨(isBare_of_isDigit hdigits).append hrest, ?_⟩
  cases digits with
  | nil => exact absurd rfl hne
  | cons d ds => exact ⟨d, ds ++ rest, rfl, hdigits d List.mem_cons_self⟩

private theorem isUnsigned_pointAfter {digits : List Char} (hne : digits ≠ [])
    (hdigits : ∀ c ∈ digits, c.isDigit = true) (whole : Int) :
    IsUnsigned (pointAfter digits whole) := by
  unfold pointAfter
  split
  · refine isUnsigned_append ['0'] (by simp) (by simp) (isBare_point ?_)
    apply isBare_of_isDigit
    intro c hc
    obtain hc | hc := List.mem_append.1 hc
    · exact isDigit_of_mem_zeros hc
    · exact hdigits c hc
  · next hwhole =>
    split
    · rw [List.append_assoc]
      refine isUnsigned_append _ hne hdigits (IsBare.append ?_ ?_)
      · exact isBare_of_isDigit fun c hc => isDigit_of_mem_zeros hc
      · exact isBare_point (isBare_of_isDigit (by simp))
    · refine isUnsigned_append _ ?_ (fun c hc => hdigits c (List.mem_of_mem_take hc))
        (isBare_point (isBare_of_isDigit fun c hc => hdigits c (List.mem_of_mem_drop hc)))
      rw [Ne, List.take_eq_nil_iff]
      rintro (h | h)
      · exact hwhole (Int.toNat_eq_zero.1 h)
      · exact hne h

private theorem isUnsigned_layOut {f : DecimalFormat} (hf : f.plusSign = false) (d : Decimal) :
    IsUnsigned (f.layOut d) := by
  have hdigits : ∀ c ∈ natDigits d.digits, c.isDigit = true := fun _ => isDigit_of_mem_natDigits
  have hne := natDigits_ne_nil d.digits
  unfold layOut
  dsimp only
  split
  · exact isUnsigned_pointAfter hne hdigits _
  · rw [List.append_assoc]
    refine isUnsigned_append _ ?_ (fun c hc => hdigits c (List.mem_of_mem_take hc))
      (IsBare.append ?_ ?_)
    · simp [hne]
    · split
      · exact isBare_point (isBare_of_isDigit fun c hc => hdigits c (List.mem_of_mem_drop hc))
      · trivial
    · simp only [exponentPart, hf, Bool.false_eq_true, and_false, if_false, List.cons_append,
        List.nil_append]
      exact ⟨by decide, fun h => absurd h (by decide), isBare_intDigits _⟩

private theorem isBare_text {f : DecimalFormat} (hf : f.plusSign = false) (x : Double) :
    IsBare (f.text x) ∧ f.text x ≠ [] := by
  have hmagnitude :
      IsUnsigned (if x.isZero then ['0', '.', '0'] else f.layOut (x.shortest f.tie)) := by
    split
    · exact isUnsigned_append ['0'] (by simp) (by simp)
        (isBare_point (isBare_of_isDigit (by simp)))
    · exact isUnsigned_layOut hf _
  obtain ⟨hbare, d, ds, htext, hd⟩ := hmagnitude
  unfold text
  split
  · refine ⟨⟨by decide, fun _ => ⟨d, ds, htext, hd⟩, hbare⟩, List.cons_ne_nil _ _⟩
  · refine ⟨hbare, ?_⟩
    rw [List.nil_append, htext]
    exact List.cons_ne_nil _ _

end DecimalFormat
end Number

namespace Sql

def isPlainChar (c : Char) : Bool :=
  c != '\x27' && c != '\\' && c != '\x00'

private theorem isPlainChar_of_isBareChar {c : Char} (h : isBareChar c = true) :
    isPlainChar c = true := by
  simp [isPlainChar, ne_of_isBareChar h (d := '\x27') (by decide),
    ne_of_isBareChar h (d := '\\') (by decide), ne_of_isBareChar h (d := '\x00') (by decide)]

private theorem isPlainChar_of_isDigit {c : Char} (h : c.isDigit = true) : isPlainChar c = true :=
  isPlainChar_of_isBareChar (isBareChar_of_isDigit h)

private theorem readingFrom_quoteChar (mode : EscapeMode) (c : Char) (rest : List Char) :
    readingFrom mode (.quoted .single) (Value.quoteChar mode c ++ rest) =
        (Value.quoteChar mode c).map (Prod.mk .literal) ++
          readingFrom mode (.quoted .single) rest ∧
      Region.after mode (.quoted .single) (Value.quoteChar mode c ++ rest) =
        Region.after mode (.quoted .single) rest := by
  by_cases hquote : c = '\x27'
  · subst hquote
    cases mode <;> exact ⟨rfl, rfl⟩
  cases mode with
  | plain =>
    have hnext : Region.next .plain (.quoted .single) c rest = .quoted .single := by
      rw [Region.next_quoted, if_neg (by simp), if_neg (show ¬c = Quote.single.char from hquote)]
    simp [Value.quoteChar, hquote, readingFrom, Region.after, hnext, Region.role, Region.kind]
  | backslash =>
    by_cases hslash : c = '\\'
    · subst hslash
      exact ⟨rfl, rfl⟩
    by_cases hnul : c = '\x00'
    · subst hnul
      exact ⟨rfl, rfl⟩
    have hnext : Region.next .backslash (.quoted .single) c rest = .quoted .single := by
      rw [Region.next_quoted, if_neg (by simp [hslash]),
        if_neg (show ¬c = Quote.single.char from hquote)]
    simp [Value.quoteChar, hquote, hslash, hnul, readingFrom, Region.after, hnext, Region.role,
      Region.kind]

private theorem readingFrom_quoteChars (mode : EscapeMode) (chars rest : List Char) :
    readingFrom mode (.quoted .single) (chars.flatMap (Value.quoteChar mode) ++ rest) =
        (chars.flatMap (Value.quoteChar mode)).map (Prod.mk .literal) ++
          readingFrom mode (.quoted .single) rest ∧
      Region.after mode (.quoted .single) (chars.flatMap (Value.quoteChar mode) ++ rest) =
        Region.after mode (.quoted .single) rest := by
  induction chars with
  | nil => exact ⟨rfl, rfl⟩
  | cons c cs ih =>
    have h := readingFrom_quoteChar mode c (cs.flatMap (Value.quoteChar mode) ++ rest)
    rw [List.flatMap_cons, List.append_assoc, h.1, h.2, ih.1, ih.2, List.map_append,
      List.append_assoc]
    exact ⟨rfl, rfl⟩

private theorem readingFrom_closing (mode : EscapeMode) (rest : List Char) :
    readingFrom mode (.quoted .single) ('\x27' :: rest) =
        (.literal, '\x27') :: readingFrom mode .code rest ∧
      Region.after mode (.quoted .single) ('\x27' :: rest) = Region.after mode .code rest := by
  have hsame : SamePlace rest .code (Region.next mode (.quoted .single) '\x27' rest) := by
    rw [Region.next_quoted, if_neg (fun h => absurd h.1 (by decide)),
      if_pos (show '\x27' = Quote.single.char from rfl)]
    by_cases h : rest.head? = some Quote.single.char
    · rw [if_pos h]
      exact .inr ⟨rfl, rfl, h⟩
    · rw [if_neg h]
      exact .inl rfl
  rw [readingFrom, Region.after, hsame.readingFrom_eq, hsame.after_eq]
  exact ⟨rfl, rfl⟩

private theorem readingFrom_quoted (mode : EscapeMode) (chars rest : List Char) :
    readingFrom mode .code (Value.quoted mode chars ++ rest) =
        (Value.quoted mode chars).map (Prod.mk .literal) ++ readingFrom mode .code rest ∧
      Region.after mode .code (Value.quoted mode chars ++ rest) =
        Region.after mode .code rest := by
  have hbody := readingFrom_quoteChars mode chars ('\x27' :: rest)
  have hclose := readingFrom_closing mode rest
  rw [hclose.1, hclose.2] at hbody
  have hsplit : Value.quoted mode chars ++ rest =
      '\x27' :: (chars.flatMap (Value.quoteChar mode) ++ '\x27' :: rest) := by
    simp [Value.quoted]
  rw [hsplit, readingFrom, Region.after,
    show Region.next mode .code '\x27' _ = .quoted .single from rfl, hbody.1, hbody.2]
  simp [Value.quoted, Region.role, Region.kind]

private theorem isIntact_append_quoted (mode : EscapeMode) (first : List Char) (h : IsBare first)
    (chars : List Char) : IsIntact mode (first ++ Value.quoted mode chars) := by
  have hopens : OpensIntact (first ++ Value.quoted mode chars) := by
    by_cases hne : first = []
    · subst hne
      exact ⟨by decide, by decide, by decide, by decide, fun h => absurd h (by decide)⟩
    · exact (h.opensIntact hne).append _
  have hreads (rest : List Char) :
      readingFrom mode .code (first ++ Value.quoted mode chars ++ rest) =
          first.map (Prod.mk .code) ++ (Value.quoted mode chars).map (Prod.mk .literal) ++
            readingFrom mode .code rest ∧
        Region.after mode .code (first ++ Value.quoted mode chars ++ rest) =
          Region.after mode .code rest := by
    have hfirst := readingFrom_bare mode h (Value.quoted mode chars ++ rest)
    have hquoted := readingFrom_quoted mode chars rest
    rw [List.append_assoc, hfirst.1, hfirst.2, hquoted.1, hquoted.2, List.append_assoc]
    exact ⟨rfl, rfl⟩
  apply IsIntact.of_reading hopens hreads
  intro m hm
  obtain hm | hm := List.mem_append.1 hm
  · exact .inr (h.marks hm)
  · obtain ⟨c, -, rfl⟩ := List.mem_map.1 hm
    exact .inl rfl

private theorem quoted_of_isPlainChar (mode : EscapeMode) {chars : List Char}
    (h : ∀ c ∈ chars, isPlainChar c = true) :
    Value.quoted mode chars = '\x27' :: chars ++ ['\x27'] := by
  have hchars : chars.flatMap (Value.quoteChar mode) = chars := by
    induction chars with
    | nil => rfl
    | cons c cs ih =>
      have hc := h c List.mem_cons_self
      simp only [isPlainChar, Bool.and_eq_true, bne_iff_ne] at hc
      obtain ⟨⟨hquote, hslash⟩, hnul⟩ := hc
      have hself : Value.quoteChar mode c = [c] := by
        cases mode <;> simp [Value.quoteChar, hquote, hslash, hnul]
      rw [List.flatMap_cons, hself, ih fun d hd => h d (List.mem_cons_of_mem c hd)]
      rfl
  rw [Value.quoted, hchars]

end Sql

namespace Timestamp

open Sql Number

private theorem isPlainChar_of_mem_paddedDigits {width n : Nat} {c : Char}
    (h : c ∈ paddedDigits width n) : isPlainChar c = true := by
  apply isPlainChar_of_isDigit
  obtain h | h := List.mem_append.1 h
  · exact isDigit_of_mem_zeros h
  · exact isDigit_of_mem_natDigits h

private theorem isPlainChar_of_mem_yearText {year : Int} {c : Char} (h : c ∈ yearText year) :
    isPlainChar c = true := by
  unfold yearText at h
  split at h
  · exact isPlainChar_of_mem_paddedDigits h
  · obtain rfl | h := List.mem_cons.1 h
    · split <;> decide
    · exact isPlainChar_of_mem_paddedDigits h

private theorem isPlainChar_of_mem_fractionText {nanos : Nat} {c : Char}
    (h : c ∈ fractionText nanos) : isPlainChar c = true := by
  have hpoint {width n : Nat} (h : c ∈ '.' :: paddedDigits width n) : isPlainChar c = true := by
    obtain rfl | h := List.mem_cons.1 h
    · decide
    · exact isPlainChar_of_mem_paddedDigits h
  unfold fractionText at h
  split at h
  · cases h
  · split at h
    · exact hpoint h
    · split at h <;> exact hpoint h

private theorem isPlainChar_of_mem_text {t : Timestamp} {c : Char} (h : c ∈ t.text) :
    isPlainChar c = true := by
  simp only [text, List.mem_append, List.mem_cons, or_assoc] at h
  have hpadded {width n : Nat} (h : c ∈ paddedDigits width n) : isPlainChar c = true :=
    isPlainChar_of_mem_paddedDigits h
  rcases h with h | rfl | h | rfl | h | rfl | h | rfl | h | rfl | h | h
  · exact isPlainChar_of_mem_yearText h
  · decide
  · exact hpadded h
  · decide
  · exact hpadded h
  · decide
  · exact hpadded h
  · decide
  · exact hpadded h
  · decide
  · exact hpadded h
  · exact isPlainChar_of_mem_fractionText h

end Timestamp

namespace Value

open Sql

private theorem isPlainChar_of_mem_byteDigits {b : UInt8} {c : Char} (h : c ∈ byteDigits b) :
    isPlainChar c = true := by
  have hdigit : ∀ n < 16, isPlainChar (Nat.digitChar n) = true := by decide
  have hb : b.toNat < 256 := b.toNat_lt
  simp only [byteDigits, List.mem_cons, List.not_mem_nil, or_false] at h
  obtain rfl | rfl := h
  · exact hdigit _ (by omega)
  · exact hdigit _ (by omega)

private theorem hexadecimal_eq (mode : EscapeMode) (bytes : List UInt8) :
    hexadecimal bytes = ['X'] ++ quoted mode (bytes.flatMap byteDigits) := by
  rw [quoted_of_isPlainChar mode]
  · rfl
  · intro c hc
    obtain ⟨b, -, hc⟩ := List.mem_flatMap.1 hc
    exact isPlainChar_of_mem_byteDigits hc

/-- The literal of a value can fill any gap. -/
theorem isIntact_literal (mode : EscapeMode) (v : Value) : IsIntact mode (v.literal mode) := by
  have hword {text : List Char} (h : IsBare text) (hne : text ≠ []) : IsIntact mode text :=
    h.isIntact mode hne
  have hnull : IsIntact mode "NULL".toList := by
    refine hword ?_ (by decide)
    exact ⟨by decide, fun h => absurd h (by decide), by decide, fun h => absurd h (by decide),
      by decide, fun h => absurd h (by decide), by decide, fun h => absurd h (by decide), trivial⟩
  have hmarker : IsBare ['X'] := ⟨by decide, fun h => absurd h (by decide), trivial⟩
  cases v with
  | null => exact hnull
  | int n => exact hword (Number.isBare_intDigits n) (Number.intDigits_ne_nil n)
  | double x =>
    change IsIntact mode (if x.isFinite then doubleFormat.text x else "NULL".toList)
    split
    · obtain ⟨hbare, hne⟩ := Number.DecimalFormat.isBare_text (f := doubleFormat) rfl x
      exact hword hbare hne
    · exact hnull
  | text s => exact isIntact_append_quoted mode [] trivial s.toList
  | bool b => cases b <;> exact hword (isBare_of_isDigit (by simp [literal])) (by simp [literal])
  | timestamp t =>
    rw [literal, ← quoted_of_isPlainChar mode fun c hc => Timestamp.isPlainChar_of_mem_text hc]
    exact isIntact_append_quoted mode [] trivial t.text
  | json v => exact isIntact_append_quoted mode [] trivial v.compact
  | blob bytes =>
    rw [literal, hexadecimal_eq mode]
    exact isIntact_append_quoted mode ['X'] hmarker _
  | stream bytes =>
    rw [literal, hexadecimal_eq mode]
    exact isIntact_append_quoted mode ['X'] hmarker _

end Value

end SqlStatement
