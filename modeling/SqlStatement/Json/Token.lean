/-!
# Tokens of JSON texts

The smallest parts of a JSON text, with numbers and strings as they were written.  Every part
that is taken off a text shortens it, so that `Token.ofText?` comes to an end.
-/
namespace SqlStatement.Json

structure NumberText where
  negative : Bool
  whole : List Char
  fraction : Option (List Char)
  power : Option (Bool × List Char)
deriving DecidableEq, Repr

inductive Token where
  | openArray
  | closeArray
  | openObject
  | closeObject
  | comma
  | colon
  | null
  | bool (b : Bool)
  | number (n : NumberText)
  /-- A string with its escapes as written. -/
  | string (raw : List Char)
deriving DecidableEq, Repr

def isBlank (c : Char) : Bool :=
  c == ' ' || c == '\t' || c == '\n' || c == '\r'

def hexValue? (c : Char) : Option Nat :=
  if c.isDigit then some (c.toNat - '0'.toNat)
  else if 'a' ≤ c ∧ c ≤ 'f' then some (c.toNat - 'a'.toNat + 10)
  else if 'A' ≤ c ∧ c ≤ 'F' then some (c.toNat - 'A'.toNat + 10)
  else none

def isShortEscape (c : Char) : Bool :=
  c == '\x22' || c == '\\' || c == '/' || c == 'b' || c == 'f' || c == 'n' || c == 'r' || c == 't'

/-- The body of a string up to its closing quote, and what follows. -/
def takeString? : List Char → Option (List Char × List Char)
  | [] => none
  | '\\' :: 'u' :: a :: b :: c :: d :: rest =>
    if [a, b, c, d].all fun x => (hexValue? x).isSome then
      (takeString? rest).map fun (body, after) => ('\\' :: 'u' :: a :: b :: c :: d :: body, after)
    else none
  | '\\' :: c :: rest =>
    if isShortEscape c then
      (takeString? rest).map fun (body, after) => ('\\' :: c :: body, after)
    else none
  | c :: rest =>
    if c = '\x22' then some ([], rest)
    else if c = '\\' ∨ c.toNat < 0x20 then none
    else (takeString? rest).map fun (body, after) => (c :: body, after)

def takeDigits? (cs : List Char) : Option (List Char × List Char) :=
  if (cs.takeWhile Char.isDigit).isEmpty then none
  else some (cs.takeWhile Char.isDigit, cs.dropWhile Char.isDigit)

/-- The digits of a whole number: a zero alone, or digits that do not start with a zero. -/
def takeWhole? (cs : List Char) : Option (List Char × List Char) :=
  (takeDigits? cs).filter fun (digits, _) => digits == ['0'] || digits.head? != some '0'

def takeFraction? : List Char → Option (Option (List Char) × List Char)
  | '.' :: cs => (takeDigits? cs).map fun (digits, rest) => (some digits, rest)
  | cs => some (none, cs)

def takeMinus : List Char → Bool × List Char
  | '-' :: cs => (true, cs)
  | cs => (false, cs)

def takeSign : List Char → Bool × List Char
  | '+' :: cs => (false, cs)
  | cs => takeMinus cs

def takePower? : List Char → Option (Option (Bool × List Char) × List Char)
  | [] => some (none, [])
  | c :: cs =>
    if c = 'e' ∨ c = 'E' then
      (takeDigits? (takeSign cs).2).map fun (digits, rest) =>
        (some ((takeSign cs).1, digits), rest)
    else some (none, c :: cs)

def takeNumber? (cs : List Char) : Option (NumberText × List Char) :=
  (takeWhole? (takeMinus cs).2).bind fun (whole, afterWhole) =>
    (takeFraction? afterWhole).bind fun (fraction, afterFraction) =>
      (takePower? afterFraction).map fun (power, rest) =>
        (⟨(takeMinus cs).1, whole, fraction, power⟩, rest)

def Token.take? : List Char → Option (Token × List Char)
  | '[' :: rest => some (.openArray, rest)
  | ']' :: rest => some (.closeArray, rest)
  | '\x7b' :: rest => some (.openObject, rest)
  | '\x7d' :: rest => some (.closeObject, rest)
  | ',' :: rest => some (.comma, rest)
  | ':' :: rest => some (.colon, rest)
  | '\x22' :: rest => (takeString? rest).map fun (raw, rest) => (.string raw, rest)
  | 'n' :: 'u' :: 'l' :: 'l' :: rest => some (.null, rest)
  | 't' :: 'r' :: 'u' :: 'e' :: rest => some (.bool true, rest)
  | 'f' :: 'a' :: 'l' :: 's' :: 'e' :: rest => some (.bool false, rest)
  | cs => (takeNumber? cs).map fun (n, rest) => (.number n, rest)

private theorem length_of_takeString? {cs body rest : List Char}
    (h : takeString? cs = some (body, rest)) : rest.length < cs.length := by
  fun_induction takeString? cs generalizing body rest with
  | case1 => cases h
  | case2 a b c d cs hd ih =>
    obtain ⟨⟨body', rest'⟩, hs, he⟩ := Option.map_eq_some_iff.1 h
    cases he
    have := ih hs
    simp only [List.length_cons]
    omega
  | case3 => cases h
  | case4 c cs _ hc ih =>
    obtain ⟨⟨body', rest'⟩, hs, he⟩ := Option.map_eq_some_iff.1 h
    cases he
    have := ih hs
    simp only [List.length_cons]
    omega
  | case5 => cases h
  | case6 => cases h; simp
  | case7 => cases h
  | case8 c cs _ _ _ _ ih =>
    obtain ⟨⟨body', rest'⟩, hs, he⟩ := Option.map_eq_some_iff.1 h
    cases he
    have := ih hs
    simp only [List.length_cons]
    omega

private theorem takeDigits?_eq_some {cs digits rest : List Char}
    (h : takeDigits? cs = some (digits, rest)) : digits ++ rest = cs ∧ digits ≠ [] := by
  unfold takeDigits? at h
  split at h
  · cases h
  · next hne =>
    cases h
    exact ⟨List.takeWhile_append_dropWhile, by simpa using hne⟩

private theorem length_of_takeDigits? {cs digits rest : List Char}
    (h : takeDigits? cs = some (digits, rest)) : rest.length < cs.length := by
  obtain ⟨rfl, hne⟩ := takeDigits?_eq_some h
  have := List.length_pos_iff.2 hne
  simp only [List.length_append]
  omega

private theorem length_of_takeWhole? {cs digits rest : List Char}
    (h : takeWhole? cs = some (digits, rest)) : rest.length < cs.length :=
  length_of_takeDigits? (Option.filter_eq_some_iff.1 h).1

private theorem length_of_takeFraction? {cs rest : List Char} {fraction : Option (List Char)}
    (h : takeFraction? cs = some (fraction, rest)) : rest.length ≤ cs.length := by
  unfold takeFraction? at h
  split at h
  · obtain ⟨⟨digits, rest'⟩, hd, he⟩ := Option.map_eq_some_iff.1 h
    cases he
    have := length_of_takeDigits? hd
    simp only [List.length_cons]
    omega
  · cases h
    exact Nat.le_refl _

private theorem length_takeMinus_le (cs : List Char) : (takeMinus cs).2.length ≤ cs.length := by
  unfold takeMinus
  split <;> simp

private theorem length_takeSign_le (cs : List Char) : (takeSign cs).2.length ≤ cs.length := by
  unfold takeSign
  split
  · simp
  · exact length_takeMinus_le _

private theorem length_of_takePower? {cs rest : List Char} {power : Option (Bool × List Char)}
    (h : takePower? cs = some (power, rest)) : rest.length ≤ cs.length := by
  unfold takePower? at h
  split at h
  · cases h
    exact Nat.le_refl _
  · next c cs =>
    split at h
    · obtain ⟨⟨digits, rest'⟩, hd, he⟩ := Option.map_eq_some_iff.1 h
      cases he
      have := length_of_takeDigits? hd
      have := length_takeSign_le cs
      simp only [List.length_cons]
      omega
    · cases h
      exact Nat.le_refl _

private theorem length_of_takeNumber? {cs rest : List Char} {n : NumberText}
    (h : takeNumber? cs = some (n, rest)) : rest.length < cs.length := by
  obtain ⟨⟨whole, afterWhole⟩, hw, h⟩ := Option.bind_eq_some_iff.1 h
  obtain ⟨⟨fraction, afterFraction⟩, hf, h⟩ := Option.bind_eq_some_iff.1 h
  obtain ⟨⟨power, afterPower⟩, hp, he⟩ := Option.map_eq_some_iff.1 h
  cases he
  have := length_takeMinus_le cs
  have := length_of_takeWhole? hw
  have := length_of_takeFraction? hf
  have := length_of_takePower? hp
  omega

private theorem Token.length_of_take? {cs rest : List Char} {t : Token}
    (h : Token.take? cs = some (t, rest)) : rest.length < cs.length := by
  unfold Token.take? at h
  split at h
  case h_7 =>
    obtain ⟨⟨raw, rest'⟩, hs, he⟩ := Option.map_eq_some_iff.1 h
    cases he
    have := length_of_takeString? hs
    simp only [List.length_cons]
    omega
  case h_11 =>
    obtain ⟨⟨n, rest'⟩, hn, he⟩ := Option.map_eq_some_iff.1 h
    cases he
    exact length_of_takeNumber? hn
  all_goals
    cases h
    simp only [List.length_cons]
    omega

def Token.ofText? (cs : List Char) : Option (List Token) :=
  if (cs.dropWhile isBlank).isEmpty then some []
  else
    match h : Token.take? (cs.dropWhile isBlank) with
    | none => none
    | some (t, rest) =>
      have : rest.length < cs.length :=
        Nat.lt_of_lt_of_le (Token.length_of_take? h) (List.dropWhile_suffix _).length_le
      (Token.ofText? rest).map (t :: ·)
termination_by cs.length

end SqlStatement.Json
