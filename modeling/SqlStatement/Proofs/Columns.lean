import SqlStatement.ResultSet
/-!
# Columns by name

The index of names is built up column by column and keeps the first column of a name,
`indexOf?_eq_findIdx?`.  So a name leads to the least index of a column that has it, by which the
column is found and the values of rows are.
-/
namespace SqlStatement.RowShape

private theorem getElem?_addName (known : Std.HashMap String Nat) (column : Column × Nat)
    (name : String) :
    (addName known column)[name]? =
      known[name]?.or (if column.1.name = name then some column.2 else none) := by
  rw [addName, Std.HashMap.getElem?_insertIfNew]
  by_cases hname : column.1.name = name
  · subst hname
    cases hknown : known[column.1.name]? with
    | none =>
      have hnew : column.1.name ∉ known := by simpa using hknown
      simp [hnew]
    | some i =>
      have hold : column.1.name ∈ known := by simp [Std.HashMap.mem_iff_isSome_getElem?, hknown]
      simp [hold]
  · simp [hname]

private theorem getElem?_foldl_addName (columns : List Column) (start : Nat)
    (known : Std.HashMap String Nat) (name : String) :
    ((columns.zipIdx start).foldl addName known)[name]? =
      known[name]?.or ((columns.findIdx? fun c => c.name == name).map (start + ·)) := by
  induction columns generalizing start known with
  | nil => simp
  | cons c columns ih =>
    rw [List.zipIdx_cons, List.foldl_cons, ih, getElem?_addName, Option.or_assoc,
      List.findIdx?_cons]
    congr 1
    by_cases hname : c.name = name
    · simp [hname]
    · have hshift (i : Nat) : start + 1 + i = start + (i + 1) := by omega
      simp [hname, hshift, Function.comp_def]

theorem indexOf?_eq_findIdx? (s : RowShape) (name : String) :
    s.indexOf? name = s.columns.findIdx? fun c => c.name == name := by
  have hfold := getElem?_foldl_addName s.columns 0 ∅ name
  simpa [indexOf?, nameIndex] using hfold

private theorem indexOf?_eq_some_iff {s : RowShape} {name : String} {i : Nat} :
    s.indexOf? name = some i ↔ s.names[i]? = some name ∧ ∀ j < i, s.names[j]? ≠ some name := by
  rw [indexOf?_eq_findIdx?, List.findIdx?_eq_some_iff_getElem, names]
  constructor
  · rintro ⟨hlt, hname, hfirst⟩
    refine ⟨by simpa [hlt] using hname, ?_⟩
    intro j hj
    have hj' : j < s.columns.length := Nat.lt_trans hj hlt
    simpa [hj'] using hfirst j hj
  · rintro ⟨hname, hfirst⟩
    obtain ⟨hlt, hname⟩ := List.getElem?_eq_some_iff.1 hname
    rw [List.length_map] at hlt
    refine ⟨hlt, by simpa using hname, ?_⟩
    intro j hj
    have hj' : j < s.columns.length := Nat.lt_trans hj hlt
    simpa [hj'] using hfirst j hj

private theorem indexOf?_eq_none_iff {s : RowShape} {name : String} :
    s.indexOf? name = none ↔ name ∉ s.names := by
  simp [indexOf?_eq_findIdx?, names]

/-- A name leads to the first column that has it, and from there to the values of the rows,
however many columns have the name and however many values the rows have. -/
theorem indexOf?_first (s : RowShape) (name : String) :
    (∀ i, s.indexOf? name = some i ↔
      s.names[i]? = some name ∧ ∀ j < i, s.names[j]? ≠ some name) ∧
    (∀ i, s.indexOf? name = some i →
      (∃ c, s.columns[i]? = some c ∧ c.name = name ∧ s.column? (i + 1) = some c) ∧
        ∀ row : Row, s.value? row name = row[i]?) ∧
    ∀ row : Row, s.value? row name = none ↔
      name ∉ s.names ∨ ∃ i, s.indexOf? name = some i ∧ row.length ≤ i := by
  refine ⟨fun i => indexOf?_eq_some_iff, ?_, ?_⟩
  · intro i hi
    have hname := (indexOf?_eq_some_iff.1 hi).1
    rw [names, List.getElem?_map] at hname
    obtain ⟨c, hc, hname⟩ := Option.map_eq_some_iff.1 hname
    refine ⟨⟨c, hc, hname, by simpa [column?] using hc⟩, ?_⟩
    intro row
    simp [value?, hi]
  · intro row
    cases hi : s.indexOf? name with
    | none =>
      have habsent := indexOf?_eq_none_iff.1 hi
      simp [value?, hi, habsent]
    | some i =>
      have hpresent : name ∈ s.names := List.mem_of_getElem? (indexOf?_eq_some_iff.1 hi).1
      simp [value?, hi, hpresent]

def sameNames : RowShape :=
  ⟨[{ name := "id", typeName := "BIGINT" }, { name := "name", typeName := "VARCHAR" },
    { name := "id", typeName := "INT" }]⟩

/-- A short row has a value for the first of two columns of a name and none for the next name. -/
theorem indexOf?_first_sameNames :
    sameNames.indexOf? "id" = some 0 ∧
      (∃ c, sameNames.column? 1 = some c ∧ c.typeName = "BIGINT") ∧
      sameNames.value? [.int 7] "id" = some (.int 7) ∧
      sameNames.value? [.int 7] "name" = none := by
  obtain ⟨hid, hcolumn, -⟩ := indexOf?_first sameNames "id"
  obtain ⟨hname, -, habsent⟩ := indexOf?_first sameNames "name"
  have hfirst : sameNames.indexOf? "id" = some 0 := (hid 0).2 (by decide)
  have hsecond : sameNames.indexOf? "name" = some 1 := (hname 1).2 (by decide)
  obtain ⟨⟨c, hc, -, hposition⟩, hvalue⟩ := hcolumn 0 hfirst
  cases hc
  exact ⟨hfirst, ⟨_, hposition, rfl⟩, hvalue _, (habsent _).2 (.inr ⟨1, hsecond, by decide⟩)⟩

end SqlStatement.RowShape
