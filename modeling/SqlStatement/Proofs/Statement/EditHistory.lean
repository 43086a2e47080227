import Mathlib.Data.List.Forall2
import SqlStatement.Proofs.Statement.Frame
/-!
# Histories of edits

What a statement has bound, queued and announced can be read off the edits that it accepted, the
earliest first.  The definitions here look back from the end of such a history; a statement that
agrees with them, `Statement.Recalls`, agrees with them after every further edit.
-/
namespace SqlStatement

theorem exists_cut_append_iff {α : Type} {P : List α → α → Prop} {Q : α → Prop} {l : List α}
    {x : α} :
    (∃ earlier y later, l ++ [x] = earlier ++ y :: later ∧ P earlier y ∧ ∀ z ∈ later, Q z) ↔
      P l x ∨ Q x ∧ ∃ earlier y later, l = earlier ++ y :: later ∧ P earlier y ∧
        ∀ z ∈ later, Q z := by
  constructor
  · rintro ⟨earlier, y, later, hcut, hy, hlater⟩
    rcases List.eq_nil_or_concat later with rfl | ⟨before, last, rfl⟩
    · obtain ⟨rfl, hx⟩ := List.append_inj' hcut rfl
      cases hx
      exact .inl hy
    · rw [List.concat_eq_append] at hcut hlater
      rw [← List.cons_append, ← List.append_assoc] at hcut
      obtain ⟨rfl, hx⟩ := List.append_inj' hcut rfl
      cases hx
      obtain ⟨hbefore, hlast⟩ := List.forall_mem_append.1 hlater
      exact .inr ⟨hlast x (List.mem_singleton_self x), earlier, y, before, rfl, hy, hbefore⟩
  · rintro (hx | ⟨hx, earlier, y, later, rfl, hy, hlater⟩)
    · exact ⟨l, x, [], rfl, hx, List.forall_mem_nil _⟩
    · refine ⟨earlier, y, later ++ [x], by simp, hy, ?_⟩
      exact List.forall_mem_append.2 ⟨hlater, List.forall_mem_singleton.2 hx⟩

namespace Edit

/-- An edit of the first kind was made, and none of the second kind since then. -/
def Lasts (made undone : Edit → Prop) (edits : List Edit) : Prop :=
  ∃ earlier e later, edits = earlier ++ e :: later ∧ made e ∧ ∀ x ∈ later, ¬undone x

/-- The value is the latest one set at the index after all values were last cleared. -/
def IsBound (edits : List Edit) (index : Nat) (v : Value) : Prop :=
  Lasts (· = .setValue index v) (fun e => e = .clearValues ∨ ∃ w, e = .setValue index w) edits

/-- Long data was set since the queue was last cleared. -/
def HasLongData (edits : List Edit) : Prop :=
  Lasts (fun e => ∃ index v, e = .setValue index v ∧ v.isLongData = true) (· = .clearBatch) edits

def isAddBatch : Edit → Bool
  | .addBatch => true
  | _ => false

def isClearBatch : Edit → Bool
  | .clearBatch => true
  | _ => false

/-- For each row added since the queue was last cleared, the edits that went before it. -/
def queuedAfter (edits : List Edit) : List (List Edit) :=
  ((List.range edits.length).filter fun k =>
    edits[k]?.any isAddBatch && !(edits.drop (k + 1)).any isClearBatch).map fun k => edits.take k

/-- The row has a value for each placeholder, the one that is bound there. -/
structure IsCopy (count : Nat) (edits : List Edit) (row : Row) : Prop where
  length : row.length = count
  values : ∀ i v, row[i]? = some v ↔ IsBound edits (i + 1) v

variable {edits : List Edit} {e : Edit} {made undone : Edit → Prop}

private theorem not_lasts_nil : ¬Lasts made undone [] := by
  rintro ⟨earlier, e, later, hedits, -⟩
  cases earlier <;> cases hedits

private theorem lasts_append_iff :
    Lasts made undone (edits ++ [e]) ↔ made e ∨ ¬undone e ∧ Lasts made undone edits :=
  exists_cut_append_iff

private theorem isBound_append_iff {index : Nat} {v : Value} :
    IsBound (edits ++ [e]) index v ↔ e = .setValue index v ∨
      ¬(e = .clearValues ∨ ∃ w, e = .setValue index w) ∧ IsBound edits index v :=
  lasts_append_iff

private theorem isBound_append_of_ne (hclear : e ≠ .clearValues)
    (hset : ∀ index v, e ≠ .setValue index v) (index : Nat) (v : Value) :
    IsBound (edits ++ [e]) index v ↔ IsBound edits index v := by
  simp [isBound_append_iff, hclear, hset]

private theorem hasLongData_append_iff :
    HasLongData (edits ++ [e]) ↔ (∃ index v, e = .setValue index v ∧ v.isLongData = true) ∨
      e ≠ .clearBatch ∧ HasLongData edits :=
  lasts_append_iff

private theorem queuedAfter_append (edits : List Edit) (e : Edit) :
    queuedAfter (edits ++ [e]) = (if e.isClearBatch then [] else queuedAfter edits) ++
      if e.isAddBatch then [edits] else [] := by
  have hearlier : ((List.range edits.length).filter fun k => (edits ++ [e])[k]?.any isAddBatch &&
        !((edits ++ [e]).drop (k + 1)).any isClearBatch).map (fun k => (edits ++ [e]).take k) =
      if e.isClearBatch then [] else queuedAfter edits := by
    have hkept : ∀ k ∈ List.range edits.length, ((edits ++ [e])[k]?.any isAddBatch &&
          !((edits ++ [e]).drop (k + 1)).any isClearBatch) =
        (!e.isClearBatch && (edits[k]?.any isAddBatch &&
          !(edits.drop (k + 1)).any isClearBatch)) := by
      intro k hk
      rw [List.mem_range] at hk
      rw [List.getElem?_append_left hk, List.drop_append_of_le_length hk, List.any_append,
        List.any_cons, List.any_nil, Bool.or_false, Bool.not_or]
      cases e.isClearBatch <;> simp
    rw [List.filter_congr hkept]
    cases e.isClearBatch with
    | true => simp
    | false =>
      simp only [Bool.not_false, Bool.true_and, Bool.false_eq_true, if_false]
      apply List.map_congr_left
      intro k hk
      have hlt : k < edits.length := List.mem_range.1 (List.mem_filter.1 hk).1
      rw [List.take_append_of_le_length (Nat.le_of_lt hlt)]
  rw [← hearlier, queuedAfter, List.length_append, List.length_singleton, List.range_succ,
    List.filter_append, List.map_append]
  congr 1
  cases hadd : e.isAddBatch <;> simp [hadd]

end Edit

namespace Statement

variable {st st' : Statement} {edits : List Edit} {e : Edit}

private theorem value?_succ (st : Statement) (i : Nat) :
    st.value?
    (i + 1) = st.slots[i]?.join := rfl

private theorem value?_set {index : Nat} (hindex : 1 ≤ index ∧ index ≤ st.slots.length) (v : Value)
    (longData : Bool) (i : Nat) :
    value? { st with slots := st.slots.set (index - 1) (some v), longData } i =
      if index = i then some v else st.value? i := by
  cases i with
  | zero => rw [if_neg (by omega), value?, value?, if_pos rfl, if_pos rfl]
  | succ i =>
    rw [value?_succ, value?_succ, List.getElem?_set]
    by_cases hi : index = i + 1
    · rw [if_pos (by omega), if_pos (by omega), if_pos hi]
      rfl
    · rw [if_neg (by omega), if_neg hi]

private theorem value?_of_unset (h : ∀ slot ∈ st.slots, slot = none) (i : Nat) :
    st.value? i = none := by
  cases i with
  | zero => rfl
  | succ i =>
    rw [value?_succ]
    cases hslot : st.slots[i]? with
    | none => rfl
    | some slot => rw [h slot (List.mem_of_getElem? hslot), Option.join_some]

structure Recalls (st : Statement) (edits : List Edit) : Prop where
  values : ∀ index v, st.value? index = some v ↔ Edit.IsBound edits index v
  queue : List.Forall₂ (Edit.IsCopy st.slots.length) (Edit.queuedAfter edits) st.queue
  longData : st.longData = true ↔ Edit.HasLongData edits

theorem recalls_nil (hslots : ∀ slot ∈ st.slots, slot = none) (hqueue : st.queue = [])
    (hlongData : st.longData = false) : st.Recalls [] where
  values index v := by
    rw [value?_of_unset hslots]
    exact iff_of_false nofun Edit.not_lasts_nil
  queue := by
    rw [hqueue]
    exact .nil
  longData := by
    rw [hlongData]
    exact iff_of_false nofun Edit.not_lasts_nil

theorem Recalls.congr (h : st.Recalls edits)
    (hsame : st'.slots = st.slots ∧ st'.queue = st.queue ∧ st'.longData = st.longData) :
    st'.Recalls edits := by
  obtain ⟨hslots, hqueue, hlongData⟩ := hsame
  constructor
  · intro index v
    rw [value?, hslots]
    exact h.values index v
  · rw [hslots, hqueue]
    exact h.queue
  · rw [hlongData]
    exact h.longData

private theorem Recalls.isCopy (h : st.Recalls edits) {row : Row} (hrow : st.slots = row.map some) :
    Edit.IsCopy st.slots.length edits row where
  length := by rw [hrow, List.length_map]
  values i v := by
    rw [← h.values, value?_succ, hrow, List.getElem?_map]
    cases row[i]? <;> simp

/-- An accepted edit leaves what the longer history says. -/
theorem Recalls.edited (h : st.Recalls edits) (hlength : st.slots.length = st.template.paramCount)
    (hedited : st.Edited e st') : st'.Recalls (edits ++ [e]) := by
  cases hedited with
  | @valueSet index v hindex =>
    constructor
    · intro i w
      rw [value?_set hindex, Edit.isBound_append_iff, ← h.values]
      by_cases hi : index = i
      · simp [hi]
      · simp [hi]
    · simpa [Edit.queuedAfter_append, Edit.isClearBatch, Edit.isAddBatch] using h.queue
    · simp [Edit.hasLongData_append_iff, ← h.longData, or_comm]
  | valuesCleared =>
    constructor
    · intro i w
      rw [value?_of_unset (by simp), Edit.isBound_append_iff]
      simp
    · simpa [Edit.queuedAfter_append, Edit.isClearBatch, Edit.isAddBatch, ← hlength] using h.queue
    · simpa [Edit.hasLongData_append_iff] using h.longData
  | @queued row hrow =>
    constructor
    · intro i w
      rw [Edit.isBound_append_of_ne (by simp) (by simp)]
      exact h.values i w
    · rw [Edit.queuedAfter_append]
      exact List.rel_append h.queue (.cons (h.isCopy hrow) .nil)
    · simpa [Edit.hasLongData_append_iff] using h.longData
  | queueCleared =>
    constructor
    · intro i w
      rw [Edit.isBound_append_of_ne (by simp) (by simp)]
      exact h.values i w
    · simp [Edit.queuedAfter_append, Edit.isClearBatch, Edit.isAddBatch]
    · simp [Edit.hasLongData_append_iff]
  | timeoutSet | fetchSizeSet | continueBatchSet =>
    constructor
    · intro i w
      rw [Edit.isBound_append_of_ne (by simp) (by simp)]
      exact h.values i w
    · simpa [Edit.queuedAfter_append, Edit.isClearBatch, Edit.isAddBatch] using h.queue
    · simpa [Edit.hasLongData_append_iff] using h.longData

theorem isSome_edit?_setValue_iff (hopen : st.closed = false) (index : Nat) (v : Value) :
    (st.edit? (.setValue index v)).toOption.isSome = true ↔
      1 ≤ index ∧ index ≤ st.slots.length := by
  rw [edit?, setValue, guardOpen_of_open hopen]
  change (if 1 ≤ index ∧ index ≤ st.slots.length then _ else _ : Except StatementError
    Statement).toOption.isSome = true ↔ _
  split
  · next hindex => exact iff_of_true rfl hindex
  · next hindex => exact iff_of_false nofun hindex

theorem isSome_edit?_addBatch_iff (hopen : st.closed = false) :
    (st.edit? .addBatch).toOption.isSome = true ↔
      ∀ index, 1 ≤ index → index ≤ st.slots.length → (st.value? index).isSome = true := by
  have hrow : (st.edit? .addBatch).toOption.isSome = true ↔
      st.slots.findIdx? Option.isNone = none := by
    rw [edit?, addBatch, guardOpen_of_open hopen, row]
    cases st.slots.findIdx? Option.isNone with
    | none => exact iff_of_true rfl rfl
    | some i => exact iff_of_false nofun nofun
  rw [hrow, List.findIdx?_eq_none_iff]
  constructor
  · intro hbound index hpos hle
    obtain ⟨i, rfl⟩ : ∃ i, index = i + 1 := ⟨index - 1, by omega⟩
    have hslot := hbound _ (List.getElem_mem hle)
    rw [value?_succ, List.getElem?_eq_getElem hle, Option.join_some]
    simpa using hslot
  · intro hvalue slot hslot
    obtain ⟨i, hlt, rfl⟩ := List.getElem_of_mem hslot
    have hsome := hvalue (i + 1) (by omega) hlt
    rw [value?_succ, List.getElem?_eq_getElem hlt, Option.join_some] at hsome
    simpa using hsome

end Statement
end SqlStatement
