import SqlStatement.Proofs.Statement.Frame
/-!
# Well-formed statements

The slots and the queued rows of a statement fit its template, its time limit is not zero, and
what it holds goes with whether it is open: `Statement.WellFormed`.  New statements are well
formed, and edits, executions, questions to the server and the close keep this.
-/
namespace SqlStatement

private theorem Duration.any_isZero_eq_false_iff (limit : Option Duration) :
    limit.any Duration.isZero = false ↔ limit ≠ some ⟨0⟩ := by
  cases limit with
  | none => simp
  | some d =>
    obtain ⟨nanos⟩ := d
    simp [Duration.isZero]

theorem Options.timeout_ne_of_validate {o : Options} (h : o.validate = .ok ()) :
    o.timeout ≠ some ⟨0⟩ := by
  rw [← Duration.any_isZero_eq_false_iff]
  unfold validate isValid at h
  cases hzero : o.timeout.any Duration.isZero with
  | false => rfl
  | true =>
    rw [hzero] at h
    cases h

namespace Statement

structure WellFormed (st : Statement) : Prop where
  slots : st.slots.length = st.template.paramCount
  queue : ∀ row ∈ st.queue, row.length = st.template.paramCount
  timeout : st.options.timeout ≠ some ⟨0⟩
  layout : st.template.canJoinRows = true → st.options.joinBatches = true
  results : ∀ log, st.results = some log → log.ended = true
  connected : st.connection = none → st.closed = true
  closed : st.closed = true → st.results = none ∧ st.queue = [] ∧ st.longData = false

theorem wellFormed_new (i : Nat) (ctx : ErrorContext) {template : Template} {o : Options}
    (htimeout : o.timeout ≠ some ⟨0⟩)
    (hlayout : template.canJoinRows = true → o.joinBatches = true) :
    (new i ctx template o).WellFormed where
  slots := List.length_replicate
  queue := List.forall_mem_nil _
  timeout := htimeout
  layout := hlayout
  results _ h := by cases h
  connected h := by cases h
  closed h := by cases h

namespace WellFormed

variable {st st' : Statement}

theorem length_of_single (h : st.WellFormed) {row : Row} (hrow : st.requests.single row) :
    row.length = st.template.paramCount := by
  obtain hbound | hqueued := hrow
  · have hslots := congrArg List.length (row_eq_ok hbound)
    rw [h.slots, List.length_map] at hslots
    exact hslots.symm
  · exact h.queue row hqueued

theorem withCache (h : st.WellFormed) (cache : MetadataCache) :
    WellFormed { st with cache } where
  slots := h.slots
  queue := h.queue
  timeout := h.timeout
  layout := h.layout
  results := h.results
  connected := h.connected
  closed := h.closed

theorem edited {e : Edit} (h : st.WellFormed) (hedit : st.edit? e = .ok st') :
    st'.WellFormed := by
  obtain ⟨hopen, hedited⟩ := edit?_eq_ok hedit
  have hclosed {P : Prop} (hst : st.closed = true) : P := by
    rw [hopen] at hst
    cases hst
  cases hedited with
  | valueSet hindex =>
    exact { h with
      slots := List.length_set.trans h.slots
      closed := hclosed }
  | valuesCleared =>
    exact { h with
      slots := List.length_replicate }
  | @queued row hrow =>
    have hlength : row.length = st.template.paramCount := by
      rw [← h.slots, hrow, List.length_map]
    exact { h with
      queue := List.forall_mem_append.2 ⟨h.queue, List.forall_mem_singleton.2 hlength⟩
      closed := hclosed }
  | queueCleared =>
    exact { h with
      queue := List.forall_mem_nil _
      closed := hclosed }
  | timeoutSet hlimit =>
    exact { h with
      timeout := (Duration.any_isZero_eq_false_iff _).1 hlimit }
  | fetchSizeSet | continueBatchSet =>
    exact { h with
      timeout := h.timeout }

theorem proceeds (h : st.WellFormed) (hproceeds : st.Proceeds st') : st'.WellFormed := by
  cases hproceeds with
  | refused => exact h
  | running hopen path =>
    exact { h with
      results := fun log hlog => by cases hlog
      closed := fun hclosed => ⟨rfl, (h.closed hclosed).2⟩ }
  | ended hopen log path =>
    refine { h with results := ?_, closed := ?_ }
    · intro _ hlog
      cases hlog
      rfl
    · intro hclosed
      rw [show st.closed = true from hclosed] at hopen
      cases hopen

theorem release (h : st.WellFormed) : st.release.WellFormed where
  slots := h.slots
  queue := List.forall_mem_nil _
  timeout := h.timeout
  layout := h.layout
  results _ hlog := by cases hlog
  connected _ := rfl
  closed _ := ⟨rfl, rfl, rfl⟩

theorem detach (h : st.WellFormed) (hclosed : st.closed = true) : st.detach.WellFormed where
  slots := h.slots
  queue := h.queue
  timeout := h.timeout
  layout := h.layout
  results := h.results
  connected _ := hclosed
  closed := h.closed

end WellFormed
end Statement
end SqlStatement
