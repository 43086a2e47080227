import SqlStatement.Proofs.Statement.BatchStrategy
/-!
# Counts in 32 bits

`narrowCount` gives the nearest number of 32 bits.  The counts of the server and of batches are
narrowed in this way.  A single execution does the same with every count that is not below the
range, and gives the greatest number for the others (`Statement.executeUpdate_narrow`).
-/
namespace SqlStatement

/-- The number fits 32 bits. -/
def IsNarrow (n : Int) : Prop :=
  Int32.minValue.toInt ≤ n ∧ n ≤ Int32.maxValue.toInt

/-- Every other number of 32 bits is farther away from the count. -/
def IsNearest (n count : Int) : Prop :=
  IsNarrow n ∧ ∀ m, IsNarrow m → m ≠ n → (n - count).natAbs < (m - count).natAbs

private theorem isNearest_narrowCount (count : Int) : IsNearest (narrowCount count) count := by
  have hmin : Int32.minValue.toInt = -2147483648 := rfl
  have hmax : Int32.maxValue.toInt = 2147483647 := rfl
  unfold IsNearest IsNarrow narrowCount
  rw [hmin, hmax]
  refine ⟨by omega, fun m hm hne => ?_⟩
  omega

private theorem updateCount_of_firstIsRows {log : Results} (h : log.firstIsRows = true) :
    log.updateCount = none := by
  rw [Results.firstIsRows, beq_iff_eq] at h
  rw [Results.updateCount, h]
  rfl

namespace Statement

private theorem countOrMax_eq (count : Int) :
    countOrMax count =
      if Int32.minValue.toInt ≤ count then narrowCount count else Int32.maxValue.toInt := by
  have hmin : Int32.minValue.toInt = -2147483648 := rfl
  have hmax : Int32.maxValue.toInt = 2147483647 := rfl
  unfold countOrMax narrowCount
  rw [hmin, hmax]
  split <;> split <;> omega

private theorem countOrMax_eq_narrowCount_iff (count : Int) :
    countOrMax count = narrowCount count ↔ Int32.minValue.toInt ≤ count := by
  have hmin : Int32.minValue.toInt = -2147483648 := rfl
  have hmax : Int32.maxValue.toInt = 2147483647 := rfl
  unfold countOrMax narrowCount
  rw [hmin, hmax]
  split <;> omega

variable {σ κ : Type} [Server σ κ] {st : Statement} {server : σ}

private theorem execute_eq_ok {isRows : Bool} (h : (st.execute server).result = .ok isRows) :
    ∃ log, (st.execute server).state.2.results = some log ∧ isRows = log.firstIsRows := by
  unfold execute at h ⊢
  cases hrow : st.guardOpen *> st.row with
  | error e =>
    rw [hrow] at h
    cases h
  | ok row =>
    rw [hrow] at h
    dsimp only at h ⊢
    unfold executeRow at h ⊢
    dsimp only at h ⊢
    rw [Timed.result_conclude] at h
    rw [Timed.state_conclude]
    generalize limited _ _ = run at h ⊢
    dsimp only at h
    cases hrun : run.result with
    | error e =>
      rw [hrun] at h
      cases h
    | ok u =>
      rw [hrun] at h
      exact ⟨_, rfl, (Except.ok.inj h).symm⟩

private theorem narrowServerCounts_eq_map (st : Statement) :
    st.narrowServerCounts = st.serverCounts.map narrowCount := by
  unfold narrowServerCounts serverCounts
  cases st.results <;> rfl

/-- A single execution succeeds, and the server reports one update, first of all. -/
structure ReportsUpdate (st : Statement) (server : σ) (count : Int) : Prop where
  succeeds : ∃ isRows, (st.execute server).result = .ok isRows
  reported : ∃ log, (st.execute server).state.2.results = some log ∧
    log.updateCount = some count ∧ log.serverCounts = [count]

theorem ReportsUpdate.executeLargeUpdate {count : Int} (h : st.ReportsUpdate server count) :
    (st.executeLargeUpdate server).result = .ok count ∧
      (st.executeLargeUpdate server).state.2.serverCounts = [count] := by
  obtain ⟨isRows, hok⟩ := h.succeeds
  obtain ⟨log, hlog, hcount, hserver⟩ := h.reported
  obtain ⟨log', hlog', hrows⟩ := execute_eq_ok hok
  obtain rfl := Option.some.inj (hlog.symm.trans hlog')
  have hupdate : isRows = false := by
    cases isRows with
    | false => rfl
    | true => simp [updateCount_of_firstIsRows hrows.symm] at hcount
  unfold Statement.executeLargeUpdate
  rw [Timed.result_conclude, Timed.state_conclude, hok, hupdate]
  simp [Except.map, Statement.updateCount, Statement.serverCounts, hlog, hcount, hserver]

/-- Every count that a server reports is narrowed to the nearest number of 32 bits where counts of
the server or of a batch are asked for.  A single execution gives this number too if the count is
not below the range, and the greatest number if it is. -/
theorem executeUpdate_narrow {count : Int} (h : st.ReportsUpdate server count) :
    (st.executeLargeUpdate server).result = .ok count ∧
      IsNearest (narrowCount count) count ∧
      (st.executeUpdate server).state.2.narrowServerCounts = [narrowCount count] ∧
      (∀ (τ κ' : Type) [Server τ κ'] (batch : Statement) (other : τ) (counts : List Int) (i : Nat),
        (batch.executeLargeBatch other).result = .ok counts → counts[i]? = some count →
          ∃ ns, (batch.executeBatch other).result = .ok ns ∧ ns[i]? = some (narrowCount count)) ∧
      (st.executeUpdate server).result =
        .ok (if Int32.minValue.toInt ≤ count then narrowCount count else Int32.maxValue.toInt) ∧
      ((st.executeUpdate server).result = .ok (narrowCount count) ↔
        Int32.minValue.toInt ≤ count) := by
  obtain ⟨hlarge, hserver⟩ := h.executeLargeUpdate
  have hupdate : (st.executeUpdate server).result = .ok (countOrMax count) := by
    rw [executeUpdate, Timed.map, Timed.result_conclude, hlarge]
    rfl
  refine ⟨hlarge, isNearest_narrowCount count, ?_, ?_, ?_, ?_⟩
  · rw [executeUpdate, Timed.map, Timed.state_conclude, narrowServerCounts_eq_map, hserver]
    rfl
  · intro τ κ' _ batch other counts i hcounts hi
    refine ⟨counts.map narrowCount, ?_, by simp [hi]⟩
    rw [executeBatch_eq_map, Timed.map, Timed.result_conclude, hcounts]
    rfl
  · rw [hupdate, countOrMax_eq]
  · rw [hupdate, Except.ok.injEq, countOrMax_eq_narrowCount_iff]

def boundUpdate : Statement :=
  { Statement.new 0 ⟨1, true, 1024, true⟩ (.compile "update t set a = ?" .backslash false) {} with
    slots := [some (.int 7)]
    queue := [[.int 7]] }

def reports (count : Int) : ScriptedServer :=
  { updateCount := count }

private theorem reportsUpdate_reports (count : Int) :
    boundUpdate.ReportsUpdate (reports count) count :=
  ⟨⟨false, rfl⟩, _, rfl, rfl, rfl⟩

/-- A count above the range. -/
theorem executeUpdate_narrow_above :
    boundUpdate.ReportsUpdate (reports 3000000000) 3000000000 ∧
      (boundUpdate.executeLargeUpdate (reports 3000000000)).result = .ok 3000000000 ∧
      (boundUpdate.executeUpdate (reports 3000000000)).result = .ok 2147483647 ∧
      (boundUpdate.executeUpdate (reports 3000000000)).state.2.narrowServerCounts =
        [2147483647] ∧
      ∃ ns, (boundUpdate.executeBatch (reports 3000000000)).result = .ok ns ∧
        ns[0]? = some 2147483647 := by
  have h := reportsUpdate_reports 3000000000
  obtain ⟨hlarge, -, hserver, hbatch, hupdate, -⟩ := executeUpdate_narrow h
  refine ⟨h, hlarge, hupdate, hserver, ?_⟩
  exact hbatch _ _ boundUpdate (reports 3000000000) [3000000000] 0 rfl rfl

/-- A count below the range becomes the greatest number, and the least one everywhere else. -/
theorem update_below_range :
    (boundUpdate.executeLargeUpdate (reports (-3000000000))).result = .ok (-3000000000) ∧
      (boundUpdate.executeUpdate (reports (-3000000000))).result = .ok 2147483647 ∧
      (boundUpdate.executeUpdate (reports (-3000000000))).state.2.narrowServerCounts =
        [-2147483648] ∧
      (boundUpdate.executeBatch (reports (-3000000000))).result = .ok [-2147483648] ∧
      IsNearest (-2147483648) (-3000000000) := by
  have hleast : narrowCount (-3000000000) = -2147483648 := by decide
  exact ⟨rfl, rfl, rfl, rfl, hleast ▸ isNearest_narrowCount (-3000000000)⟩

end Statement
end SqlStatement
