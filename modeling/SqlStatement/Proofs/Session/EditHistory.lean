import Mathlib.Data.List.Induction
import SqlStatement.Proofs.Session.WellFormed
import SqlStatement.Proofs.Statement.EditHistory
/-!
# Histories of edits along runs

In a run a statement accepts some of the edits that are asked of it.  As long as it is open, what
it has bound, queued and announced is what these say, `recalls_after`: refused edits, executions,
questions to the server and whatever is done to other statements leave no trace in it.
-/
namespace SqlStatement.Session

variable {σ κ : Type} [Server σ κ] {s : Session σ} {ops : List (Op κ)} {op : Op κ} {p : Nat}

def accepted? (s : Session σ) (p : Nat) : Op κ → Option Edit
  | .edit q e =>
    if q = p then s.statements[p]?.bind fun st => (st.edit? e).toOption.map fun _ => e else none
  | _ => none

/-- The edits that the statement at the position accepts in a run, the earliest first. -/
def accepted (s : Session σ) (p : Nat) : List (Op κ) → List Edit
  | [] => []
  | op :: ops => (s.accepted? p op).toList ++ (s.next op).accepted p ops

private theorem accepted_append (s : Session σ) (p : Nat) (ops : List (Op κ)) (op : Op κ) :
    s.accepted p (ops ++ [op]) = s.accepted p ops ++ ((s.after ops).accepted? p op).toList := by
  induction ops generalizing s with
  | nil => exact List.append_nil _
  | cons first ops ih =>
    rw [List.cons_append, accepted, accepted, ih, List.append_assoc]
    rfl

omit [Server σ κ] in
private theorem accepted?_of_ne (hop : ∀ e, op ≠ .edit p e) : s.accepted? p op = none := by
  cases op with
  | edit q e =>
    have hq : q ≠ p := fun hq => hop e (by rw [hq])
    rw [accepted?, if_neg hq]
  | _ => rfl

omit [Server σ κ] in
private theorem accepted?_edit {st : Statement} (hst : s.statements[p]? = some st) (e : Edit) :
    s.accepted? p (.edit p e : Op κ) = (st.edit? e).toOption.map fun _ => e := by
  rw [accepted?, if_pos rfl, hst, Option.bind_some]

omit [Server σ κ] in
private theorem accepted?_eq_none (hp : s.statements.length ≤ p) : s.accepted? p op = none := by
  cases op with
  | edit q e =>
    rw [accepted?, List.getElem?_eq_none hp, Option.bind_none]
    exact ite_self none
  | _ => rfl

private theorem accepted_eq_nil (hp : (s.after ops).statements.length ≤ p) :
    s.accepted p ops = [] := by
  induction ops generalizing s with
  | nil => rfl
  | cons op ops ih =>
    have hstart : s.statements.length ≤ p :=
      Nat.le_trans (length_statements_le_after s (op :: ops)) hp
    rw [accepted, accepted?_eq_none hstart, ih hp]
    rfl

theorem Arises.longData {st : Statement} (h : s.Arises st) : st.longData = false := by
  cases h with
  | prepared hc hst =>
    obtain ⟨-, rfl⟩ := Connection.prepare_eq_ok hst
    rfl
  | cloned hparent hc hst =>
    obtain ⟨-, rfl⟩ := Connection.clone_eq_ok hst
    rfl

/-- By induction on the run from its end: a new statement starts without a history, and only the
accepted edits make a difference to it. -/
theorem recalls_after (connections : List (Connection σ)) (pools : Pools) (ops : List (Op κ))
    {p : Nat} {st : Statement}
    (hst : ((start connections pools).after ops).statements[p]? = some st)
    (hopen : st.closed = false) : st.Recalls ((start connections pools).accepted p ops) := by
  induction ops using List.reverseRecOn generalizing p st with
  | nil => cases hst
  | append_singleton ops op ih =>
    have hnext : (start connections pools).after (ops ++ [op]) =
        ((start connections pools).after ops).next op := after_append _ ops [op]
    rw [hnext] at hst
    rw [accepted_append]
    rcases (effect_next _ op).statement_cases hst with ⟨before, hbefore, hevolves⟩ | ⟨hp, harises⟩
    · have hopenBefore := hevolves.open_before hopen
      have hrecalls := ih hbefore hopenBefore
      by_cases hop : ∃ e, op = .edit p e
      · obtain ⟨e, rfl⟩ := hop
        have hwell := hasWellFormed_after connections pools ops before
          (List.mem_of_getElem? hbefore)
        rw [next_edit hbefore, Option.some_inj] at hst
        rw [accepted?_edit hbefore]
        cases hedit : before.edit? e with
        | error refused =>
          rw [hedit] at hst
          cases hst
          rw [Except.toOption, Option.getD_none, Option.map_none, Option.toList_none,
            List.append_nil]
          exact hrecalls
        | ok edited =>
          rw [hedit] at hst
          cases hst
          exact hrecalls.edited hwell.slots (Statement.edit?_eq_ok hedit).2
      · rw [not_exists] at hop
        rw [accepted?_of_ne hop, Option.toList_none, List.append_nil]
        exact hrecalls.congr (hevolves.binding hop hopen)
    · obtain ⟨hslots, hqueue⟩ := harises.fresh
      have hnew := Nat.le_of_eq hp.symm
      rw [accepted_eq_nil hnew, accepted?_eq_none hnew, Option.toList_none, List.append_nil]
      refine Statement.recalls_nil ?_ hqueue harises.longData
      rw [hslots]
      exact fun slot hslot => List.eq_of_mem_replicate hslot

/-- After every run, an open statement has each value that was last set since the values were
cleared, it has queued one full copy of its values for each row added since the queue was cleared,
and it announces long data if some was set since then.  It accepts a value exactly within its
range, and a row exactly if every placeholder has a value. -/
theorem bindings_follow_edits (connections : List (Connection σ)) (pools : Pools)
    (ops : List (Op κ)) {p : Nat} {st : Statement}
    (hst : ((start connections pools).after ops).statements[p]? = some st)
    (hopen : st.closed = false) :
    (∀ index v, st.value? index = some v ↔
      Edit.IsBound ((start connections pools).accepted p ops) index v) ∧
    (∀ index v, (st.edit? (.setValue index v)).toOption.isSome = true ↔
      1 ≤ index ∧ index ≤ st.template.paramCount) ∧
    List.Forall₂ (Edit.IsCopy st.template.paramCount)
      (Edit.queuedAfter ((start connections pools).accepted p ops)) st.queue ∧
    ((st.edit? .addBatch).toOption.isSome = true ↔
      ∀ index, 1 ≤ index → index ≤ st.template.paramCount → (st.value? index).isSome = true) ∧
    (st.longData = true ↔ Edit.HasLongData ((start connections pools).accepted p ops)) := by
  have hrecalls := recalls_after connections pools ops hst hopen
  have hslots := (hasWellFormed_after connections pools ops st (List.mem_of_getElem? hst)).slots
  rw [← hslots]
  exact ⟨hrecalls.values, Statement.isSome_edit?_setValue_iff hopen, hrecalls.queue,
    Statement.isSome_edit?_addBatch_iff hopen, hrecalls.longData⟩

def queuedThenRebound : List (Op ScriptChange) :=
  [.prepare 0 "insert into t values (?)" none, .edit 0 (.setValue 1 (.stream [0])),
    .edit 0 .addBatch, .edit 0 (.setValue 2 .null), .edit 0 .clearValues, .edit 0 .addBatch,
    .edit 0 (.setValue 1 (.int 7)), .execute 0 .once none, .edit 0 .addBatch]

theorem bindings_follow_edits_rebound :
    ∃ st, ((start oneServer (.ofCount 0)).after queuedThenRebound).statements[0]? = some st ∧
      st.closed = false ∧ st.queue = [[.stream [0]], [.int 7]] ∧
      Edit.queuedAfter ((start oneServer (.ofCount 0)).accepted 0 queuedThenRebound) =
        [[.setValue 1 (.stream [0])], [.setValue 1 (.stream [0]), .addBatch, .clearValues,
          .setValue 1 (.int 7)]] ∧
      Edit.IsBound ((start oneServer (.ofCount 0)).accepted 0 queuedThenRebound) 1 (.int 7) ∧
      Edit.HasLongData ((start oneServer (.ofCount 0)).accepted 0 queuedThenRebound) := by
  have hview : (((start oneServer (.ofCount 0)).after queuedThenRebound).statements[0]?.map
      fun st => (st.closed, st.queue, st.value? 1, st.longData)) =
        some (false, [[.stream [0]], [.int 7]], some (.int 7), true) := rfl
  obtain ⟨st, hst, hview⟩ := Option.map_eq_some_iff.1 hview
  obtain ⟨hopen, hview⟩ := Prod.mk.inj hview
  obtain ⟨hqueue, hview⟩ := Prod.mk.inj hview
  obtain ⟨hbound, hlong⟩ := Prod.mk.inj hview
  obtain ⟨hvalues, -, -, -, hlongData⟩ :=
    bindings_follow_edits oneServer (.ofCount 0) queuedThenRebound hst hopen
  exact ⟨st, hst, hopen, hqueue, rfl, (hvalues 1 (.int 7)).1 hbound, hlongData.1 hlong⟩

end SqlStatement.Session
