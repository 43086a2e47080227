import SqlStatement.Proofs.Session.Run
import SqlStatement.Proofs.Timed.Project
import SqlStatement.Session.Lock
/-!
# No operation waits for a lock

A run has the lock of its statement at its pauses, and lets go of it when it ends and when it is
given up.  So every lock is free again when an operation is over, and a session with locks does
what it does without them, `Locked.after?_free`.  Were a lock held, an execution that passes
validation would wait for it, `Locked.next?_execute_of_held`.
-/
namespace SqlStatement

namespace Session

variable {τ : Type}

/-- Without its lock a guarded run is the run itself. -/
theorem project_guardedAfter (patience : Option Nat) (run : Timed τ Ending) :
    (guardedAfter patience run).project Prod.fst = abandonedAfter patience run := by
  have hguarded : run.guarded.project Prod.fst = run :=
    Timed.project_conclude_eq_self (fun _ => rfl) (fun _ _ => rfl) run
  cases patience with
  | none => exact hguarded
  | some ms =>
    have hcut : (run.guarded.cut ms).project Prod.fst = run.cut ms := by
      rw [Timed.project_cut, hguarded]
    rw [abandonedAfter, guardedAfter, Timed.map, ← hcut]
    refine Timed.project_conclude (f := Prod.fst) (g := Prod.fst) ?_ ?_ _
    · exact fun _ => rfl
    · intro s e
      cases e <;> rfl

/-- The lock is held at every pause and free at the end, also if the run is given up. -/
theorem course_guardedAfter (patience : Option Nat) (run : Timed τ Ending) :
    (guardedAfter patience run).Course (fun s => s.2 = true) fun s _ => s.2 = false := by
  have hguarded : run.guarded.Course (fun s => s.2 = true) fun s _ => s.2 = false :=
    (Timed.shows_iff_course.1 (Timed.shows_true run)).conclude (fun _ _ => rfl) fun _ _ _ => rfl
  cases patience with
  | none => exact hguarded
  | some ms =>
    refine (hguarded.cut ms).conclude (fun _ hs => hs) ?_
    intro s e hs
    cases e with
    | none => rfl
    | some e => exact hs

private theorem state_guardedAfter (patience : Option Nat) (run : Timed τ Ending) :
    (guardedAfter patience run).state = ((abandonedAfter patience run).state, false) := by
  have hstate := congrArg Timed.state (project_guardedAfter patience run)
  rw [Timed.state_project] at hstate
  exact Prod.ext hstate (course_guardedAfter patience run).ended

variable {σ κ : Type} [Server σ κ] {s s' : Session σ} {p : Nat}

/-- An execution takes the lock if it passes validation, and leaves it free. -/
theorem underLock?_execute {st : Statement} {i : Nat} {c : Connection σ}
    (hst : s.statements[p]? = some st) (hc : s.connectionOf? st = some (i, c)) (e : Execution)
    (patience : Option Nat) :
    s.underLock? (.execute p e patience) =
      if st.starts e.isBatch then
        let after := (abandonedAfter patience (run st e c.server)).state
        some (p, (s.setServer i after.1).setStatement p after.2, false)
      else none := by
  rw [underLock?, hst, Option.bind_some, hc, Option.bind_some]
  dsimp only
  rw [state_guardedAfter]

/-- The lock changes nothing of what the operation does, and it is free afterwards. -/
theorem underLock?_eq_some {op : Op κ} {held : Bool}
    (h : s.underLock? op = some (p, s', held)) : s' = s.next op ∧ held = false := by
  cases op with
  | execute q e patience =>
    have hfound := h
    obtain ⟨st, hst, h⟩ := Option.bind_eq_some_iff.1 h
    obtain ⟨⟨i, c⟩, hc, -⟩ := Option.bind_eq_some_iff.1 h
    rw [underLock?_execute hst hc] at hfound
    split at hfound
    · cases hfound
      refine ⟨?_, rfl⟩
      rw [next, step, hst, Option.map_some, onServer, hc]
      rfl
    · cases hfound
  | close q =>
    obtain ⟨st, hst, h⟩ := Option.bind_eq_some_iff.1 h
    split at h
    · cases h
    · cases h
      refine ⟨?_, rfl⟩
      rw [next, step, hst]
      rfl
  | _ => cases h

end Session

namespace Locked

variable {σ κ : Type} [Server σ κ]

/-- While the lock is held an execution waits, exactly if it passes validation: a batch without a
queue goes on. -/
theorem next?_execute_of_held {l : Locked σ} {p i : Nat} {st : Statement} {c : Connection σ}
    (hst : l.session.statements[p]? = some st) (hc : l.session.connectionOf? st = some (i, c))
    (hheld : l.held[p]? = some true) (e : Execution) (patience : Option Nat) :
    l.next? (.execute p e patience) = none ↔ st.starts e.isBatch = true := by
  unfold next?
  rw [Session.underLock?_execute hst hc]
  cases hstarts : st.starts e.isBatch with
  | false => simp
  | true => simp [hheld]

/-- No operation waits, and all locks are free again afterwards. -/
theorem next?_free (s : Session σ) (op : Op κ) : (free s).next? op = some (free (s.next op)) := by
  have hlength : s.statements.length ≤ (s.next op).statements.length :=
    s.length_statements_le_after [op]
  have hextend : extend (List.replicate s.statements.length false) s (s.next op) =
      free (s.next op) := by
    rw [extend, List.replicate_append_replicate, Nat.add_sub_cancel' hlength, free]
  unfold next?
  cases hlock : s.underLock? op with
  | none =>
    rw [free, hlock]
    exact congrArg some hextend
  | some found =>
    obtain ⟨p, s', held⟩ := found
    obtain ⟨rfl, rfl⟩ := Session.underLock?_eq_some hlock
    have hfree : (List.replicate s.statements.length false)[p]? ≠ some true := by
      rw [List.getElem?_replicate]
      split <;> simp
    rw [free, hlock]
    dsimp only
    rw [if_neg hfree, List.set_replicate_self, hextend]

theorem after?_free (s : Session σ) (ops : List (Op κ)) :
    (free s).after? ops = some (free (s.after ops)) := by
  induction ops generalizing s with
  | nil => rfl
  | cons op ops ih =>
    rw [after?, List.foldlM_cons, next?_free]
    exact ih (s.next op)

end Locked
end SqlStatement
