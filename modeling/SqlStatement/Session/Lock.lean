import SqlStatement.Session.Step
/-!
# Locks

An execution that starts takes the lock of its statement, and so does the first close; an operation
that finds it taken waits.  The lock comes back where the run ends and where the caller gives it up,
as a guard that is dropped together with the run.
-/
namespace SqlStatement

/-- A run with a lock that is held at every pause. -/
def Timed.guarded {τ α : Type} (run : Timed τ α) : Timed (τ × Bool) α :=
  run.conclude (fun s => (s, true)) fun s a => ((s, false), a)

namespace Session

/-- A guarded run that the caller gives up after some milliseconds.  What is given up lets go of
its lock. -/
def guardedAfter {τ : Type} (patience : Option Nat) (run : Timed τ Ending) :
    Timed (τ × Bool) Ending :=
  match patience with
  | none => run.guarded
  | some ms =>
    (run.guarded.cut ms).conclude id fun s e =>
      e.elim ((s.1, false), .abandoned) fun e => (s, e)

variable {σ κ : Type} [Server σ κ]

/-- What an operation does under the lock of a statement: the position of the statement, and the
session and the lock when the operation is over. -/
def underLock? (s : Session σ) : Op κ → Option (Nat × Session σ × Bool)
  | .execute p e patience =>
    s.statements[p]?.bind fun st => (s.connectionOf? st).bind fun (i, c) =>
      if st.starts e.isBatch then
        let after := (guardedAfter patience (run st e c.server)).state
        some (p, (s.setServer i after.1.1).setStatement p after.1.2, after.2)
      else none
  | .close p =>
    s.statements[p]?.bind fun st =>
      if st.closed then none else some (p, (s.close p st).1, false)
  | _ => none

end Session

structure Locked (σ : Type) where
  session : Session σ
  held : List Bool

namespace Locked

variable {σ κ : Type} [Server σ κ]

def free (s : Session σ) : Locked σ :=
  ⟨s, List.replicate s.statements.length false⟩

/-- The locks with one more for each statement that is new in a session. -/
def extend (held : List Bool) (before after : Session σ) : Locked σ :=
  ⟨after, held ++ List.replicate (after.statements.length - before.statements.length) false⟩

/-- The session and its locks after one operation; `none` if it waits for a lock that is held. -/
def next? (l : Locked σ) (op : Op κ) : Option (Locked σ) :=
  match l.session.underLock? op with
  | none => some (extend l.held l.session (l.session.next op))
  | some (p, s, held) =>
    if l.held[p]? = some true then none else some (extend (l.held.set p held) l.session s)

def after? (l : Locked σ) (ops : List (Op κ)) : Option (Locked σ) :=
  ops.foldlM next? l

end Locked
end SqlStatement
