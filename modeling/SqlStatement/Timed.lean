/-!
# Runs in time

A run is what a computation does on a clock of whole milliseconds: it works, pauses, works on,
and ends.  Its state can be seen at every pause, so a run can be cut there: `Timed.cut` ends a
run at a limit.  While the clock stands still a run works in turns, and one that has reached its
limit is cut when its turn is over.
-/
namespace SqlStatement

/-- A run whose state has type `σ` and whose result has type `α`. -/
inductive Timed (σ α : Type) where
  | done (state : σ) (result : α)
  | pause (millis : Nat) (state : σ) (rest : Timed σ α)

namespace Timed

variable {σ τ α β : Type}

def state : Timed σ α → σ
  | .done s _ => s
  | .pause _ _ rest => rest.state

def result : Timed σ α → α
  | .done _ a => a
  | .pause _ _ rest => rest.result

def elapsed : Timed σ α → Nat
  | .done _ _ => 0
  | .pause ms _ rest => ms + rest.elapsed

/-- Goes on with `next` where the run ends. -/
def andThen (run : Timed σ α) (next : σ → α → Timed σ β) : Timed σ β :=
  match run with
  | .done s a => next s a
  | .pause ms s rest => .pause ms s (rest.andThen next)

/-- Shows each state of a pause through `paused` and the end through `ended`. -/
def conclude (run : Timed σ α) (paused : σ → τ) (ended : σ → α → τ × β) : Timed τ β :=
  match run with
  | .done s a => .done (ended s a).1 (ended s a).2
  | .pause ms s rest => .pause ms (paused s) (rest.conclude paused ended)

def map (f : α → β) (run : Timed σ α) : Timed σ β :=
  run.conclude id fun s a => (s, f a)

def longestPause : Nat :=
  30 * 365 * 86400 * 1000

def sleep (millis : Nat) (s : σ) (rest : Timed σ α) : Timed σ α :=
  .pause (min millis longestPause) s rest

/-- The steps of one turn.  The start of a run is a step, and so is the end of every pause. -/
def turn : Nat :=
  128

/-- Ends a run at a limit; `steps` are left in its turn.  A turn ends where its steps are used up
or time passes, and the step with which the run goes on is the first of the next turn. -/
def cutInTurn (steps limit : Nat) : Timed σ α → Timed σ (Option α)
  | .done s a => .done s (some a)
  | .pause ms s rest =>
    if ms = 0 ∧ 0 < steps then .pause 0 s (rest.cutInTurn (steps - 1) limit)
    else if limit = 0 then .done s none
    else if ms ≤ limit then .pause ms s (rest.cutInTurn (turn - 1) (limit - ms))
    else .pause limit s (.done s none)

/-- Ends a run at a limit, in the state of the pause that reaches beyond it and without a result.
A pause that ends together with the limit is left first, and so are the empty pauses of the same
turn. -/
def cut (limit : Nat) (run : Timed σ α) : Timed σ (Option α) :=
  run.cutInTurn (turn - 1) limit

@[simp] theorem state_conclude (run : Timed σ α) (paused : σ → τ) (ended : σ → α → τ × β) :
    (run.conclude paused ended).state = (ended run.state run.result).1 := by
  induction run with
  | done s a => rfl
  | pause ms s rest ih => exact ih

@[simp] theorem result_conclude (run : Timed σ α) (paused : σ → τ) (ended : σ → α → τ × β) :
    (run.conclude paused ended).result = (ended run.state run.result).2 := by
  induction run with
  | done s a => rfl
  | pause ms s rest ih => exact ih

@[simp] theorem elapsed_conclude (run : Timed σ α) (paused : σ → τ) (ended : σ → α → τ × β) :
    (run.conclude paused ended).elapsed = run.elapsed := by
  induction run with
  | done s a => rfl
  | pause ms s rest ih => simp [conclude, elapsed, ih]

theorem state_andThen (run : Timed σ α) (next : σ → α → Timed σ β) :
    (run.andThen next).state = (next run.state run.result).state := by
  induction run with
  | done s a => rfl
  | pause ms s rest ih => exact ih

theorem result_andThen (run : Timed σ α) (next : σ → α → Timed σ β) :
    (run.andThen next).result = (next run.state run.result).result := by
  induction run with
  | done s a => rfl
  | pause ms s rest ih => exact ih

end Timed
end SqlStatement
