import SqlStatement.Connection
import SqlStatement.Session.Operation
import SqlStatement.Statement.Discovery
import SqlStatement.Statement.Execution
/-!
# Sessions

A session holds connections, pools with their listeners, and statements; nothing is ever taken
out, so positions stay what they are.  The functions here carry out one kind of operation each.
-/
namespace SqlStatement

structure Session (σ : Type) where
  connections : List (Connection σ)
  pools : Pools
  statements : List Statement := []

namespace Session

variable {σ κ : Type}

def setStatement (s : Session σ) (position : Nat) (st : Statement) : Session σ :=
  { s with statements := s.statements.set position st }

def setServer (s : Session σ) (position : Nat) (server : σ) : Session σ :=
  { s with connections := s.connections.modify position fun c => { c with server } }

def connectionOf? (s : Session σ) (st : Statement) : Option (Nat × Connection σ) :=
  st.connection.bind fun i => s.connections[i]?.map fun c => (i, c)

def add (s : Session σ) : Except StatementError Statement → Session σ × Answer
  | .error e => (s, { ending := .error e })
  | .ok st =>
    ({ s with statements := s.statements ++ [st] },
      { ending := .reply (.statement s.statements.length), statement := s.statements.length })

def edit (s : Session σ) (position : Nat) (st : Statement) (e : Edit) : Session σ × Answer :=
  match st.edit? e with
  | .ok st => (s.setStatement position st, { ending := .reply .nothing, statement := position })
  | .error e => (s, { ending := .error e, statement := position })

def setPools? (s : Session σ) (pool : Nat) (pools : Pools) (deliveries : List Delivery) :
    Option (Session σ × Answer) :=
  pools.registered[pool]?.map fun is =>
    ({ s with pools }, { ending := .reply (.pool is.length), deliveries })

variable [Server σ κ]

def clone (s : Session σ) (st : Statement) : Except StatementError Statement := do
  st.guardOpen
  match s.connectionOf? st with
  | none => .error .closed
  | some (i, c) => c.clone i st

def ask (s : Session σ) (st : Statement) : Query → Ending
  | .state => .reply .nothing
  | .value index => .reply (.value (st.value? index))
  | .options => .reply (.options st.options)
  | .cloneText =>
    .ofExcept (fun copy => .cloneText copy.text copy.template.paramCount) (s.clone st)
  | .listing => .reply (.text st.listing)

def run (st : Statement) (e : Execution) (server : σ) : Timed (σ × Statement) Ending :=
  match e with
  | .once => (st.execute server).map (.ofExcept .bool)
  | .query => (st.executeQuery server).map (.ofExcept .rows)
  | .update => (st.executeUpdate server).map (.ofExcept .count)
  | .largeUpdate => (st.executeLargeUpdate server).map (.ofExcept .count)
  | .batch => (st.executeBatch server).map (.ofExcept .counts)
  | .largeBatch => (st.executeLargeBatch server).map (.ofExcept .counts)

/-- A run that the caller gives up after some milliseconds. -/
def abandonedAfter {τ : Type} (patience : Option Nat) (run : Timed τ Ending) : Timed τ Ending :=
  match patience with
  | none => run
  | some ms => (run.cut ms).map fun e => e.getD .abandoned

/-- Performs a run on the connection of a statement; without a connection the statement is
closed. -/
def onServer (s : Session σ) (position : Nat) (st : Statement)
    (work : σ → Timed (σ × Statement) Ending) : Session σ × Answer :=
  match s.connectionOf? st with
  | none => (s, { ending := .error .closed, statement := position })
  | some (i, c) =>
    let run := work c.server
    ((s.setServer i run.state.1).setStatement position run.state.2,
      { ending := run.result, elapsed := run.elapsed, statement := position })

/-- The pool of a statement, if it has listeners, and the notice that it is told at the close. -/
def announcement? (s : Session σ) (st : Statement) : Option (Nat × Notice) :=
  (s.connectionOf? st).bind fun (_, c) => c.pool.bind fun pool =>
    if (s.pools.on pool).isEmpty then none
    else some (pool, ⟨st.template.sql, Server.threadId c.server⟩)

/-- Closes a statement, once.  If its pool has listeners, these are told and the connection is
let go. -/
def close (s : Session σ) (position : Nat) (st : Statement) : Session σ × Answer :=
  let answer : Answer := { ending := .reply .nothing, statement := position }
  if st.closed then (s, answer)
  else
    match s.announcement? st with
    | none => (s.setStatement position st.release, answer)
    | some (pool, notice) =>
      let (pools, deliveries) := s.pools.fire pool notice
      ({ s.setStatement position st.release.detach with pools }, { answer with deliveries })

end Session
end SqlStatement
