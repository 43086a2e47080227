import SqlStatement.Server
import SqlStatement.Statement.Basic
/-!
# Executions

A statement runs its bound values once, or its queue as a batch.  While a run goes on the
statement holds no results; when it ends, by itself or at its time limit, it holds the closed log
of the run.
-/
namespace SqlStatement.Statement

variable {σ κ : Type} [Server σ κ]

def limited {τ α : Type} (limit : Option Duration) (run : Timed τ (Except StatementError α)) :
    Timed τ (Except StatementError α) :=
  match limit with
  | none => run
  | some d => (run.cut d.millis).map fun r => r.getD (.error (.timedOut d))

def failure (st : Statement) (f : Failure) (row : Option Row) : StatementError :=
  st.context.ofFailure f st.template.sql row

/-- The limits for the server and for the local clock: at most one of them is set. -/
def limits (st : Statement) (server : σ) : Option Duration × Option Duration :=
  if Server.enforcesTimeout server then (st.options.timeout, none) else (none, st.options.timeout)

/-- An execution passes validation.  A batch also needs a queue. -/
def starts (st : Statement) (batch : Bool) : Bool :=
  !st.closed && if batch then !st.queue.isEmpty else st.row.isOk

def running (st : Statement) : Statement :=
  { st with results := none }

def ended (st : Statement) (log : Results) : Statement :=
  { st with results := some log.finish }

/-- Executes once with the given values; the result says whether the first command produced
rows. -/
def executeRow (st : Statement) (row : Row) (server : σ) :
    Timed (σ × Statement) (Except StatementError Bool) :=
  let (serverLimit, localLimit) := st.limits server
  let log : Results :=
    { fetchSize := st.options.fetchSize, isBatch := false, scrolling := st.options.scrolling
      expected := 1 }
  let primary := Server.isPrimary server
  let run := (Server.execute primary st.template row serverLimit (server, log)).map
    fun r => r.mapError fun f => st.failure f (some row)
  (limited localLimit run).conclude
    (fun (server, _) => (server, st.running))
    fun (server, log) r => ((server, st.ended log), r.map fun _ => log.firstIsRows)

def execute (st : Statement) (server : σ) : Timed (σ × Statement) (Except StatementError Bool) :=
  match st.guardOpen *> st.row with
  | .error e => .done (server, st) (.error e)
  | .ok row => st.executeRow row server

def executeQuery (st : Statement) (server : σ) :
    Timed (σ × Statement) (Except StatementError ResultSet) :=
  (st.execute server).conclude id fun s r =>
    (s, r.map fun _ => s.2.resultSet.getD .empty)

def executeLargeUpdate (st : Statement) (server : σ) :
    Timed (σ × Statement) (Except StatementError Int) :=
  (st.execute server).conclude id fun s r =>
    (s, r.map fun isRows => if isRows then 0 else s.2.updateCount.getD 0)

/-- The count as a number of 32 bits, the greatest one for all counts outside their range. -/
def countOrMax (n : Int) : Int :=
  if Int32.minValue.toInt ≤ n ∧ n ≤ Int32.maxValue.toInt then n else Int32.maxValue.toInt

def executeUpdate (st : Statement) (server : σ) :
    Timed (σ × Statement) (Except StatementError Int) :=
  (st.executeLargeUpdate server).map fun r => r.map countOrMax

/-- Executes queued rows one by one.  With a time limit the server is polled before each; after
a failure the batch stops or goes on, as the options say, and the first failure is the result. -/
def executeRows (st : Statement) (primary : Bool) :
    List Row → Option StatementError → σ × Results →
      Timed (σ × Results) (Except StatementError BatchPath)
  | [], none, s => .done s (.ok .sequential)
  | [], some first, s => .done s (.error first)
  | row :: rows, first, (server, log) =>
    let (server, polled) :=
      if st.options.timeout.isSome then Server.poll server else (server, .ok ())
    match polled with
    | .error f => .done (server, log) (.error (st.failure f none))
    | .ok () =>
      (Server.execute primary st.template row none (server, log)).andThen fun (server, log) r =>
        match r with
        | .ok () => executeRows st primary rows first (server, log)
        | .error f =>
          let e := st.failure f (some row)
          if st.options.continueBatch then
            executeRows st primary rows (first <|> some e) (server, log.addFailure)
          else .done (server, log.addFailure) (.error e)

/-- Offers the queue to the server at once and executes it row by row if that is declined. -/
def executeQueue (st : Statement) (start : σ × Results) :
    Timed (σ × Results) (Except StatementError BatchPath) :=
  let primary := Server.isPrimary start.1
  (Server.executeBatch primary st.template st.queue st.longData start).andThen fun s r =>
    match r with
    | .error f => .done s (.error (st.failure f none))
    | .ok true => .done s (.ok .bulk)
    | .ok false => st.executeRows primary st.queue none s

/-- Runs a queue that is not empty; the local clock bounds the whole batch. -/
def runQueue (st : Statement) (server : σ) :
    Timed (σ × Statement) (Except StatementError Unit) :=
  let log : Results :=
    { fetchSize := 0, isBatch := true, scrolling := st.options.scrolling
      expected := st.queue.length }
  let st := { st with path := none }
  (limited st.options.timeout (st.executeQueue (server, log))).conclude
    (fun (server, _) => (server, st.running))
    fun (server, log) r =>
      ((server, { st.ended log with path := r.toOption }), r.map fun _ => ())

/-- Runs the queue and gives one number for each entry; an empty queue needs no server. -/
def executeBatchWith (st : Statement) (counts : Results → List Int) (server : σ) :
    Timed (σ × Statement) (Except StatementError (List Int)) :=
  match st.guardOpen with
  | .error e => .done (server, st) (.error e)
  | .ok () =>
    if st.queue.isEmpty then .done (server, st) (.ok [])
    else
      (st.runQueue server).conclude id fun s r =>
        (s, r.map fun _ => (s.2.results.map counts).getD [])

def executeLargeBatch (st : Statement) (server : σ) :
    Timed (σ × Statement) (Except StatementError (List Int)) :=
  st.executeBatchWith Results.counts server

def executeBatch (st : Statement) (server : σ) :
    Timed (σ × Statement) (Except StatementError (List Int)) :=
  st.executeBatchWith Results.narrowCounts server

end SqlStatement.Statement
