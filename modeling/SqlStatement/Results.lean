import SqlStatement.Options
import SqlStatement.ResultSet
/-!
# Results of executions

A fresh log is made for every execution or batch.  The server records on it what each command
did; counts, insert ids and the current result set are views of the record.
-/
namespace SqlStatement

inductive Outcome where
  | update (count insertId : Int)
  | rows
  | failed
deriving DecidableEq, Repr

namespace Outcome

def successNoInfo : Int :=
  -2

def executeFailed : Int :=
  -3

def count : Outcome → Int
  | .update count _ => count
  | .rows => successNoInfo
  | .failed => executeFailed

def updateCount? : Outcome → Option Int
  | .update count _ => some count
  | _ => none

def insertId? : Outcome → Option Int
  | .update _ insertId => some insertId
  | _ => none

end Outcome

/-- The count of 32 bits nearest to a count. -/
def narrowCount (n : Int) : Int :=
  max Int32.minValue.toInt (min n Int32.maxValue.toInt)

structure Results where
  fetchSize : Nat
  isBatch : Bool
  scrolling : Scrolling
  expected : Nat
  outcomes : List Outcome := []
  joined : Bool := false
  resultSet : Option ResultSet := none
  ended : Bool := false

namespace Results

def record (r : Results) (o : Outcome) : Results :=
  { r with outcomes := r.outcomes ++ [o] }

def addUpdate (r : Results) (count insertId : Int) : Results :=
  r.record (.update count insertId)

def addResultSet (r : Results) (set : ResultSet) : Results :=
  { r.record .rows with resultSet := r.resultSet <|> some set }

def addFailure (r : Results) : Results :=
  r.record .failed

def setJoined (r : Results) (on : Bool) : Results :=
  { r with joined := on }

def finish (r : Results) : Results :=
  { r with ended := true }

/-- One count for each entry.  When the entries were joined into another number of statements,
no count belongs to an entry. -/
def counts (r : Results) : List Int :=
  if r.joined ∧ r.outcomes.length ≠ r.expected then
    List.replicate r.expected Outcome.successNoInfo
  else r.outcomes.map Outcome.count

/-- The counts as the server reported them, without failed entries and rows. -/
def serverCounts (r : Results) : List Int :=
  r.outcomes.filterMap Outcome.updateCount?

def insertIds (r : Results) : List Int :=
  r.outcomes.filterMap Outcome.insertId?

def narrowCounts (r : Results) : List Int :=
  r.counts.map narrowCount

def narrowServerCounts (r : Results) : List Int :=
  r.serverCounts.map narrowCount

def firstIsRows (r : Results) : Bool :=
  r.outcomes.head? == some .rows

def updateCount (r : Results) : Option Int :=
  r.outcomes.head?.bind Outcome.updateCount?

def shape? (r : Results) : Option RowShape :=
  r.resultSet.bind ResultSet.shape?

end Results

inductive ResultAction where
  | addUpdate (count insertId : Int)
  | addResultSet (set : ResultSet)
  | addFailure
  | setJoined (on : Bool)
  | finish

def Results.apply (r : Results) : ResultAction → Results
  | .addUpdate count insertId => r.addUpdate count insertId
  | .addResultSet set => r.addResultSet set
  | .addFailure => r.addFailure
  | .setJoined on => r.setJoined on
  | .finish => r.finish

end SqlStatement
