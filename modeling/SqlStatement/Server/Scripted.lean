import SqlStatement.Server
/-!
# A scripted server

A server that answers as its script says and remembers everything it was asked.  The script can
change between operations; failures are chosen by the number of the execution or by the text
that is executed.
-/
namespace SqlStatement

structure TextPattern where
  text : String
  atStart : Bool
deriving DecidableEq, Repr

def isInfix (part : List Char) : List Char → Bool
  | [] => part.isEmpty
  | c :: cs => part.isPrefixOf (c :: cs) || isInfix part cs

def TextPattern.occursIn (p : TextPattern) (s : String) : Bool :=
  if p.atStart then p.text.toList.isPrefixOf s.toList
  else isInfix p.text.toList s.toList

inductive BatchBehavior where
  | decline
  /-- Sends one insert with many rows if the template allows it. -/
  | join
  | perEntry
  | fail (f : Failure)
deriving DecidableEq, Repr

inductive ProbeBehavior where
  | describe (d : Description)
  | openFails (f : Failure)
  | describeFails (f : Failure)
deriving DecidableEq, Repr

structure Record where
  executed : List String := []
  rows : List Row := []
  limits : List (Option Duration) := []
  joined : List String := []
  batchOffers : Nat := 0
  longData : List Bool := []
  probed : List String := []
  probesOpened : Nat := 0
  probesClosed : Nat := 0
  polls : Nat := 0
  primary : List Bool := []

structure ScriptedServer where
  threadId : Nat := 1
  primary : Bool := true
  mode : EscapeMode := .backslash
  enforcesTimeout : Bool := false
  batch : BatchBehavior := .decline
  probe : ProbeBehavior := .describe ⟨none, .known []⟩
  updateCount : Int := 1
  nextInsertId : Int := 1
  resultSet : Option ResultSet := none
  delay : Option Nat := none
  batchDelay : Option Nat := none
  failTexts : List (TextPattern × Failure) := []
  failCalls : List (Nat × Failure) := []
  /-- The number of polls that pass before polls report an interruption. -/
  pollsAllowed : Option Nat := none
  /-- What is recorded before an execution of a given number, the latest instruction first. -/
  beforeCalls : List (Nat × List ResultAction) := []
  beforeBatch : List ResultAction := []
  closeFailure : Option Failure := none
  record : Record := {}

inductive ScriptChange where
  | batch (b : BatchBehavior)
  | probe (p : ProbeBehavior)
  | updateCount (n : Int)
  | resultSet (set : Option ResultSet)
  | delay (millis : Option Nat)
  | batchDelay (millis : Option Nat)
  | failText (p : TextPattern) (f : Failure)
  | failCall (call : Nat) (f : Failure)
  | interruptAfter (polls : Nat)
  | beforeCall (call : Nat) (actions : List ResultAction)
  | beforeBatch (actions : List ResultAction)
  | closeFailure (f : Option Failure)
  | reports (threadId : Option Nat) (primary : Option Bool) (mode : Option EscapeMode)
      (enforcesTimeout : Option Bool)

namespace ScriptedServer

def follow (change : ScriptChange) (s : ScriptedServer) : ScriptedServer :=
  match change with
  | .batch b => { s with batch := b }
  | .probe p => { s with probe := p }
  | .updateCount n => { s with updateCount := n }
  | .resultSet set => { s with resultSet := set }
  | .delay millis => { s with delay := millis }
  | .batchDelay millis => { s with batchDelay := millis }
  | .failText p f => { s with failTexts := s.failTexts ++ [(p, f)] }
  | .failCall call f => { s with failCalls := (call, f) :: s.failCalls }
  | .interruptAfter polls => { s with pollsAllowed := some polls }
  | .beforeCall call actions => { s with beforeCalls := (call, actions) :: s.beforeCalls }
  | .beforeBatch actions => { s with beforeBatch := actions }
  | .closeFailure f => { s with closeFailure := f }
  | .reports threadId primary mode enforcesTimeout =>
    { s with
      threadId := threadId.getD s.threadId
      primary := primary.getD s.primary
      mode := mode.getD s.mode
      enforcesTimeout := enforcesTimeout.getD s.enforcesTimeout }

def sleep {τ α : Type} (millis : Option Nat) (s : τ) (work : τ → τ × α) : Timed τ α :=
  let run := Timed.done (work s).1 (work s).2
  match millis with
  | none => run
  | some ms => .sleep ms s run

/-- Records an update of the scripted count with a fresh insert id. -/
def countUpdate (s : ScriptedServer × Results) : ScriptedServer × Results :=
  ({ s.1 with nextInsertId := s.1.nextInsertId + 1 },
    s.2.addUpdate s.1.updateCount s.1.nextInsertId)

def failure? (s : ScriptedServer) (sql : String) : Option Failure :=
  (s.failCalls.lookup s.record.executed.length) <|>
    ((s.failTexts.find? fun p => p.1.occursIn sql).map Prod.snd)

def noteExecution (s : ScriptedServer) (primary : Bool) (sql : String) (row : Row)
    (limit : Option Duration) : ScriptedServer :=
  { s with record := { s.record with
      executed := s.record.executed ++ [sql]
      rows := s.record.rows ++ [row]
      limits := s.record.limits ++ [limit]
      primary := s.record.primary ++ [primary] } }

def answerExecution (sql : String) (s : ScriptedServer × Results) :
    (ScriptedServer × Results) × Except Failure Unit :=
  match s.1.failure? sql with
  | some f => (s, .error f)
  | none =>
    match s.1.resultSet with
    | some set => ((s.1, s.2.addResultSet set), .ok ())
    | none => (countUpdate s, .ok ())

def execute (primary : Bool) (template : Template) (row : Row) (limit : Option Duration)
    (s : ScriptedServer × Results) : Timed (ScriptedServer × Results) (Except Failure Unit) :=
  let (server, log) := s
  let actions := (server.beforeCalls.lookup (server.record.executed.length + 1)).getD []
  let sql := (template.render row).toOption.getD template.sql
  let noted := server.noteExecution primary sql row limit
  sleep server.delay (noted, actions.foldl Results.apply log) (answerExecution sql)

/-- The product of a count and a number of rows, kept within 64 bits. -/
def joinedCount (count : Int) (rows : Nat) : Int :=
  max Int64.minValue.toInt (min (count * rows) Int64.maxValue.toInt)

def noteOffer (s : ScriptedServer) (longData : Bool) : ScriptedServer :=
  { s with record := { s.record with
      batchOffers := s.record.batchOffers + 1
      longData := s.record.longData ++ [longData] } }

def answerBatch (template : Template) (rows : List Row) (longData : Bool)
    (s : ScriptedServer × Results) : (ScriptedServer × Results) × Except Failure Bool :=
  let server := s.1.noteOffer longData
  let log := s.2
  match server.batch with
  | .decline => ((server, log), .ok false)
  | .fail f => ((server, log), .error f)
  | .perEntry => (rows.foldl (fun s _ => countUpdate s) (server, log), .ok true)
  | .join =>
    match template.renderJoined? rows with
    | none => ((server, log), .ok false)
    | some sql =>
      let sent := { server.record with joined := server.record.joined ++ [sql] }
      let log := (log.setJoined true).addUpdate (joinedCount server.updateCount rows.length)
        server.nextInsertId
      (({ server with record := sent }, log), .ok true)

def executeBatch (primary : Bool) (template : Template) (rows : List Row) (longData : Bool)
    (s : ScriptedServer × Results) : Timed (ScriptedServer × Results) (Except Failure Bool) :=
  let (server, log) := s
  let noted := { server with record := { server.record with
    primary := server.record.primary ++ [primary] } }
  sleep server.batchDelay (noted, server.beforeBatch.foldl Results.apply log)
    (answerBatch template rows longData)

/-- Counts a poll, which fails once more polls were made than are allowed. -/
def poll (s : ScriptedServer) : ScriptedServer × Except Failure Unit :=
  let polls := s.record.polls + 1
  ({ s with record := { s.record with polls } },
    if s.pollsAllowed.any (· < polls) then .error .interrupted else .ok ())

def openProbe (sql : String) (s : ScriptedServer) : ScriptedServer × Except Failure Unit :=
  let r := { s.record with probed := s.record.probed ++ [sql] }
  match s.probe with
  | .openFails f => ({ s with record := r }, .error f)
  | _ => ({ s with record := { r with probesOpened := r.probesOpened + 1 } }, .ok ())

def describe (s : ScriptedServer) : ScriptedServer × Except Failure Description :=
  (s,
    match s.probe with
    | .describe d => .ok d
    | .openFails f | .describeFails f => .error f)

def closeProbe (s : ScriptedServer) : ScriptedServer × Except Failure Unit :=
  ({ s with record := { s.record with probesClosed := s.record.probesClosed + 1 } },
    match s.closeFailure with
    | some f => .error f
    | none => .ok ())

instance : Server ScriptedServer ScriptChange where
  isPrimary s := s.primary
  threadId s := s.threadId
  escapeMode s := s.mode
  enforcesTimeout s := s.enforcesTimeout
  execute := execute
  executeBatch := executeBatch
  poll := poll
  openProbe := openProbe
  describe := describe
  closeProbe := closeProbe
  change := follow

end ScriptedServer

namespace Record

def isSameAs (now before : Record) : Bool :=
  now.executed.length == before.executed.length && now.batchOffers == before.batchOffers &&
    now.primary.length == before.primary.length && now.probed.length == before.probed.length &&
    now.probesOpened == before.probesOpened && now.probesClosed == before.probesClosed &&
    now.polls == before.polls

/-- The requests since an earlier record; the numbers stay totals. -/
def since (now before : Record) : Record :=
  { now with
    executed := now.executed.drop before.executed.length
    rows := now.rows.drop before.rows.length
    limits := now.limits.drop before.limits.length
    joined := now.joined.drop before.joined.length
    longData := now.longData.drop before.longData.length
    probed := now.probed.drop before.probed.length
    primary := now.primary.drop before.primary.length }

end Record
end SqlStatement
