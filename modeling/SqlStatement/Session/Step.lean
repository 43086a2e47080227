import SqlStatement.Session.Basic
/-!
# Steps of sessions

`Session.step` performs one operation.  An operation about something that does not exist is no
step; a run of operations, `Session.after`, goes on without it.
-/
namespace SqlStatement.Session

variable {σ κ : Type} [Server σ κ]

/-- Performs an operation; `none` if it is about something that does not exist. -/
def step (s : Session σ) (op : Op κ) : Option (Session σ × Answer) :=
  match op with
  | .prepare i sql o =>
    s.connections[i]?.map fun c => s.add (c.prepare i sql (o.getD c.options))
  | .clone p => s.statements[p]?.map fun st => s.add (s.clone st)
  | .cloneOnto p i =>
    s.statements[p]?.bind fun st => s.connections[i]?.map fun c => s.add (c.clone i st)
  | .edit p e => s.statements[p]?.map fun st => s.edit p st e
  | .ask p q => s.statements[p]?.map fun st => (s, { ending := s.ask st q, statement := p })
  | .execute p e patience =>
    s.statements[p]?.map fun st =>
      s.onServer p st fun server => abandonedAfter patience (run st e server)
  | .metadata p =>
    s.statements[p]?.map fun st => s.onServer p st fun server =>
      let (t, r) := st.metadata server
      .done t (.ofExcept .shape r)
  | .parameterMetadata p =>
    s.statements[p]?.map fun st => s.onServer p st fun server =>
      let (t, r) := st.parameterMetadata server
      .done t (.ofExcept .parameters r)
  | .close p => s.statements[p]?.map fun st => s.close p st
  | .connection i sql =>
    s.connections[i]?.map fun c =>
      let ctx := c.errorContext c.options
      (s, { ending :=
        .reply (.connection c.options c.pool.isSome ctx.label (ctx.queryExcerpt sql)) })
  | .connectionListing i =>
    s.connections[i]?.map fun c => (s, { ending := .reply (.text (c.listing s.pools)) })
  | .change i change =>
    s.connections[i]?.map fun c =>
      (s.setServer i (Server.change change c.server), { ending := .reply .nothing })
  | .newListener l => s.setPools? l.pool (s.pools.create l) []
  | .addListener pool name =>
    (s.pools.named? name).bind fun _ => s.setPools? pool (s.pools.register pool name) []
  | .removeListener pool name =>
    (s.pools.named? name).bind fun _ => s.setPools? pool (s.pools.unregister pool name) []
  | .fire pool notice =>
    let (pools, deliveries) := s.pools.fire pool notice
    s.setPools? pool pools deliveries
  | .poolListing pool =>
    s.pools.registered[pool]?.map fun _ =>
      (s, { ending := .reply (.text (s.pools.listing pool)) })

/-- The session after one operation, which is left out if it is about something that does not
exist. -/
def next (s : Session σ) (op : Op κ) : Session σ :=
  (s.step op).elim s Prod.fst

def after (s : Session σ) (ops : List (Op κ)) : Session σ :=
  ops.foldl next s

end SqlStatement.Session
