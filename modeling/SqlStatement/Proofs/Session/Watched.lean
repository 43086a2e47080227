import SqlStatement.Proofs.Server.History
import SqlStatement.Proofs.Session.Run
import SqlStatement.Proofs.Statement.Projection
/-!
# Watched sessions

A session can be seen through a function of its servers, and its operations can be done before or
after.  In particular every session can be run with a history of the calls on each connection;
without the histories this is the run of the session itself, `after_watched`.
-/
namespace SqlStatement

variable {σ τ κ : Type}

def Connection.map (f : σ → τ) (c : Connection σ) : Connection τ where
  server := f c.server
  options := c.options
  pool := c.pool

namespace Session

def mapServers (f : σ → τ) (s : Session σ) : Session τ where
  connections := s.connections.map (Connection.map f)
  pools := s.pools
  statements := s.statements

theorem mapServers_of_leftInverse {f : σ → τ} {g : τ → σ} (h : ∀ server, g (f server) = server)
    (s : Session σ) : (s.mapServers f).mapServers g = s := by
  unfold mapServers
  rw [List.map_map]
  refine congrArg (Session.mk · s.pools s.statements) ?_
  refine (List.map_congr_left fun c _ => ?_).trans (List.map_id _)
  rw [Function.comp_apply, Connection.map, Connection.map, h]
  rfl

/-- The session with an empty history on every connection. -/
def watched (s : Session σ) : Session (Traced σ) :=
  s.mapServers fun server => ⟨server, []⟩

private theorem mapServers_watched (s : Session σ) : s.watched.mapServers Traced.server = s :=
  mapServers_of_leftInverse (fun _ => rfl) s

private theorem mapServers_setServer (f : σ → τ) (s : Session σ) (i : Nat) (server : σ) :
    (s.setServer i server).mapServers f = (s.mapServers f).setServer i (f server) := by
  unfold mapServers setServer
  dsimp only
  congr 1
  apply List.ext_getElem?
  intro j
  rw [List.getElem?_map, List.getElem?_modify, List.getElem?_modify, List.getElem?_map]
  cases s.connections[j]? with
  | none => rfl
  | some c => by_cases hj : i = j <;> simp [hj, Connection.map]

private theorem connectionOf?_mapServers (f : σ → τ) (s : Session σ) (st : Statement) :
    (s.mapServers f).connectionOf? st =
      (s.connectionOf? st).map (Prod.map id (Connection.map f)) := by
  unfold connectionOf? mapServers
  rw [Option.map_bind]
  congr 1
  funext i
  rw [Function.comp_apply, List.getElem?_map, Option.map_map, Option.map_map]
  rfl

private theorem add_mapServers (f : σ → τ) (s : Session σ)
    (made : Except StatementError Statement) :
    (s.mapServers f).add made = Prod.map (mapServers f) id (s.add made) := by
  cases made <;> rfl

private theorem edit_mapServers (f : σ → τ) (s : Session σ) (p : Nat) (st : Statement) (e : Edit) :
    (s.mapServers f).edit p st e = Prod.map (mapServers f) id (s.edit p st e) := by
  unfold edit
  cases st.edit? e <;> rfl

private theorem setPools?_mapServers (f : σ → τ) (s : Session σ) (pool : Nat) (pools : Pools)
    (deliveries : List Delivery) :
    (s.mapServers f).setPools? pool pools deliveries =
      (s.setPools? pool pools deliveries).map (Prod.map (mapServers f) id) := by
  unfold setPools?
  rw [Option.map_map]
  rfl

variable [Server σ κ] [Server τ κ] {f : σ → τ}

private theorem errorContext_map (h : Server.Projection f) (c : Connection σ) (o : Options) :
    (c.map f).errorContext o = c.errorContext o := by
  unfold Connection.errorContext Connection.map
  rw [h.threadId, h.isPrimary]

private theorem prepare_map (h : Server.Projection f) (c : Connection σ) (i : Nat) (sql : String)
    (o : Options) : (c.map f).prepare i sql o = c.prepare i sql o := by
  unfold Connection.prepare
  rw [errorContext_map h]
  unfold Connection.map
  rw [h.escapeMode]

private theorem clone_map (h : Server.Projection f) (c : Connection σ) (i : Nat) (st : Statement) :
    (c.map f).clone i st = c.clone i st := by
  unfold Connection.clone
  rw [errorContext_map h]

private theorem clone_mapServers (h : Server.Projection f) (s : Session σ) (st : Statement) :
    (s.mapServers f).clone st = s.clone st := by
  unfold clone
  rw [connectionOf?_mapServers]
  cases s.connectionOf? st with
  | none => rfl
  | some ic =>
    dsimp only [Option.map_some, Prod.map, id]
    rw [clone_map h]

private theorem ask_mapServers (h : Server.Projection f) (s : Session σ) (st : Statement)
    (q : Query) : (s.mapServers f).ask st q = s.ask st q := by
  cases q with
  | cloneText =>
    unfold ask
    dsimp only
    rw [clone_mapServers h]
  | _ => rfl

private theorem project_run (h : Server.Projection f) (st : Statement) (e : Execution)
    (server : σ) : (run st e server).project (Prod.map f id) = run st e (f server) := by
  cases e with
  | once => rw [run, run, Timed.project_map, Statement.project_execute h]
  | query => rw [run, run, Timed.project_map, Statement.project_executeQuery h]
  | update => rw [run, run, Timed.project_map, Statement.project_executeUpdate h]
  | largeUpdate => rw [run, run, Timed.project_map, Statement.project_executeLargeUpdate h]
  | batch =>
    rw [run, run, Timed.project_map]
    exact congrArg _ (Statement.project_executeBatchWith h st _ server)
  | largeBatch =>
    rw [run, run, Timed.project_map]
    exact congrArg _ (Statement.project_executeBatchWith h st _ server)

private theorem project_abandonedAfter {α β : Type} (g : α → β) (patience : Option Nat)
    (work : Timed α Ending) :
    (abandonedAfter patience work).project g = abandonedAfter patience (work.project g) := by
  cases patience with
  | none => rfl
  | some ms =>
    unfold abandonedAfter
    dsimp only
    rw [Timed.project_map, Timed.project_cut]

private theorem onServer_mapServers (s : Session σ) (p : Nat) (st : Statement)
    {work : σ → Timed (σ × Statement) Ending} {work' : τ → Timed (τ × Statement) Ending}
    (hwork : ∀ server, (work server).project (Prod.map f id) = work' (f server)) :
    (s.mapServers f).onServer p st work' = Prod.map (mapServers f) id (s.onServer p st work) := by
  unfold onServer
  rw [connectionOf?_mapServers]
  cases s.connectionOf? st with
  | none => rfl
  | some ic =>
    obtain ⟨i, c⟩ := ic
    have hrun : work' (Connection.map f c).server = (work c.server).project (Prod.map f id) :=
      (hwork c.server).symm
    dsimp only [Option.map_some, Prod.map, id]
    rw [hrun, Timed.state_project, Timed.result_project, Timed.elapsed_project]
    exact congrArg (fun t : Session τ => (t.setStatement p (work c.server).state.2, _))
      (mapServers_setServer f s i _).symm

private theorem announcement?_mapServers (h : Server.Projection f) (s : Session σ)
    (st : Statement) : (s.mapServers f).announcement? st = s.announcement? st := by
  unfold announcement?
  rw [connectionOf?_mapServers]
  cases s.connectionOf? st with
  | none => rfl
  | some ic =>
    dsimp only [Option.map_some, Prod.map, Option.bind_some, Connection.map]
    rw [h.threadId]
    rfl

private theorem close_mapServers (h : Server.Projection f) (s : Session σ) (p : Nat)
    (st : Statement) : (s.mapServers f).close p st = Prod.map (mapServers f) id (s.close p st) := by
  unfold close
  rw [announcement?_mapServers h]
  split
  · rfl
  · cases s.announcement? st <;> rfl

omit [Server σ κ] [Server τ κ] in
private theorem map_statement_mapServers (s : Session σ) (p : Nat)
    {act : Statement → Session σ × Answer} {act' : Statement → Session τ × Answer}
    (hact : ∀ st, act' st = Prod.map (mapServers f) id (act st)) :
    (s.mapServers f).statements[p]?.map act' =
      (s.statements[p]?.map act).map (Prod.map (mapServers f) id) := by
  rw [Option.map_map]
  exact Option.map_congr fun st _ => hact st

omit [Server σ κ] [Server τ κ] in
private theorem map_connection_mapServers (s : Session σ) (i : Nat)
    {act : Connection σ → Session σ × Answer} {act' : Connection τ → Session τ × Answer}
    (hact : ∀ c, act' (Connection.map f c) = Prod.map (mapServers f) id (act c)) :
    (s.mapServers f).connections[i]?.map act' =
      (s.connections[i]?.map act).map (Prod.map (mapServers f) id) := by
  unfold mapServers
  rw [List.getElem?_map, Option.map_map, Option.map_map]
  exact Option.map_congr fun c _ => hact c

theorem step_mapServers (h : Server.Projection f) (s : Session σ) (op : Op κ) :
    (s.mapServers f).step op = (s.step op).map (Prod.map (mapServers f) id) := by
  cases op with
  | prepare i sql o =>
    apply map_connection_mapServers
    intro c
    rw [prepare_map h]
    exact add_mapServers f s _
  | clone p =>
    apply map_statement_mapServers
    intro st
    rw [clone_mapServers h]
    exact add_mapServers f s _
  | cloneOnto p i =>
    change s.statements[p]?.bind _ = (s.statements[p]?.bind _).map _
    rw [Option.map_bind]
    congr 1
    funext st
    apply map_connection_mapServers
    intro c
    rw [clone_map h]
    exact add_mapServers f s _
  | edit p e => exact map_statement_mapServers s p fun st => edit_mapServers f s p st e
  | ask p q =>
    apply map_statement_mapServers
    intro st
    rw [ask_mapServers h]
    rfl
  | execute p e patience =>
    apply map_statement_mapServers
    intro st
    apply onServer_mapServers
    intro server
    rw [project_abandonedAfter, project_run h]
  | metadata p =>
    apply map_statement_mapServers
    intro st
    apply onServer_mapServers
    intro server
    rw [← Statement.map_metadata h]
    rfl
  | parameterMetadata p =>
    apply map_statement_mapServers
    intro st
    apply onServer_mapServers
    intro server
    rw [← Statement.map_parameterMetadata h]
    rfl
  | close p => exact map_statement_mapServers s p fun st => close_mapServers h s p st
  | connection i sql =>
    apply map_connection_mapServers
    intro c
    dsimp only
    rw [errorContext_map h]
    rfl
  | connectionListing i => exact map_connection_mapServers s i fun c => rfl
  | change i change =>
    apply map_connection_mapServers
    intro c
    have hset := mapServers_setServer f s i (Server.change change c.server)
    rw [h.change] at hset
    exact congrArg (·, _) hset.symm
  | newListener l => exact setPools?_mapServers f s l.pool _ _
  | addListener pool name =>
    change (s.pools.named? name).bind _ = ((s.pools.named? name).bind _).map _
    rw [Option.map_bind]
    congr 1
    funext _
    exact setPools?_mapServers f s pool _ _
  | removeListener pool name =>
    change (s.pools.named? name).bind _ = ((s.pools.named? name).bind _).map _
    rw [Option.map_bind]
    congr 1
    funext _
    exact setPools?_mapServers f s pool _ _
  | fire pool notice => exact setPools?_mapServers f s pool _ _
  | poolListing pool =>
    change Option.map _ _ = Option.map _ (Option.map _ _)
    rw [Option.map_map]
    rfl

private theorem next_mapServers (h : Server.Projection f) (s : Session σ) (op : Op κ) :
    (s.mapServers f).next op = (s.next op).mapServers f := by
  unfold next
  rw [step_mapServers h]
  cases s.step op <;> rfl

theorem after_mapServers (h : Server.Projection f) (s : Session σ) (ops : List (Op κ)) :
    (s.mapServers f).after ops = (s.after ops).mapServers f := by
  induction ops generalizing s with
  | nil => rfl
  | cons op ops ih =>
    unfold after at ih ⊢
    rw [List.foldl_cons, List.foldl_cons, next_mapServers h]
    exact ih (s.next op)

/-- Watching a run changes nothing. -/
theorem after_watched (s : Session σ) (ops : List (Op κ)) :
    (s.watched.after ops).mapServers Traced.server = s.after ops := by
  rw [← after_mapServers Traced.projection, mapServers_watched]

def IsAskedOn (s : Session σ) (i : Nat) (call : Call) : Prop :=
  ∃ (p : Nat) (st : Statement), s.statements[p]? = some st ∧ st.connection = some i ∧
    call.IsOf st.requests

private theorem grows_setServer {s : Session (Traced σ)} {P : Call → Prop} {i j : Nat}
    {c d d' : Connection (Traced σ)} {server : Traced σ} (hc : s.connections[i]? = some c)
    (hserver : i = j → c.server.Grows P server) (hd : s.connections[j]? = some d)
    (hd' : (s.setServer i server).connections[j]? = some d') : d.server.Grows P d'.server := by
  rw [setServer, List.getElem?_modify, hd, Option.map_eq_map, Option.map_some] at hd'
  by_cases hj : i = j
  · obtain rfl : c = d := Option.some.inj (hc.symm.trans (hj ▸ hd))
    rw [if_pos hj] at hd'
    cases hd'
    exact hserver hj
  · rw [if_neg hj] at hd'
    cases hd'
    exact .refl P d.server

/-- Only executions and questions for metadata add to the history of a connection. -/
theorem Effect.grows_of {s s' : Session (Traced σ)} {op : Op κ} (h : Effect s op s')
    {P : Call → Prop} {j : Nat} {d d' : Connection (Traced σ)} (hd : s.connections[j]? = some d)
    (hd' : s'.connections[j]? = some d')
    (hexecuted : ∀ p e patience st server st', op = .execute p e patience →
      s.statements[p]? = some st → st.connection = some j →
      (abandonedAfter patience (run st e d.server)).state = (server, st') →
      d.server.Grows P server)
    (hdescribed : ∀ p st server st', s.statements[p]? = some st → st.connection = some j →
      (op = .metadata p ∧ (st.metadata d.server).1 = (server, st') ∨
        op = .parameterMetadata p ∧ (st.parameterMetadata d.server).1 = (server, st')) →
      d.server.Grows P server) :
    d.server.Grows P d'.server := by
  cases h with
  | executed hst hi hc hrun =>
    apply grows_setServer hc _ hd hd'
    rintro rfl
    cases hc.symm.trans hd
    exact hexecuted _ _ _ _ _ _ rfl hst hi hrun
  | described hop hst hi hc =>
    apply grows_setServer hc _ hd hd'
    rintro rfl
    cases hc.symm.trans hd
    exact hdescribed _ _ _ _ hst hi hop
  | changed hc =>
    apply grows_setServer hc _ hd hd'
    intro _
    exact .refl _ _
  | _ =>
    obtain rfl : d = d' := Option.some.inj (hd.symm.trans hd')
    exact .refl _ _

/-- An operation adds to the history of a connection what a statement on it asks for. -/
theorem Effect.grows {s s' : Session (Traced σ)} {op : Op κ} (h : Effect s op s') {j : Nat}
    {d d' : Connection (Traced σ)} (hd : s.connections[j]? = some d)
    (hd' : s'.connections[j]? = some d') : d.server.Grows (s.IsAskedOn j) d'.server := by
  apply h.grows_of hd hd'
  · intro p e patience st server st' _ hst hi hrun
    have hgrows := (executed_frame (Traced.movesFor_grows _) hrun).1
    exact hgrows.mono fun call hcall => ⟨p, st, hst, hi, hcall⟩
  · intro p st server st' hst hi hop
    have hgrows := (described_frame (Traced.movesFor_grows _) hop).1
    exact hgrows.mono fun call hcall => ⟨p, st, hst, hi, hcall⟩

theorem Effect.forall_calls {s s' : Session (Traced σ)} {op : Op κ} (h : Effect s op s')
    {P : Call → Prop} (hs : ∀ c ∈ s.connections, ∀ call ∈ c.server.calls, P call)
    (hasked : ∀ i call, s.IsAskedOn i call → P call) :
    ∀ c ∈ s'.connections, ∀ call ∈ c.server.calls, P call := by
  intro c' hmem
  obtain ⟨i, hc'⟩ := List.getElem?_of_mem hmem
  have hlt : i < s.connections.length := by
    rw [← h.length_connections]
    exact (List.getElem?_eq_some_iff.1 hc').1
  obtain ⟨calls, hcalls, hnew⟩ := h.grows (List.getElem?_eq_getElem hlt) hc'
  rw [hcalls]
  exact List.forall_mem_append.2
    ⟨hs _ (List.getElem_mem hlt), fun call hcall => hasked i call (hnew call hcall)⟩

end Session
end SqlStatement
