import SqlStatement.Proofs.Server.InsertIds
import SqlStatement.Proofs.Session.Outcome
import SqlStatement.Proofs.Session.Watched
/-!
# Insert ids in sessions

In every run the updates that a connection records have ids that never fall.  Two of them share
an id exactly if all from the first up to the second are joined inserts, so that ids are reused
only after a joined insert.  The ids that a statement shows are ids of such updates
(`Session.insertIds_after`).
-/
namespace SqlStatement

def ScriptChange.IsPlain : ScriptChange → Prop
  | .beforeCall .. | .beforeBatch _ => False
  | _ => True

theorem Booked.InOrder.change {b : Booked} (h : b.InOrder) {change : ScriptChange}
    (hchange : change.IsPlain) : InOrder (Server.change change b) := by
  obtain ⟨⟨hcalls, hbatch⟩, hnumbered⟩ := h
  cases change with
  | beforeCall | beforeBatch => exact hchange.elim
  | _ => exact ⟨⟨hcalls, hbatch⟩, hnumbered⟩

/-- Which of the updates share their ids. -/
structure SharesIds (updates : List Update) : Prop where
  sorted : (updates.map Update.insertId).Pairwise (· ≤ ·)
  eq_iff : ∀ before u between v after, updates = before ++ u :: (between ++ v :: after) →
    (u.insertId = v.insertId ↔ ∀ w ∈ u :: between, w.joined = true)
  nodup_iff : (updates.map Update.insertId).Nodup ↔ ∀ u ∈ updates.dropLast, u.joined = false

private theorem Numbered.sharesIds {first next : Int} {updates : List Update}
    (h : Numbered first updates next) : SharesIds updates where
  sorted := h.sorted
  eq_iff before u between v after hsplit := by
    rw [hsplit] at h
    exact h.insertId_eq_iff
  nodup_iff := h.nodup_iff

namespace Session

def booked (s : Session ScriptedServer) : Session Booked :=
  s.mapServers fun server => ⟨server, []⟩

private theorem after_booked (s : Session ScriptedServer) (ops : List (Op ScriptChange)) :
    (s.booked.after ops).mapServers Booked.server = s.after ops := by
  rw [← after_mapServers Booked.projection, booked, mapServers_of_leftInverse fun _ => rfl]

def InOrder (s : Session Booked) : Prop :=
  ∀ c ∈ s.connections, c.server.InOrder

private theorem inOrder_booked {s : Session ScriptedServer}
    (hplain : ∀ c ∈ s.connections, c.server.IsPlain) : s.booked.InOrder := by
  intro c hmem
  obtain ⟨d, hd, rfl⟩ := List.mem_map.1 hmem
  exact ⟨hplain d hd, _, .nil _⟩

theorem InOrder.next {s s' : Session Booked} {op : Op ScriptChange} (hs : s.InOrder)
    (h : Effect s op s') (hop : ∀ i change, op = .change i change → change.IsPlain) :
    s'.InOrder := by
  have hrequests : Server.MovesAlong fun a b : Booked => a.InOrder → b.InOrder := by
    refine Booked.movesAlong_books.mono ?_ fun hab hbc ha => hbc (hab ha)
    intro a b hab ha
    obtain ⟨us, hus⟩ := hab ha.isPlain
    exact hus.inOrder ha
  exact h.forall_servers hrequests (fun i change hi b hb => hb.change (hop i change hi)) hs

/-- The ids that a statement shows were booked on its connection, one after another. -/
def ShowsBooked (s : Session Booked) (st : Statement) : Prop :=
  ∀ log, st.results = some log → ∃ i c, st.connection = some i ∧ s.connections[i]? = some c ∧
    log.insertIds <:+: c.server.updates.map Update.insertId

variable {s s' : Session Booked} {st st' : Statement} {c : Connection Booked} {i : Nat}

private theorem showsBooked_of_none (h : st.results = none) : s.ShowsBooked st := by
  intro log hlog
  rw [h] at hlog
  cases hlog

theorem ShowsBooked.congr (h : s.ShowsBooked st) (hresults : st'.results = st.results)
    (hconnection : st'.connection = st.connection) : s.ShowsBooked st' := by
  unfold ShowsBooked at h ⊢
  rwa [hresults, hconnection]

private theorem getElem?_setServer (hc : s.connections[i]? = some c) (server : Booked) :
    (s.setServer i server).connections[i]? = some { c with server } := by
  simp [setServer, hc]

theorem ShowsBooked.setServer (h : s.ShowsBooked st) (hc : s.connections[i]? = some c)
    {server : Booked} (hgrows : c.server.updates <+: server.updates) :
    (s.setServer i server).ShowsBooked st := by
  intro log hlog
  obtain ⟨j, d, hj, hd, hids⟩ := h log hlog
  by_cases hij : i = j
  · subst hij
    obtain rfl := Option.some.inj (hc.symm.trans hd)
    exact ⟨i, _, hj, getElem?_setServer hc server, hids.trans (hgrows.map _).isInfix⟩
  · refine ⟨j, d, hj, ?_, hids⟩
    simp [Session.setServer, hd, hij]

private theorem showsBooked_executed {e : Execution} {patience : Option Nat} {server : Booked}
    (hi : st.connection = some i) (hc : s.connections[i]? = some c)
    (hplain : c.server.server.IsPlain)
    (hrun : (abandonedAfter patience (run st e c.server)).state = (server, st'))
    (h : s.ShowsBooked st) : (s.setServer i server).ShowsBooked st' := by
  have hleaves := leaves_run st e c.server patience
  rw [hrun] at hleaves
  have hsame : st.SameButOutcome st' := hleaves.sameButOutcome
  generalize (abandonedAfter patience (run st e c.server)).result = ending at hleaves
  cases hleaves with
  | refused => exact h.setServer hc (List.prefix_refl _)
  | ended _ _ hended =>
    obtain ⟨log, hresults, hleads⟩ := hended.exists_log
    obtain ⟨us, hbooks, hids⟩ := Booked.agrees_of_leads hleads hplain
    intro shown hshown
    obtain rfl := Option.some.inj (hresults.symm.trans hshown)
    have hnew : log.finish.insertIds = us.map Update.insertId := by
      have hfresh : (st.freshLog e.isBatch).insertIds = [] := by
        cases e <;> rfl
      rw [hfresh, List.nil_append] at hids
      exact hids
    have hconnection : st'.connection = some i := by
      rw [hsame]
      exact hi
    refine ⟨i, _, hconnection, getElem?_setServer hc server, ?_⟩
    rw [hnew, hbooks.updates, List.map_append]
    exact (List.suffix_append _ _).isInfix
  | dropped _ hunderway =>
    refine showsBooked_of_none ?_
    have hstatement := hunderway.statement
    dsimp only at hstatement
    rw [hstatement]

private theorem isPrefix_of_moves {a b : Booked} (h : a.server.IsPlain → ∃ us, Booked.Books a b us)
    (ha : a.InOrder) : a.updates <+: b.updates := by
  obtain ⟨us, hus⟩ := h ha.isPlain
  exact hus.isPrefix

private theorem Effect.showsBooked {op : Op ScriptChange} (h : Effect s op s') (hs : s.InOrder)
    (hshows : ∀ st ∈ s.statements, s.ShowsBooked st) :
    ∀ st ∈ s'.statements, s'.ShowsBooked st := by
  cases h with
  | nothing | pools => exact hshows
  | prepared hc hmade =>
    obtain ⟨-, rfl⟩ := Connection.prepare_eq_ok hmade
    exact List.forall_mem_append.2
      ⟨hshows, List.forall_mem_singleton.2 (showsBooked_of_none rfl)⟩
  | cloned _ _ _ hcopy | clonedOnto _ _ hcopy =>
    obtain ⟨-, rfl⟩ := Connection.clone_eq_ok hcopy
    exact List.forall_mem_append.2
      ⟨hshows, List.forall_mem_singleton.2 (showsBooked_of_none rfl)⟩
  | edited hst hst' =>
    have hframe := (Statement.edit?_frame hst').2
    refine forall_setStatement hshows _ ((hshows _ (List.mem_of_getElem? hst)).congr ?_ ?_)
    all_goals rw [hframe]
  | executed hst hi hc hrun =>
    have hordered := hs _ (List.mem_of_getElem? hc)
    have hmoves := (executed_frame (Booked.movesAlong_books.movesFor _) hrun).1
    have hgrows := isPrefix_of_moves hmoves hordered
    refine forall_setStatement (s := s.setServer _ _)
      (fun st hst => (hshows st hst).setServer hc hgrows) _ ?_
    exact showsBooked_executed hi hc hordered.isPlain hrun (hshows _ (List.mem_of_getElem? hst))
  | described hop hst hi hc =>
    have hordered := hs _ (List.mem_of_getElem? hc)
    obtain ⟨hmoves, hsame⟩ := described_frame (Booked.movesAlong_books.movesFor _) hop
    have hgrows := isPrefix_of_moves hmoves hordered
    refine forall_setStatement (s := s.setServer _ _)
      (fun st hst => (hshows st hst).setServer hc hgrows) _ ?_
    refine ((hshows _ (List.mem_of_getElem? hst)).setServer hc hgrows).congr ?_ ?_
    all_goals rw [hsame]
  | closed hst hopen hst' =>
    refine forall_setStatement hshows _ (showsBooked_of_none ?_)
    obtain rfl | rfl := hst' <;> rfl
  | changed hc =>
    exact fun st hst => (hshows st hst).setServer hc (List.prefix_refl _)

/-- After every run of executions and batches, failing or not, two updates on a connection have
one id exactly if all from the first up to the second are joined inserts.  The ids that a statement
shows are among those of its connection. -/
theorem insertIds_after {connections : List (Connection ScriptedServer)}
    (hplain : ∀ c ∈ connections, c.server.IsPlain) (pools : Pools) {ops : List (Op ScriptChange)}
    (hops : ∀ i change, .change i change ∈ ops → change.IsPlain) :
    ((start connections pools).booked.after ops).mapServers Booked.server =
        (start connections pools).after ops ∧
      (∀ c ∈ ((start connections pools).booked.after ops).connections,
        SharesIds c.server.updates) ∧
      ∀ st ∈ ((start connections pools).booked.after ops).statements,
        ((start connections pools).booked.after ops).ShowsBooked st := by
  have hkept : ((start connections pools).booked.after ops).InOrder ∧
      ∀ st ∈ ((start connections pools).booked.after ops).statements,
        ((start connections pools).booked.after ops).ShowsBooked st := by
    refine after_keeps
      (I := fun s : Session Booked => s.InOrder ∧ ∀ st ∈ s.statements, s.ShowsBooked st)
      ⟨inOrder_booked hplain, List.forall_mem_nil _⟩ ?_
    rintro s s' op hop ⟨hordered, hshows⟩ heffect
    exact ⟨hordered.next heffect fun i change hi => hops i change (hi ▸ hop),
      heffect.showsBooked hordered hshows⟩
  obtain ⟨hordered, hshows⟩ := hkept
  refine ⟨after_booked _ ops, fun c hc => ?_, hshows⟩
  obtain ⟨first, hnumbered⟩ := (hordered c hc).numbered
  exact hnumbered.sharesIds

def twoRowsQueued : List (Op ScriptChange) :=
  [.prepare 0 "insert into t values (?)" (some { joinBatches := true }),
    .edit 0 (.setValue 1 (.int 7)), .edit 0 .addBatch, .edit 0 .addBatch]

def joinedLast : List (Op ScriptChange) :=
  twoRowsQueued ++ [.execute 0 .batch none, .change 0 (.batch .perEntry),
    .execute 0 .batch none, .change 0 (.failCall 3 .interrupted), .execute 0 .once none,
    .change 0 (.batch .join), .execute 0 .batch none]

/-- Two rows one by one, two rows counted by the server, a failure, and two rows joined. -/
theorem insertIds_after_joinedLast :
    ∃ c st log, ((start oneServer (.ofCount 0)).booked.after joinedLast).connections[0]? = some c ∧
      c.server.updates = [⟨1, false⟩, ⟨2, false⟩, ⟨3, false⟩, ⟨4, false⟩, ⟨5, true⟩] ∧
      (c.server.updates.map Update.insertId).Nodup ∧
      ((start oneServer (.ofCount 0)).booked.after joinedLast).statements[0]? = some st ∧
      st.results = some log ∧ log.insertIds = [5] ∧
      log.insertIds <:+: c.server.updates.map Update.insertId := by
  have hplain : ∀ c ∈ oneServer, c.server.IsPlain := List.forall_mem_singleton.2 ⟨rfl, rfl⟩
  have hops : ∀ i change, .change i change ∈ joinedLast → change.IsPlain := by
    intro i change hmem
    simp [joinedLast, twoRowsQueued] at hmem
    rcases hmem with ⟨-, rfl⟩ | ⟨-, rfl⟩ | ⟨-, rfl⟩ <;> trivial
  obtain ⟨-, hshares, hshows⟩ := insertIds_after hplain (.ofCount 0) hops
  have hdistinct := (hshares _ List.mem_cons_self).nodup_iff.2 (by decide)
  obtain ⟨i, c, hi, hc, hids⟩ := hshows _ List.mem_cons_self _ rfl
  cases hi
  cases hc
  exact ⟨_, _, _, rfl, rfl, hdistinct, rfl, rfl, rfl, hids⟩

def joinedFirst : List (Op ScriptChange) :=
  twoRowsQueued ++ [.change 0 (.batch .join), .execute 0 .batch none, .execute 0 .once none]

/-- An execution after a joined insert gets its id again. -/
theorem insertId_reused :
    ∃ c, ((start oneServer (.ofCount 0)).booked.after joinedFirst).connections[0]? = some c ∧
      c.server.updates = [⟨1, true⟩, ⟨1, false⟩] ∧
      ¬(c.server.updates.map Update.insertId).Nodup :=
  ⟨_, rfl, rfl, by decide⟩

end Session
end SqlStatement
