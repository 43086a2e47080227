import SqlStatement.Proofs.Session.Failing
import SqlStatement.Proofs.Session.Outcome
import SqlStatement.Proofs.Statement.Discovery
/-!
# Discovery along runs

What is known of the rows of a statement stays known, also to the clones that are taken from then
on, and nobody probes for it again.  An operation finds out nothing or what one probe describes,
`Effect.discovers`, and the probe closes every handle that it has opened.
-/
namespace SqlStatement

variable {σ κ : Type}

def Op.statement? : Op κ → Option Nat
  | .clone p | .cloneOnto p _ | .edit p _ | .ask p _ | .execute p _ _ | .metadata p
  | .parameterMetadata p | .close p => some p
  | _ => none

namespace Session

def newCalls (before after : Session (Traced σ)) (i : Nat) : List Call :=
  match before.connections[i]?, after.connections[i]? with
  | some c, some c' => c'.server.calls.drop c.server.calls.length
  | _, _ => []

private theorem newCalls_eq {s s' : Session (Traced σ)} {i : Nat} {c c' : Connection (Traced σ)}
    {calls : List Call} (hc : s.connections[i]? = some c) (hc' : s'.connections[i]? = some c')
    (h : c'.server.calls = c.server.calls ++ calls) : s.newCalls s' i = calls := by
  unfold newCalls
  rw [hc, hc']
  dsimp only
  rw [h, List.drop_left]

private theorem newCalls_of_connections {s s' : Session (Traced σ)}
    (h : s'.connections = s.connections) (i : Nat) : s.newCalls s' i = [] := by
  unfold newCalls
  rw [h]
  cases s.connections[i]? with
  | none => rfl
  | some c => exact List.drop_length

private theorem newCalls_setServer {s : Session (Traced σ)} {i : Nat} {c : Connection (Traced σ)}
    {server : Traced σ} {calls : List Call} (hc : s.connections[i]? = some c)
    (h : server.calls = c.server.calls ++ calls) (j : Nat) :
    s.newCalls (s.setServer i server) j = if i = j then calls else [] := by
  have hj : (s.setServer i server).connections[j]? =
      s.connections[j]?.map fun d => if i = j then { d with server } else d := by
    rw [setServer, List.getElem?_modify]
    rfl
  by_cases hij : i = j
  · subst hij
    rw [if_pos rfl]
    rw [hc, Option.map_some, if_pos rfl] at hj
    exact newCalls_eq hc hj h
  · rw [if_neg hij]
    simp only [if_neg hij, Option.map_id'] at hj
    cases hd : s.connections[j]? with
    | none => rw [newCalls, hd]
    | some d => exact newCalls_eq hd (hj.trans hd) (List.append_nil _).symm

private theorem forall_newCalls_of_grows {s : Session (Traced σ)} {i : Nat}
    {c : Connection (Traced σ)} {server : Traced σ} {P : Call → Prop}
    (hc : s.connections[i]? = some c) (hgrows : c.server.Grows P server) :
    ∀ j, ∀ call ∈ s.newCalls (s.setServer i server) j, P call := by
  obtain ⟨calls, hcalls, hP⟩ := hgrows
  intro j call hcall
  rw [newCalls_setServer hc hcalls] at hcall
  split at hcall
  · exact hP call hcall
  · cases hcall

variable [Server σ κ]

private theorem Effect.calls_eq {s s' : Session (Traced σ)} {op : Op κ} (h : Effect s op s')
    {i : Nat} {c c' : Connection (Traced σ)} (hc : s.connections[i]? = some c)
    (hc' : s'.connections[i]? = some c') : c'.server.calls = c.server.calls ++ s.newCalls s' i := by
  obtain ⟨calls, hcalls, -⟩ := h.grows hc hc'
  rw [newCalls_eq hc hc' hcalls]
  exact hcalls

private theorem grows_of_leads {q : Requests} {start s : Traced σ × Results}
    (h : Server.Leads q start s) :
    start.1.Grows (fun call => call.isProbe = false) s.1 := by
  have hnote {t : Traced σ} {server : σ} {call : Call} (hcall : call.isProbe = false)
      (ht : start.1.Grows (fun call => call.isProbe = false) t) :
      start.1.Grows (fun call => call.isProbe = false) (t.note server call) :=
    ht.trans (Traced.grows_note hcall server)
  induction h with
  | start => exact .refl _ _
  | executes _ _ hs' ih =>
    exact (Traced.shows_execute fun _ _ => hnote rfl ih).of_mem_shown hs'
  | offers _ hs' ih =>
    exact (Traced.shows_executeBatch fun _ _ => hnote rfl ih).of_mem_shown hs'
  | @polls server log _ ih =>
    have hpoll : (Call.poll (Server.poll server.server).2).isProbe = false := rfl
    exact hnote hpoll ih
  | notesFailure _ ih => exact ih

private theorem grows_run (st : Statement) (e : Execution) (t : Traced σ) (patience : Option Nat) :
    t.Grows (fun call => call.isProbe = false)
      (abandonedAfter patience (run st e t)).state.1 := by
  have hleaves := leaves_run st e t patience
  generalize (abandonedAfter patience (run st e t)).state = s at hleaves ⊢
  generalize (abandonedAfter patience (run st e t)).result = ending at hleaves
  cases hleaves with
  | refused => exact .refl _ _
  | ended _ _ hs =>
    cases hs with
    | single _ hlog | batch _ hlog => exact grows_of_leads hlog
  | dropped _ hs =>
    obtain ⟨log, hlog⟩ := hs.requests
    exact grows_of_leads hlog

theorem Evolves.cache {op : Op κ} {p : Nat} {st st' : Statement} (h : Evolves op p st st')
    (hop : op ≠ .metadata p ∧ op ≠ .parameterMetadata p) : st'.cache = st.cache := by
  cases h with
  | same => rfl
  | edited _ hst' => rw [(Statement.edit?_frame hst').2]
  | executed _ hst' => rw [hst'.sameButOutcome]
  | described hdescribe => exact absurd hdescribe (not_or.2 hop)
  | closed _ _ hst' => rcases hst' with rfl | rfl <;> rfl

/-- What an operation finds out: nothing, or what one probe finds out about one statement, which
is made on its connection because what was asked for is not known. -/
inductive Discovers (s : Session (Traced σ)) (op : Op κ) (s' : Session (Traced σ)) : Prop
  | nothing (hcalls : ∀ i, ∀ call ∈ s.newCalls s' i, call.isProbe = false)
      (hcache : ∀ (p : Nat) (st st' : Statement), s.statements[p]? = some st →
        s'.statements[p]? = some st' → st'.cache = st.cache)
  | probed {p i : Nat} {st : Statement} {calls : List Call} {r : Except Failure Description}
      (hop : op = .metadata p ∧ st.cache.rows = none ∨
        op = .parameterMetadata p ∧ st.cache.parameters = none)
      (hst : s.statements[p]? = some st) (hi : st.connection = some i)
      (hprobe : ProbeCalls st.template.sql calls r)
      (hcalls : ∀ j, s.newCalls s' j = if i = j then calls else [])
      (hst' : ∀ q, s'.statements[q]? =
        if p = q then some { st with cache := st.cache.learn r } else s.statements[q]?)

variable {s s' : Session (Traced σ)} {op : Op κ}

omit [Server σ κ] in
private theorem discovers_of_kept (hconnections : s'.connections = s.connections)
    (hstatements : s'.statements = s.statements) : s.Discovers op s' := by
  constructor
  · intro i call hcall
    rw [newCalls_of_connections hconnections] at hcall
    cases hcall
  · intro p st st' hst hst'
    rw [hstatements] at hst'
    cases hst.symm.trans hst'
    rfl

private theorem discovers_of_effect (h : Effect s op s')
    (hop : ∀ p, op ≠ .metadata p ∧ op ≠ .parameterMetadata p)
    (hcalls : ∀ i, ∀ call ∈ s.newCalls s' i, call.isProbe = false) : s.Discovers op s' := by
  refine .nothing hcalls ?_
  intro p st st' hst hst'
  obtain ⟨before, hbefore, hevolves⟩ | ⟨hnew, -⟩ := h.statement_cases hst'
  · cases hst.symm.trans hbefore
    exact hevolves.cache (hop p)
  · have hlt := (List.getElem?_eq_some_iff.1 hst).1
    omega

omit [Server σ κ] in
private theorem discovers_of_probed {p i : Nat} {st : Statement} {c : Connection (Traced σ)}
    {t : Traced σ × Statement} (hst : s.statements[p]? = some st) (hi : st.connection = some i)
    (hc : s.connections[i]? = some c)
    (hop : op = .metadata p ∧ st.cache.rows = none ∨
      op = .parameterMetadata p ∧ st.cache.parameters = none)
    (h : st.Probed c.server t) :
    s.Discovers op ((s.setServer i t.1).setStatement p t.2) := by
  obtain ⟨calls, r, hprobe, hcalls, hst'⟩ := h
  refine .probed hop hst hi hprobe (newCalls_setServer hc hcalls) fun q => ?_
  rw [setStatement, List.getElem?_set, ← hst']
  by_cases hq : p = q
  · have hlt : p < (s.setServer i t.1).statements.length := (List.getElem?_eq_some_iff.1 hst).1
    rw [if_pos hq, if_pos hlt, if_pos hq]
  · rw [if_neg hq, if_neg hq]
    rfl

theorem described_cases {p : Nat} {st st' : Statement} {start server : Traced σ}
    (hop : op = .metadata p ∧ (st.metadata start).1 = (server, st') ∨
      op = .parameterMetadata p ∧ (st.parameterMetadata start).1 = (server, st')) :
    (server, st') = (start, st) ∨
      (op = .metadata p ∧ st.cache.rows = none ∨
        op = .parameterMetadata p ∧ st.cache.parameters = none) ∧
      st.Probed start (server, st') := by
  obtain ⟨rfl, hrun⟩ | ⟨rfl, hrun⟩ := hop
  · rw [← hrun]
    exact (st.metadata_discovers start).imp_right fun h => ⟨.inl ⟨rfl, h.1⟩, h.2⟩
  · rw [← hrun]
    exact (st.parameterMetadata_discovers start).imp_right fun h => ⟨.inr ⟨rfl, h.1⟩, h.2⟩

/-- An operation finds out nothing, or it probes for one statement. -/
theorem Effect.discovers (h : Effect s op s') : s.Discovers op s' := by
  have heffect := h
  have hnone (hconnections : s'.connections = s.connections) :
      ∀ i, ∀ call ∈ s.newCalls s' i, call.isProbe = false := by
    intro i call hcall
    rw [newCalls_of_connections hconnections] at hcall
    cases hcall
  cases h with
  | nothing | pools => exact discovers_of_kept rfl rfl
  | prepared | cloned | clonedOnto | edited | closed =>
    exact discovers_of_effect heffect (fun _ => ⟨nofun, nofun⟩) (hnone rfl)
  | @executed p i e patience st st' c server hst hi hc hrun =>
    have hgrows := grows_run st e c.server patience
    rw [hrun] at hgrows
    exact discovers_of_effect heffect (fun _ => ⟨nofun, nofun⟩)
      (forall_newCalls_of_grows hc hgrows)
  | @described op p i st st' c server hop hst hi hc =>
    obtain hnothing | ⟨hmissing, hprobed⟩ := described_cases hop
    · cases hnothing
      rw [setServer_self hc, setStatement_self hst]
      exact discovers_of_kept rfl rfl
    · exact discovers_of_probed hst hi hc hmissing hprobed
  | changed hc =>
    exact discovers_of_effect heffect (fun _ => ⟨nofun, nofun⟩)
      (forall_newCalls_of_grows hc (.refl _ _))

namespace Discovers

omit [Server σ κ] in
private theorem cache_cases (h : s.Discovers op s') {p : Nat} {st st' : Statement}
    (hst : s.statements[p]? = some st) (hst' : s'.statements[p]? = some st') :
    st'.cache = st.cache ∨ ∃ r, st'.cache = st.cache.learn r := by
  cases h with
  | nothing _ hcache => exact .inl (hcache p st st' hst hst')
  | @probed q i found calls r _ hfound _ _ _ hstatements =>
    rw [hstatements] at hst'
    by_cases hp : q = p
    · subst hp
      cases hst.symm.trans hfound
      rw [if_pos rfl] at hst'
      cases hst'
      exact .inr ⟨r, rfl⟩
    · rw [if_neg hp, hst] at hst'
      cases hst'
      exact .inl rfl

omit [Server σ κ] in
private theorem balanced (h : s.Discovers op s') (i : Nat) :
    (s.newCalls s' i).countP Call.opensProbe = (s.newCalls s' i).countP Call.closesProbe := by
  cases h with
  | nothing hcalls _ =>
    have hnone {P : Call → Bool} (hP : ∀ {call}, P call = true → call.isProbe = true) :
        (s.newCalls s' i).countP P = 0 := by
      rw [List.countP_eq_zero]
      intro call hcall hcalled
      have hprobe := hP hcalled
      rw [hcalls i call hcall] at hprobe
      cases hprobe
    rw [hnone Call.isProbe_of_opensProbe, hnone Call.isProbe_of_closesProbe]
  | probed _ _ _ hprobe hcalls _ =>
    rw [hcalls]
    split
    · exact hprobe.closes_all
    · rfl

omit [Server σ κ] in
theorem of_rows (h : s.Discovers op s') {p : Nat} {st st' : Statement}
    (hst : s.statements[p]? = some st) (hst' : s'.statements[p]? = some st')
    (hcomplete : st.cache.IsComplete) (hrows : st.cache.rows.isSome = true) :
    st'.cache = st.cache ∧
      (op.statement? = some p → ∀ i, ∀ call ∈ s.newCalls s' i, call.isProbe = false) := by
  cases h with
  | nothing hcalls hcache => exact ⟨hcache p st st' hst hst', fun _ => hcalls⟩
  | @probed q i found calls r hop hfound _ _ _ hstatements =>
    have hq : q ≠ p := by
      rintro rfl
      cases hst.symm.trans hfound
      obtain ⟨-, hnone⟩ | ⟨-, hnone⟩ := hop
      · rw [hnone] at hrows
        cases hrows
      · have hsome := hcomplete hrows
        rw [hnone] at hsome
        cases hsome
    rw [hstatements, if_neg hq, hst] at hst'
    cases hst'
    refine ⟨rfl, fun habout => absurd ?_ hq⟩
    obtain ⟨rfl, -⟩ | ⟨rfl, -⟩ := hop <;> exact Option.some.inj habout

omit [Server σ κ] in
private theorem of_failure (h : s.Discovers op s') {i : Nat} {call : Call} {f : Failure}
    (hcall : call ∈ s.newCalls s' i) (hf : call.probeFailure? = some f) :
    ∃ p st st', (op = .metadata p ∨ op = .parameterMetadata p) ∧ s.statements[p]? = some st ∧
      s'.statements[p]? = some st' ∧
      st'.cache = if f.blamesText then st.cache
        else { st.cache with parameters := some (st.cache.parameters.getD .unknown) } := by
  cases h with
  | nothing hcalls _ =>
    have hnone := hcalls i call hcall
    cases call with
    | openProbe | describe | closeProbe => cases hnone
    | _ => cases hf
  | @probed q j found calls r hop hfound _ hprobe hcalls hstatements =>
    rw [hcalls] at hcall
    split at hcall
    · obtain rfl := hprobe.eq_error_of_probeFailure? hcall hf
      exact ⟨q, found, _, hop.imp And.left And.left, hfound,
        (hstatements q).trans (if_pos rfl), rfl⟩
    · cases hcall

end Discovers

def HasComplete (s : Session σ) : Prop :=
  ∀ st ∈ s.statements, st.cache.IsComplete

theorem Arises.cache {s : Session σ} {st : Statement} (h : s.Arises st) :
    st.cache = {} ∨ ∃ parent ∈ s.statements, st.cache = parent.cache := by
  cases h with
  | prepared hc hst =>
    obtain ⟨-, rfl⟩ := Connection.prepare_eq_ok hst
    exact .inl rfl
  | cloned hparent hc hst =>
    obtain ⟨-, rfl⟩ := Connection.clone_eq_ok hst
    exact .inr ⟨_, List.mem_of_getElem? hparent, rfl⟩

theorem HasComplete.next (hs : s.HasComplete) (h : Effect s op s') : s'.HasComplete := by
  intro st' hmem
  obtain ⟨p, hst'⟩ := List.getElem?_of_mem hmem
  obtain ⟨st, hst, -⟩ | ⟨-, harises⟩ := h.statement_cases hst'
  · have hcomplete := hs st (List.mem_of_getElem? hst)
    obtain hsame | ⟨r, hlearn⟩ := h.discovers.cache_cases hst hst'
    · rw [hsame]
      exact hcomplete
    · rw [hlearn]
      exact hcomplete.learn r
  · obtain hnone | ⟨parent, hparent, hsame⟩ := harises.cache
    · rw [hnone]
      exact nofun
    · rw [hsame]
      exact hs parent hparent

theorem hasComplete_after (connections : List (Connection σ)) (pools : Pools)
    (ops : List (Op κ)) : ((start connections pools).watched.after ops).HasComplete :=
  after_keeps (List.forall_mem_nil _) fun _ _ _ _ hs h => hs.next h

def HasBalanced (s : Session (Traced σ)) : Prop :=
  ∀ c ∈ s.connections,
    c.server.calls.countP Call.opensProbe = c.server.calls.countP Call.closesProbe

theorem HasBalanced.next (hs : s.HasBalanced) (h : Effect s op s') : s'.HasBalanced := by
  intro c' hmem
  obtain ⟨i, hc'⟩ := List.getElem?_of_mem hmem
  have hlt : i < s.connections.length := by
    rw [← h.length_connections]
    exact (List.getElem?_eq_some_iff.1 hc').1
  rw [h.calls_eq (List.getElem?_eq_getElem hlt) hc', List.countP_append, List.countP_append,
    hs _ (List.getElem_mem hlt), h.discovers.balanced]

/-- The statement at a position is that at the first one, or it was cloned in the run from one that
descends from it. -/
inductive Descends (s : Session σ) (p : Nat) : List (Op κ) → Nat → Prop
  | self : Descends s p [] p
  | stays {ops : List (Op κ)} {q : Nat} (h : Descends s p ops q) (op : Op κ) :
      Descends s p (ops ++ [op]) q
  | cloned {ops : List (Op κ)} {q : Nat} {op : Op κ} (h : Descends s p ops q)
      (hop : op = .clone q ∨ ∃ i, op = .cloneOnto q i)
      (hmade : (s.after ops).statements.length < (s.after (ops ++ [op])).statements.length) :
      Descends s p (ops ++ [op]) (s.after ops).statements.length

private theorem cache_of_clone {s : Session σ} {op : Op κ} {q : Nat} {st : Statement}
    (hst : s.statements[q]? = some st) (hop : op = .clone q ∨ ∃ i, op = .cloneOnto q i)
    (hmade : s.statements.length < (s.next op).statements.length) :
    ∃ copy, (s.next op).statements[s.statements.length]? = some copy ∧ copy.cache = st.cache := by
  have heffect := effect_next s op
  generalize s.next op = s' at heffect hmade ⊢
  obtain rfl | ⟨i, rfl⟩ := hop
  · cases heffect with
    | nothing | pools => exact absurd hmade (Nat.lt_irrefl _)
    | cloned hst' hi hc hcopy =>
      cases hst.symm.trans hst'
      obtain ⟨-, rfl⟩ := Connection.clone_eq_ok hcopy
      exact ⟨_, List.getElem?_concat_length, rfl⟩
    | described hop => rcases hop with ⟨hop, -⟩ | ⟨hop, -⟩ <;> cases hop
  · cases heffect with
    | nothing | pools => exact absurd hmade (Nat.lt_irrefl _)
    | clonedOnto hst' hc hcopy =>
      cases hst.symm.trans hst'
      obtain ⟨-, rfl⟩ := Connection.clone_eq_ok hcopy
      exact ⟨_, List.getElem?_concat_length, rfl⟩
    | described hop => rcases hop with ⟨hop, -⟩ | ⟨hop, -⟩ <;> cases hop

private theorem Descends.cache_eq {ops : List (Op κ)} {p q : Nat} {st : Statement}
    (h : s.Descends p ops q) (hst : s.statements[p]? = some st) (hcomplete : st.cache.IsComplete)
    (hrows : st.cache.rows.isSome = true) :
    ∃ st', (s.after ops).statements[q]? = some st' ∧ st'.cache = st.cache := by
  induction h with
  | self => exact ⟨st, hst, rfl⟩
  | stays _ op ih =>
    obtain ⟨st', hst', hcache⟩ := ih
    obtain ⟨st'', hst'', -⟩ := exists_evolved_next hst' op
    have hkept := (effect_next _ op).discovers.of_rows hst' hst'' (hcache ▸ hcomplete)
      (hcache ▸ hrows)
    rw [after_append]
    exact ⟨st'', hst'', hkept.1.trans hcache⟩
  | cloned _ hop hmade ih =>
    obtain ⟨st', hst', hcache⟩ := ih
    rw [after_append] at hmade ⊢
    obtain ⟨copy, hcopy, hsame⟩ := cache_of_clone hst' hop hmade
    exact ⟨copy, hcopy, hsame.trans hcache⟩

private theorem step_metadata_of_results {s : Session σ} {p i : Nat} {st : Statement}
    {c : Connection σ} {set : ResultSet} {shape : RowShape} (hst : s.statements[p]? = some st)
    (hopen : st.closed = false) (hconnection : s.connectionOf? st = some (i, c))
    (hset : st.resultSet = some set) (hshape : set.shape? = some shape) :
    s.step (.metadata p : Op κ) =
      some (s, { ending := .reply (.shape (some shape)), statement := p }) := by
  have hresults : st.results.bind Results.shape? = some shape := by
    obtain ⟨log, hlog, hset⟩ := Option.bind_eq_some_iff.1 hset
    rw [hlog, Option.bind_some, Results.shape?, hset, Option.bind_some, hshape]
  have hmetadata : st.metadata c.server = ((c.server, st), .ok (some shape)) := by
    rw [Statement.metadata, Statement.guardOpen_of_open hopen, hresults]
  rw [step, hst, Option.map_some]
  refine congrArg some (onServer_done hst hconnection ?_)
  rw [hmetadata]
  rfl

omit [Server σ κ] in
private theorem watched_start (connections : List (Connection σ)) (pools : Pools) :
    (start connections pools).watched =
      start (connections.map (Connection.map fun server => ⟨server, []⟩)) pools := rfl

theorem connectionOf?_of_watched_open (connections : List (Connection σ)) (pools : Pools)
    {ops : List (Op κ)} {st : Statement}
    (hst : st ∈ ((start connections pools).watched.after ops).statements)
    (hopen : st.closed = false) :
    ∃ i c, ((start connections pools).watched.after ops).connectionOf? st = some (i, c) := by
  rw [watched_start] at hst ⊢
  obtain ⟨i, c, -, hconnection⟩ := connectionOf?_of_open _ pools hst hopen
  exact ⟨i, c, hconnection⟩

/-- What is found out about statements over every run, on servers that answer as they like.  Each
connection has closed all handles that it has opened.  A probe that fails because of the text
changes nothing, and one that fails otherwise takes note that the parameters cannot be described
where they are not known.  Rows of the last execution are described without a probe.  Whoever knows
the rows knows the parameters; both stay as they are in the statement and in the clones that are
taken from then on, and no operation on these makes a probe. -/
theorem discovery_after (connections : List (Connection σ)) (pools : Pools)
    (ops : List (Op κ)) :
    ((start connections pools).watched.after ops).mapServers Traced.server =
      (start connections pools).after ops ∧
    (∀ c ∈ ((start connections pools).watched.after ops).connections,
      c.server.calls.countP Call.opensProbe = c.server.calls.countP Call.closesProbe) ∧
    (∀ op i call f,
      call ∈ ((start connections pools).watched.after ops).newCalls
        (((start connections pools).watched.after ops).next op) i →
      call.probeFailure? = some f →
        ∃ p st st', (op = .metadata p ∨ op = .parameterMetadata p) ∧
          ((start connections pools).watched.after ops).statements[p]? = some st ∧
          (((start connections pools).watched.after ops).next op).statements[p]? = some st' ∧
          st'.cache = if f.blamesText then st.cache
            else { st.cache with parameters := some (st.cache.parameters.getD .unknown) }) ∧
    ∀ p st, ((start connections pools).watched.after ops).statements[p]? = some st →
      (st.cache.rows.isSome = true → st.cache.parameters.isSome = true) ∧
      (∀ set shape, st.resultSet = some set → set.shape? = some shape →
        ((start connections pools).watched.after ops).step (.metadata p) =
          some ((start connections pools).watched.after ops,
            { ending := .reply (.shape (some shape)), statement := p })) ∧
      (st.cache.rows.isSome = true → ∀ more q,
        ((start connections pools).watched.after ops).Descends p more q →
          ∃ st', ((start connections pools).watched.after (ops ++ more)).statements[q]? =
              some st' ∧ st'.cache = st.cache ∧
            ∀ op, op.statement? = some q → ∀ i,
              ∀ call ∈ ((start connections pools).watched.after (ops ++ more)).newCalls
                (((start connections pools).watched.after (ops ++ more)).next op) i,
                call.isProbe = false) := by
  have hcomplete := hasComplete_after connections pools ops
  have hbalanced : ((start connections pools).watched.after ops).HasBalanced := by
    refine after_keeps ?_ fun _ _ _ _ hs h => hs.next h
    intro c hc
    obtain ⟨d, -, rfl⟩ := List.mem_map.1 hc
    rfl
  refine ⟨after_watched _ ops, hbalanced, ?_, ?_⟩
  · intro op i call f hcall hf
    exact (effect_next _ op).discovers.of_failure hcall hf
  · intro p st hst
    have hst_complete := hcomplete st (List.mem_of_getElem? hst)
    refine ⟨hst_complete, ?_, ?_⟩
    · intro set shape hset hshape
      have hmem := List.mem_of_getElem? hst
      have hopen : st.closed = false := by
        refine Bool.eq_false_iff.2 fun hclosed => ?_
        have hwell := hmem
        rw [watched_start] at hwell
        rw [Statement.resultSet, ((hasWellFormed_after _ pools ops st hwell).closed hclosed).1]
          at hset
        cases hset
      obtain ⟨i, c, hconnection⟩ := connectionOf?_of_watched_open connections pools hmem hopen
      exact step_metadata_of_results hst hopen hconnection hset hshape
    · intro hrows more q hdescends
      obtain ⟨st', hst', hcache⟩ := hdescends.cache_eq hst hst_complete hrows
      rw [after_append]
      refine ⟨st', hst', hcache, fun op habout => ?_⟩
      obtain ⟨st'', hst'', -⟩ := exists_evolved_next hst' op
      exact ((effect_next _ op).discovers.of_rows hst' hst'' (hcache ▸ hst_complete)
        (hcache ▸ hrows)).2 habout

def busyServer : List (Connection ScriptedServer) :=
  [⟨{ probe := .openFails (.execution "busy") }, {}, none⟩]

def oneColumn (name : String) : RowShape :=
  ⟨[{ name, typeName := "INT" }]⟩

/-- The server cannot describe the text at first, then it does, and then it rejects it.  The rows
of the execution have another shape than those described. -/
def describedLate : List (Op ScriptChange) :=
  [.prepare 0 "select ?" none, .parameterMetadata 0,
    .change 0 (.probe (.describe ⟨some (oneColumn "a"), .known []⟩)), .metadata 0,
    .change 0 (.probe (.openFails (.badText "gone"))),
    .change 0 (.resultSet (some (.table (oneColumn "b") []))), .edit 0 (.setValue 1 (.int 1)),
    .execute 0 .once none]

theorem discovery_after_describedLate :
    (∃ st st', ((start busyServer (.ofCount 0)).watched.after
        (describedLate.take 1)).statements[0]? = some st ∧
      (((start busyServer (.ofCount 0)).watched.after (describedLate.take 1)).next
        (.parameterMetadata 0)).statements[0]? = some st' ∧
      st'.cache = { st.cache with parameters := some .unknown }) ∧
    ((start busyServer (.ofCount 0)).watched.after describedLate).step (.metadata 0) =
      some ((start busyServer (.ofCount 0)).watched.after describedLate,
        { ending := .reply (.shape (some (oneColumn "b"))), statement := some 0 }) ∧
    ∃ copy, ((start busyServer (.ofCount 0)).watched.after
        (describedLate ++ [.clone 0])).statements[1]? = some copy ∧
      copy.cache = ⟨some (oneColumn "a"), some (.known [])⟩ ∧
      ∀ i, ∀ call ∈ ((start busyServer (.ofCount 0)).watched.after
          (describedLate ++ [.clone 0])).newCalls
          (((start busyServer (.ofCount 0)).watched.after (describedLate ++ [.clone 0])).next
            (.metadata 1)) i,
        call.isProbe = false := by
  obtain ⟨-, -, hfailure, -⟩ := discovery_after busyServer (.ofCount 0) (describedLate.take 1)
  obtain ⟨-, -, -, hstatements⟩ := discovery_after busyServer (.ofCount 0) describedLate
  obtain ⟨-, hresults, hrows⟩ := hstatements 0 _ rfl
  refine ⟨?_, hresults _ _ rfl rfl, ?_⟩
  · obtain ⟨p, st, st', hop, hst, hst', hcache⟩ := hfailure (.parameterMetadata 0) 0
      (.openProbe "select ?" (.error (.execution "busy"))) _ List.mem_cons_self rfl
    obtain hop | hop := hop
    · cases hop
    · cases hop
      cases hst
      exact ⟨_, st', rfl, hst', hcache⟩
  · have hdescends : ((start busyServer (.ofCount 0)).watched.after describedLate).Descends 0
        [.clone 0] 1 := .cloned .self (.inl rfl) (by decide)
    obtain ⟨copy, hcopy, hcache, hnone⟩ := hrows rfl [.clone 0] 1 hdescends
    exact ⟨copy, hcopy, hcache, hnone (.metadata 1) rfl⟩

end Session
end SqlStatement
