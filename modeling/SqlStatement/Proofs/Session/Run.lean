import SqlStatement.Proofs.Statement.Frame
import SqlStatement.Session.Step
/-!
# Runs of sessions

`Effect` lists what an operation can do to a session, and `step_effect` says that nothing else
happens.  A run performs operations one after another; what every effect keeps, every run keeps.
-/
namespace SqlStatement

variable {σ κ : Type} [Server σ κ]

theorem Connection.prepare_eq_ok {c : Connection σ} {i : Nat} {sql : String} {o : Options}
    {st : Statement} (h : c.prepare i sql o = .ok st) :
    o.validate = .ok () ∧ st = .new i (c.errorContext o)
      (Template.compile sql (Server.escapeMode c.server) o.joinBatches) o := by
  unfold prepare at h
  cases hvalid : o.validate with
  | error e =>
    rw [hvalid] at h
    cases h
  | ok _ =>
    rw [hvalid] at h
    cases h
    exact ⟨rfl, rfl⟩

theorem Connection.clone_eq_ok {c : Connection σ} {i : Nat} {st copy : Statement}
    (h : c.clone i st = .ok copy) :
    st.closed = false ∧ copy =
      { Statement.new i (c.errorContext st.options) st.template st.options with
        cache := st.cache } := by
  obtain ⟨hopen, h⟩ := Statement.guardOpen_bind_eq_ok h
  cases h
  exact ⟨hopen, rfl⟩

namespace Session

/-- What an operation can do to a session. -/
inductive Effect (s : Session σ) : Op κ → Session σ → Prop
  | nothing (op : Op κ) : Effect s op s
  | pools (op : Op κ) (pools : Pools) : Effect s op { s with pools }
  | prepared {i : Nat} {sql : String} {o : Option Options} {c : Connection σ} {st : Statement}
      (hc : s.connections[i]? = some c) (hst : c.prepare i sql (o.getD c.options) = .ok st) :
      Effect s (.prepare i sql o) { s with statements := s.statements ++ [st] }
  | cloned {p i : Nat} {st copy : Statement} {c : Connection σ}
      (hst : s.statements[p]? = some st) (hi : st.connection = some i)
      (hc : s.connections[i]? = some c) (hcopy : c.clone i st = .ok copy) :
      Effect s (.clone p) { s with statements := s.statements ++ [copy] }
  | clonedOnto {p i : Nat} {st copy : Statement} {c : Connection σ}
      (hst : s.statements[p]? = some st) (hc : s.connections[i]? = some c)
      (hcopy : c.clone i st = .ok copy) :
      Effect s (.cloneOnto p i) { s with statements := s.statements ++ [copy] }
  | edited {p : Nat} {e : Edit} {st st' : Statement} (hst : s.statements[p]? = some st)
      (hst' : st.edit? e = .ok st') : Effect s (.edit p e) (s.setStatement p st')
  | executed {p i : Nat} {e : Execution} {patience : Option Nat} {st st' : Statement}
      {c : Connection σ} {server : σ} (hst : s.statements[p]? = some st)
      (hi : st.connection = some i) (hc : s.connections[i]? = some c)
      (hrun : (abandonedAfter patience (run st e c.server)).state = (server, st')) :
      Effect s (.execute p e patience) ((s.setServer i server).setStatement p st')
  | described {op : Op κ} {p i : Nat} {st st' : Statement} {c : Connection σ} {server : σ}
      (hop : op = .metadata p ∧ (st.metadata c.server).1 = (server, st') ∨
        op = .parameterMetadata p ∧ (st.parameterMetadata c.server).1 = (server, st'))
      (hst : s.statements[p]? = some st) (hi : st.connection = some i)
      (hc : s.connections[i]? = some c) :
      Effect s op ((s.setServer i server).setStatement p st')
  | closed {p : Nat} {st st' : Statement} {pools : Pools} (hst : s.statements[p]? = some st)
      (hopen : st.closed = false) (hst' : st' = st.release ∨ st' = st.release.detach) :
      Effect s (.close p) { s.setStatement p st' with pools }
  | changed {i : Nat} {change : κ} {c : Connection σ} (hc : s.connections[i]? = some c) :
      Effect s (.change i change) (s.setServer i (Server.change change c.server))

variable {s s' : Session σ} {answer : Answer}

theorem executed_frame {R : σ → σ → Prop} {st st' : Statement}
    (h : Server.MovesFor st.requests R) {e : Execution} {patience : Option Nat}
    {start server : σ}
    (hrun : (abandonedAfter patience (run st e start)).state = (server, st')) :
    R start server ∧ st.Proceeds st' := by
  have hshows := (shows_abandonedAfter (shows_run h e start) patience).state
  rwa [hrun] at hshows

theorem described_frame {R : σ → σ → Prop} {st st' : Statement}
    (h : Server.MovesFor st.requests R) {op : Op κ} {p : Nat} {start server : σ}
    (hop : op = .metadata p ∧ (st.metadata start).1 = (server, st') ∨
      op = .parameterMetadata p ∧ (st.parameterMetadata start).1 = (server, st')) :
    R start server ∧ st.SameButCache st' := by
  obtain ⟨-, hrun⟩ | ⟨-, hrun⟩ := hop
  · have hframe := Statement.metadata_frame h start
    rwa [hrun] at hframe
  · have hframe := Statement.parameterMetadata_frame h start
    rwa [hrun] at hframe

theorem connectionOf?_eq_some {st : Statement} {i : Nat} {c : Connection σ}
    (h : s.connectionOf? st = some (i, c)) :
    st.connection = some i ∧ s.connections[i]? = some c := by
  obtain ⟨j, hj, h⟩ := Option.bind_eq_some_iff.1 h
  obtain ⟨d, hd, h⟩ := Option.map_eq_some_iff.1 h
  cases h
  exact ⟨hj, hd⟩

theorem clone_eq_ok {st copy : Statement} (h : s.clone st = .ok copy) :
    ∃ i c, st.connection = some i ∧ s.connections[i]? = some c ∧ c.clone i st = .ok copy := by
  obtain ⟨-, h⟩ := Statement.guardOpen_bind_eq_ok h
  split at h
  · cases h
  · next i c hconnection =>
    obtain ⟨hi, hc⟩ := connectionOf?_eq_some hconnection
    exact ⟨i, c, hi, hc, h⟩

private theorem effect_of_eq {op : Op κ} {done : Session σ × Answer} (h : done = (s', answer))
    (heffect : Effect s op done.1) : Effect s op s' := by
  rwa [h] at heffect

private theorem effect_add {op : Op κ} {made : Except StatementError Statement}
    (hmade : ∀ st, made = .ok st → Effect s op { s with statements := s.statements ++ [st] }) :
    Effect s op (s.add made).1 := by
  cases made with
  | error e => exact .nothing op
  | ok st => exact hmade st rfl

private theorem effect_onServer {op : Op κ} {p : Nat} {st : Statement}
    {work : σ → Timed (σ × Statement) Ending}
    (hwork : ∀ i c server st', st.connection = some i → s.connections[i]? = some c →
      (work c.server).state = (server, st') →
      Effect s op ((s.setServer i server).setStatement p st')) :
    Effect s op (s.onServer p st work).1 := by
  unfold onServer
  split
  · exact .nothing op
  · next i c hconnection =>
    obtain ⟨hi, hc⟩ := connectionOf?_eq_some hconnection
    exact hwork i c _ _ hi hc rfl

private theorem effect_close {p : Nat} {st : Statement} (hst : s.statements[p]? = some st) :
    Effect s (.close p) (s.close p st).1 := by
  unfold close
  dsimp only
  cases hclosed : st.closed with
  | true => exact .nothing _
  | false =>
    rw [if_neg (by simp)]
    split
    · exact .closed hst hclosed (.inl rfl)
    · exact .closed hst hclosed (.inr rfl)

private theorem effect_setPools? {op : Op κ} {pool : Nat} {pools : Pools}
    {deliveries : List Delivery} (h : s.setPools? pool pools deliveries = some (s', answer)) :
    Effect s op s' := by
  obtain ⟨is, -, h⟩ := Option.map_eq_some_iff.1 h
  cases h
  exact .pools op pools

/-- An operation does nothing but what is listed. -/
theorem step_effect {op : Op κ} (h : s.step op = some (s', answer)) : Effect s op s' := by
  cases op with
  | prepare i sql o =>
    obtain ⟨c, hc, h⟩ := Option.map_eq_some_iff.1 h
    exact effect_of_eq h (effect_add fun st hst => .prepared hc hst)
  | clone p =>
    obtain ⟨st, hst, h⟩ := Option.map_eq_some_iff.1 h
    apply effect_of_eq h
    apply effect_add
    intro copy hcopy
    obtain ⟨i, c, hi, hc, hclone⟩ := clone_eq_ok hcopy
    exact .cloned hst hi hc hclone
  | cloneOnto p i =>
    obtain ⟨st, hst, h⟩ := Option.bind_eq_some_iff.1 h
    obtain ⟨c, hc, h⟩ := Option.map_eq_some_iff.1 h
    exact effect_of_eq h (effect_add fun copy hcopy => .clonedOnto hst hc hcopy)
  | edit p e =>
    obtain ⟨st, hst, h⟩ := Option.map_eq_some_iff.1 h
    unfold edit at h
    split at h
    · next st' hst' =>
      cases h
      exact .edited hst hst'
    · cases h
      exact .nothing _
  | ask p q =>
    obtain ⟨st, hst, h⟩ := Option.map_eq_some_iff.1 h
    cases h
    exact .nothing _
  | execute p e patience =>
    obtain ⟨st, hst, h⟩ := Option.map_eq_some_iff.1 h
    exact effect_of_eq h (effect_onServer fun i c server st' hi hc hrun =>
      .executed hst hi hc hrun)
  | metadata p =>
    obtain ⟨st, hst, h⟩ := Option.map_eq_some_iff.1 h
    exact effect_of_eq h (effect_onServer fun i c server st' hi hc hrun =>
      .described (.inl ⟨rfl, hrun⟩) hst hi hc)
  | parameterMetadata p =>
    obtain ⟨st, hst, h⟩ := Option.map_eq_some_iff.1 h
    exact effect_of_eq h (effect_onServer fun i c server st' hi hc hrun =>
      .described (.inr ⟨rfl, hrun⟩) hst hi hc)
  | close p =>
    obtain ⟨st, hst, h⟩ := Option.map_eq_some_iff.1 h
    exact effect_of_eq h (effect_close hst)
  | connection i sql =>
    obtain ⟨c, hc, h⟩ := Option.map_eq_some_iff.1 h
    cases h
    exact .nothing _
  | connectionListing i =>
    obtain ⟨c, hc, h⟩ := Option.map_eq_some_iff.1 h
    cases h
    exact .nothing _
  | change i change =>
    obtain ⟨c, hc, h⟩ := Option.map_eq_some_iff.1 h
    cases h
    exact .changed hc
  | newListener l => exact effect_setPools? h
  | addListener pool name =>
    obtain ⟨_, -, h⟩ := Option.bind_eq_some_iff.1 h
    exact effect_setPools? h
  | removeListener pool name =>
    obtain ⟨_, -, h⟩ := Option.bind_eq_some_iff.1 h
    exact effect_setPools? h
  | fire pool notice => exact effect_setPools? h
  | poolListing pool =>
    obtain ⟨_, -, h⟩ := Option.map_eq_some_iff.1 h
    cases h
    exact .nothing _

/-- What an operation can make of the statement at a position. -/
inductive Evolves (op : Op κ) (p : Nat) (st : Statement) : Statement → Prop
  | same : Evolves op p st st
  | edited {e : Edit} {st' : Statement} (hop : op = .edit p e) (hst' : st.edit? e = .ok st') :
      Evolves op p st st'
  | executed {e : Execution} {patience : Option Nat} {st' : Statement}
      (hop : op = .execute p e patience) (hst' : st.Proceeds st') : Evolves op p st st'
  | described {st' : Statement} (hop : op = .metadata p ∨ op = .parameterMetadata p)
      (hst' : st.SameButCache st') : Evolves op p st st'
  | closed {st' : Statement} (hop : op = .close p) (hopen : st.closed = false)
      (hst' : st' = st.release ∨ st' = st.release.detach) : Evolves op p st st'

/-- What a new statement can be, and on which of the connections. -/
inductive Arises (s : Session σ) (st : Statement) : Prop
  | prepared {i : Nat} {sql : String} {o : Options} {c : Connection σ}
      (hc : s.connections[i]? = some c) (hst : c.prepare i sql o = .ok st)
  | cloned {p i : Nat} {parent : Statement} {c : Connection σ}
      (hparent : s.statements[p]? = some parent) (hc : s.connections[i]? = some c)
      (hst : c.clone i parent = .ok st)

private theorem getElem?_setStatement {p q : Nat} {st st' found : Statement}
    (hst : s.statements[p]? = some st)
    (hfound : (s.setStatement p st').statements[q]? = some found) :
    p = q ∧ found = st' ∨ p ≠ q ∧ s.statements[q]? = some found := by
  rw [setStatement, List.getElem?_set] at hfound
  by_cases hq : p = q
  · have hlt : p < s.statements.length := (List.getElem?_eq_some_iff.1 hst).1
    rw [if_pos hq, if_pos hlt] at hfound
    exact .inl ⟨hq, (Option.some.inj hfound).symm⟩
  · rw [if_neg hq] at hfound
    exact .inr ⟨hq, hfound⟩

omit [Server σ κ] in
private theorem evolves_setStatement {op : Op κ} {p q : Nat} {st st' found : Statement}
    (hst : s.statements[p]? = some st) (hevolves : Evolves op p st st')
    (hfound : (s.setStatement p st').statements[q]? = some found) :
    ∃ before, s.statements[q]? = some before ∧ Evolves op q before found := by
  obtain ⟨rfl, rfl⟩ | ⟨-, hsame⟩ := getElem?_setStatement hst hfound
  · exact ⟨st, hst, hevolves⟩
  · exact ⟨found, hsame, .same⟩

private theorem statement_cases_of_append {op : Op κ} {q : Nat} {made found : Statement}
    (hmade : s.Arises made) (hfound : (s.statements ++ [made])[q]? = some found) :
    (∃ before, s.statements[q]? = some before ∧ Evolves op q before found) ∨
      q = s.statements.length ∧ s.Arises found := by
  by_cases hq : q < s.statements.length
  · rw [List.getElem?_append_left hq] at hfound
    exact .inl ⟨found, hfound, .same⟩
  · rw [List.getElem?_append_right (Nat.le_of_not_lt hq)] at hfound
    have hlt := (List.getElem?_eq_some_iff.1 hfound).1
    rw [List.length_singleton] at hlt
    have hlast : q - s.statements.length = 0 := by omega
    rw [hlast] at hfound
    cases hfound
    exact .inr ⟨by omega, hmade⟩

/-- Every statement after an operation was there before, or the operation made it. -/
theorem Effect.statement_cases {op : Op κ} (h : Effect s op s') {q : Nat} {found : Statement}
    (hfound : s'.statements[q]? = some found) :
    (∃ before, s.statements[q]? = some before ∧ Evolves op q before found) ∨
      q = s.statements.length ∧ s.Arises found := by
  cases h with
  | nothing | pools | changed hc => exact .inl ⟨found, hfound, .same⟩
  | prepared hc hst => exact statement_cases_of_append (.prepared hc hst) hfound
  | cloned hst hi hc hcopy => exact statement_cases_of_append (.cloned hst hc hcopy) hfound
  | clonedOnto hst hc hcopy => exact statement_cases_of_append (.cloned hst hc hcopy) hfound
  | edited hst hst' => exact .inl (evolves_setStatement hst (.edited rfl hst') hfound)
  | executed hst hi hc hrun =>
    have hframe := (executed_frame (Server.movesAlong_true.movesFor _) hrun).2
    exact .inl (evolves_setStatement (s := s.setServer _ _) hst (.executed rfl hframe) hfound)
  | described hop hst hi hc =>
    have hframe := (described_frame (Server.movesAlong_true.movesFor _) hop).2
    have hop := hop.imp And.left And.left
    exact .inl (evolves_setStatement (s := s.setServer _ _) hst (.described hop hframe) hfound)
  | closed hst hopen hst' => exact .inl (evolves_setStatement hst (.closed rfl hopen hst') hfound)

theorem Arises.fresh {st : Statement} (h : s.Arises st) :
    st.slots = List.replicate st.template.paramCount none ∧ st.queue = [] := by
  cases h with
  | prepared hc hst =>
    obtain ⟨-, rfl⟩ := Connection.prepare_eq_ok hst
    exact ⟨rfl, rfl⟩
  | cloned hparent hc hst =>
    obtain ⟨-, rfl⟩ := Connection.clone_eq_ok hst
    exact ⟨rfl, rfl⟩

theorem Evolves.open_before {st st' : Statement} (h : Evolves op p st st')
    (hopen : st'.closed = false) : st.closed = false := by
  cases h with
  | same => exact hopen
  | edited _ hst' => exact (Statement.edit?_eq_ok hst').1
  | executed _ hst' =>
    rw [hst'.sameButOutcome] at hopen
    exact hopen
  | described _ hst' =>
    rw [hst'] at hopen
    exact hopen
  | closed _ hbefore _ => exact hbefore

theorem Evolves.binding {st st' : Statement} (h : Evolves op p st st') (hop : ∀ e, op ≠ .edit p e)
    (hopen : st'.closed = false) :
    st'.slots = st.slots ∧ st'.queue = st.queue ∧ st'.longData = st.longData := by
  cases h with
  | same => exact ⟨rfl, rfl, rfl⟩
  | edited hedit _ => exact absurd hedit (hop _)
  | executed _ hst' =>
    rw [hst'.sameButOutcome]
    exact ⟨rfl, rfl, rfl⟩
  | described _ hst' =>
    rw [hst']
    exact ⟨rfl, rfl, rfl⟩
  | closed _ _ hst' => rcases hst' with rfl | rfl <;> cases hopen

private theorem map_setStatement {α : Type} (f : Statement → α) {p : Nat} {st st' : Statement}
    (hst : s.statements[p]? = some st) (h : f st' = f st) :
    (s.setStatement p st').statements.map f = s.statements.map f := by
  apply List.ext_getElem?
  intro j
  rw [setStatement, List.getElem?_map, List.getElem?_map, List.getElem?_set]
  by_cases hj : p = j
  · subst hj
    obtain ⟨hp, -⟩ := List.getElem?_eq_some_iff.1 hst
    rw [if_pos rfl, if_pos hp, hst, Option.map_some, Option.map_some, h]
  · rw [if_neg hj]

theorem map_setServer {α : Type} (f : Connection σ → α) {i : Nat} {c : Connection σ} {server : σ}
    (hc : s.connections[i]? = some c) (h : f { c with server } = f c) :
    (s.setServer i server).connections.map f = s.connections.map f := by
  apply List.ext_getElem?
  intro j
  rw [setServer, List.getElem?_map, List.getElem?_map, List.getElem?_modify]
  by_cases hj : i = j
  · subst hj
    simp only [hc, Option.map_eq_map, Option.map_some, if_true, h]
  · simp only [if_neg hj, Option.map_eq_map, Option.map_id']

theorem setServer_self {s : Session σ} {i : Nat} {c : Connection σ}
    (hc : s.connections[i]? = some c) : s.setServer i c.server = s := by
  have hsame : (s.setServer i c.server).connections = s.connections := by
    simpa using map_setServer id hc rfl
  exact congrArg (fun connections => { s with connections }) hsame

theorem setStatement_self {s : Session σ} {p : Nat} {st : Statement}
    (hst : s.statements[p]? = some st) : s.setStatement p st = s := by
  have hsame : (s.setStatement p st).statements = s.statements := by
    simpa using map_setStatement id hst rfl
  exact congrArg (fun statements => { s with statements }) hsame

/-- An operation keeps the templates of all statements and may add one. -/
theorem Effect.templates {op : Op κ} (h : Effect s op s') :
    s'.statements.map Statement.template = s.statements.map Statement.template ∨
    ∃ st, s'.statements = s.statements ++ [st] ∧
      ((∃ i c sql o joinRows, op = .prepare i sql o ∧ s.connections[i]? = some c ∧
        st.template = .compile sql (Server.escapeMode c.server) joinRows) ∨
      ∃ p parent, (op = .clone p ∨ ∃ i, op = .cloneOnto p i) ∧ s.statements[p]? = some parent ∧
        st.template = parent.template) := by
  cases h with
  | nothing | pools | changed hc => exact .inl rfl
  | prepared hc hst =>
    obtain ⟨-, rfl⟩ := Connection.prepare_eq_ok hst
    exact .inr ⟨_, rfl, .inl ⟨_, _, _, _, _, rfl, hc, rfl⟩⟩
  | cloned hst hi hc hcopy =>
    obtain ⟨-, rfl⟩ := Connection.clone_eq_ok hcopy
    exact .inr ⟨_, rfl, .inr ⟨_, _, .inl rfl, hst, rfl⟩⟩
  | clonedOnto hst hc hcopy =>
    obtain ⟨-, rfl⟩ := Connection.clone_eq_ok hcopy
    exact .inr ⟨_, rfl, .inr ⟨_, _, .inr ⟨_, rfl⟩, hst, rfl⟩⟩
  | edited hst hst' =>
    have hframe := (Statement.edit?_frame hst').2
    exact .inl (map_setStatement _ hst (by rw [hframe]))
  | executed hst hi hc hrun =>
    have hframe := (executed_frame (Server.movesAlong_true.movesFor _) hrun).2.sameButOutcome
    exact .inl (map_setStatement (s := s.setServer _ _) _ hst (by rw [hframe]))
  | described hdescribe hst hi hc =>
    have hframe := (described_frame (Server.movesAlong_true.movesFor _) hdescribe).2
    exact .inl (map_setStatement (s := s.setServer _ _) _ hst (by rw [hframe]))
  | closed hst hopen hst' =>
    obtain rfl | rfl := hst' <;> exact .inl (map_setStatement _ hst rfl)

theorem effect_next (s : Session σ) (op : Op κ) : Effect s op (s.next op) := by
  unfold next
  cases h : s.step op with
  | none => exact .nothing op
  | some found => exact step_effect h

/-- What every effect keeps, every run keeps. -/
theorem after_keeps {I : Session σ → Prop} {ops : List (Op κ)} (hstart : I s)
    (hstep : ∀ s s' op, op ∈ ops → I s → Effect s op s' → I s') : I (s.after ops) := by
  induction ops generalizing s with
  | nil => exact hstart
  | cons op ops ih =>
    have hnext := hstep s _ op List.mem_cons_self hstart (effect_next s op)
    exact ih hnext fun s s' op hop => hstep s s' op (List.mem_cons_of_mem _ hop)

theorem after_append (s : Session σ) (ops more : List (Op κ)) :
    s.after (ops ++ more) = (s.after ops).after more :=
  List.foldl_append

theorem length_statements_le_after (s : Session σ) (ops : List (Op κ)) :
    s.statements.length ≤ (s.after ops).statements.length := by
  induction ops generalizing s with
  | nil => exact Nat.le_refl _
  | cons op ops ih =>
    have hnext : s.statements.length ≤ (s.next op).statements.length := by
      obtain hsame | ⟨st, hadd, -⟩ := (effect_next s op).templates
      · have hlength := congrArg List.length hsame
        simp at hlength
        omega
      · simp [hadd]
    exact Nat.le_trans hnext (ih (s.next op))

theorem next_of_step {op : Op κ} (h : s.step op = some (s', answer)) : s.next op = s' := by
  rw [next, h, Option.elim_some]

theorem exists_evolved_next {p : Nat} {st : Statement} (hst : s.statements[p]? = some st)
    (op : Op κ) : ∃ st', (s.next op).statements[p]? = some st' ∧ Evolves op p st st' := by
  have hlt : p < s.statements.length := (List.getElem?_eq_some_iff.1 hst).1
  have hlt' := Nat.lt_of_lt_of_le hlt (length_statements_le_after s [op])
  have hst' := List.getElem?_eq_getElem hlt'
  refine ⟨_, hst', ?_⟩
  obtain ⟨before, hbefore, hevolves⟩ | ⟨hnew, -⟩ := (effect_next s op).statement_cases hst'
  · cases hst.symm.trans hbefore
    exact hevolves
  · exact absurd hlt (Nat.not_lt_of_le (Nat.le_of_eq hnew.symm))

theorem next_edit {p : Nat} {st : Statement} (hst : s.statements[p]? = some st) (e : Edit) :
    (s.next (.edit p e : Op κ)).statements[p]? = some ((st.edit? e).toOption.getD st) := by
  have hlt : p < s.statements.length := (List.getElem?_eq_some_iff.1 hst).1
  have hstep : s.step (.edit p e : Op κ) = some (s.edit p st e) := by
    rw [step, hst, Option.map_some]
  rw [next, hstep, Option.elim_some, Session.edit]
  cases st.edit? e with
  | error refused => exact hst
  | ok st' => exact List.getElem?_set_self hlt

def HasCompiledTemplates (s : Session σ) : Prop :=
  ∀ t ∈ s.statements.map Statement.template, ∃ joinRows, t = .compile t.sql t.mode joinRows

theorem HasCompiledTemplates.next {op : Op κ} (hs : s.HasCompiledTemplates)
    (h : Effect s op s') : s'.HasCompiledTemplates := by
  intro t ht
  obtain hsame | ⟨st, hadd, hmade⟩ := h.templates
  · rw [hsame] at ht
    exact hs t ht
  · rw [hadd, List.map_append, List.mem_append] at ht
    obtain ht | ht := ht
    · exact hs t ht
    · obtain rfl := List.mem_singleton.1 ht
      obtain ⟨_, _, sql, _, joinRows, -, -, hst⟩ | ⟨p, parent, -, hparent, hst⟩ := hmade
      · rw [hst]
        exact ⟨joinRows, rfl⟩
      · rw [hst]
        exact hs _ (List.mem_map_of_mem (List.mem_of_getElem? hparent))

theorem hasCompiledTemplates_after (hs : s.statements = []) (ops : List (Op κ)) :
    (s.after ops).HasCompiledTemplates := by
  refine after_keeps ?_ fun s s' op _ hs h => hs.next h
  intro t ht
  rw [hs] at ht
  cases ht

def HasConnections (s : Session σ) : Prop :=
  ∀ st ∈ s.statements, ∀ i, st.connection = some i → i < s.connections.length

@[simp] theorem length_setServer (s : Session σ) (i : Nat) (server : σ) :
    (s.setServer i server).connections.length = s.connections.length :=
  List.length_modify _ _ _

theorem Effect.length_connections {op : Op κ} (h : Effect s op s') :
    s'.connections.length = s.connections.length := by
  cases h with
  | executed | described | changed => exact length_setServer s _ _
  | _ => rfl

private theorem forall_setServer {I : σ → Prop} (hs : ∀ c ∈ s.connections, I c.server) (i : Nat)
    {server : σ} (hserver : I server) : ∀ c ∈ (s.setServer i server).connections, I c.server := by
  intro c hmem
  obtain ⟨j, hj⟩ := List.getElem?_of_mem hmem
  rw [setServer, List.getElem?_modify] at hj
  obtain ⟨d, hd, rfl⟩ := Option.map_eq_some_iff.1 hj
  by_cases hij : i = j
  · rw [if_pos hij]
    exact hserver
  · rw [if_neg hij]
    exact hs d (List.mem_of_getElem? hd)

theorem forall_setStatement {P : Statement → Prop} (hs : ∀ st ∈ s.statements, P st) (p : Nat)
    {st' : Statement} (hst' : P st') : ∀ st ∈ (s.setStatement p st').statements, P st := by
  intro st hmem
  obtain hold | rfl := List.mem_or_eq_of_mem_set hmem
  · exact hs st hold
  · exact hst'

/-- What the servers keep at every request and at the change, they keep at every operation. -/
theorem Effect.forall_servers {I : σ → Prop} {op : Op κ} (h : Effect s op s')
    (hrequests : Server.MovesAlong fun a b : σ => I a → I b)
    (hchange : ∀ i change, op = .change i change → ∀ server : σ, I server →
      I (Server.change change server)) (hs : ∀ c ∈ s.connections, I c.server) :
    ∀ c ∈ s'.connections, I c.server := by
  cases h with
  | executed hst hi hc hrun =>
    have hserver := (executed_frame (hrequests.movesFor _) hrun).1
    exact forall_setServer hs _ (hserver (hs _ (List.mem_of_getElem? hc)))
  | described hdescribe hst hi hc =>
    have hserver := (described_frame (hrequests.movesFor _) hdescribe).1
    exact forall_setServer hs _ (hserver (hs _ (List.mem_of_getElem? hc)))
  | changed hc =>
    exact forall_setServer hs _ (hchange _ _ rfl _ (hs _ (List.mem_of_getElem? hc)))
  | _ => exact hs

theorem Evolves.connection {op : Op κ} {p : Nat} {st st' : Statement} (h : Evolves op p st st') :
    st'.connection = st.connection ∨ st'.connection = none ∧ st'.closed = true := by
  cases h with
  | same => exact .inl rfl
  | edited hop hst' =>
    have hframe := (Statement.edit?_frame hst').2
    exact .inl (by rw [hframe])
  | executed hop hst' =>
    have hframe := hst'.sameButOutcome
    exact .inl (by rw [hframe])
  | described hop hst' => exact .inl (by rw [hst'])
  | closed hop hopen hst' =>
    obtain rfl | rfl := hst'
    · exact .inl rfl
    · exact .inr ⟨rfl, rfl⟩

theorem Arises.connection {st : Statement} (h : s.Arises st) :
    ∃ i, st.connection = some i ∧ i < s.connections.length := by
  cases h with
  | prepared hc hst =>
    obtain ⟨-, rfl⟩ := Connection.prepare_eq_ok hst
    exact ⟨_, rfl, (List.getElem?_eq_some_iff.1 hc).1⟩
  | cloned hparent hc hst =>
    obtain ⟨-, rfl⟩ := Connection.clone_eq_ok hst
    exact ⟨_, rfl, (List.getElem?_eq_some_iff.1 hc).1⟩

theorem HasConnections.next {op : Op κ} (hs : s.HasConnections) (h : Effect s op s') :
    s'.HasConnections := by
  intro st' hst' i hi
  rw [h.length_connections]
  obtain ⟨p, hp⟩ := List.getElem?_of_mem hst'
  obtain ⟨st, hst, hevolves⟩ | ⟨-, harises⟩ := h.statement_cases hp
  · obtain hsame | ⟨hnone, -⟩ := hevolves.connection
    · exact hs st (List.mem_of_getElem? hst) i (hsame ▸ hi)
    · rw [hnone] at hi
      cases hi
  · obtain ⟨j, hj, hlt⟩ := harises.connection
    obtain rfl := Option.some.inj (hi.symm.trans hj)
    exact hlt

theorem hasConnections_after (hs : s.statements = []) (ops : List (Op κ)) :
    (s.after ops).HasConnections := by
  refine after_keeps ?_ fun s s' op _ hs h => hs.next h
  intro st hst
  rw [hs] at hst
  cases hst

end Session
end SqlStatement
