import SqlStatement.Proofs.Session.Closing
import SqlStatement.Proofs.Session.Discovery
/-!
# Descriptions of parameters

The parameters of a statement are described together with its rows.  So they are described again
whenever somebody asks for the rows before these are known, and the last description counts, also
for parameters that were replied already.
-/
namespace SqlStatement.Session

variable {σ κ : Type}

section Reply

variable [Server σ κ] {s s' : Session σ} {p : Nat} {shape : ParameterShape}

private theorem parameters_of_step {answer : Answer}
    (h : s.step (.parameterMetadata p : Op κ) = some (s', answer))
    (hreply : answer.ending = .reply (.parameters shape)) :
    ∃ st, s'.statements[p]? = some st ∧ st.cache.parameters = some shape := by
  obtain ⟨st, hst, h⟩ := Option.map_eq_some_iff.1 h
  unfold onServer at h
  split at h
  · cases h
    cases hreply
  · next i c hconnection =>
    cases h
    have hok : (st.parameterMetadata c.server).2 = .ok shape := by
      revert hreply
      dsimp only [Timed.result]
      cases (st.parameterMetadata c.server).2 with
      | error e => exact nofun
      | ok shape' =>
        intro hreply
        cases hreply
        rfl
    refine ⟨_, ?_, Statement.parameters_of_reply hok⟩
    exact List.getElem?_set_self (List.getElem?_eq_some_iff.1 hst).1

private theorem step_parameterMetadata_of_known {st : Statement} {i : Nat} {c : Connection σ}
    (hst : s.statements[p]? = some st) (hopen : st.closed = false)
    (hconnection : s.connectionOf? st = some (i, c)) (hshape : st.cache.parameters = some shape) :
    s.step (.parameterMetadata p : Op κ) =
      some (s, { ending := .reply (.parameters shape), statement := p }) := by
  have hparameters : st.parameterMetadata c.server = ((c.server, st), .ok shape) := by
    rw [Statement.parameterMetadata, Statement.guardOpen_of_open hopen, hshape]
  rw [step, hst, Option.map_some]
  refine congrArg some (onServer_done hst hconnection ?_)
  rw [hparameters]
  rfl

end Reply

def descriptionsOf (before after : Session (Traced σ)) (p : Nat) : Op κ → List Description
  | .metadata q =>
    if q = p then
      (before.statements[p]?.bind Statement.connection).elim [] fun i =>
        (before.newCalls after i).filterMap Call.description?
    else []
  | _ => []

private theorem descriptionsOf_of_noProbe {s s' : Session (Traced σ)} (p : Nat) (op : Op κ)
    (h : op = .metadata p → ∀ i, ∀ call ∈ s.newCalls s' i, call.isProbe = false) :
    s.descriptionsOf s' p op = [] := by
  cases op with
  | metadata q =>
    rw [descriptionsOf]
    split
    · next hq =>
      cases s.statements[p]?.bind Statement.connection with
      | none => rfl
      | some i =>
        rw [Option.elim_some, List.filterMap_eq_nil_iff]
        intro call hcall
        have hother := h (hq ▸ rfl) i call hcall
        cases call with
        | openProbe | describe | closeProbe => cases hother
        | _ => rfl
    · rfl
  | _ => rfl

variable [Server σ κ]

/-- What the server describes over a run while the rows of a statement are asked for. -/
def descriptions (s : Session (Traced σ)) (p : Nat) : List (Op κ) → List Description
  | [] => []
  | op :: ops => s.descriptionsOf (s.next op) p op ++ (s.next op).descriptions p ops

section Step

variable {s s' : Session (Traced σ)} {op : Op κ} {p : Nat} {st st' : Statement}
  {shape : ParameterShape}

omit [Server σ κ] in
theorem Discovers.parameters (h : s.Discovers op s') (hst : s.statements[p]? = some st)
    (hst' : s'.statements[p]? = some st') (hshape : st.cache.parameters = some shape) :
    st'.cache.parameters =
      some (((s.descriptionsOf s' p op).getLast?.map Description.parameters).getD shape) := by
  cases h with
  | nothing hcalls hcache =>
    rw [descriptionsOf_of_noProbe p op fun _ => hcalls, hcache p st st' hst hst']
    exact hshape
  | @probed q i found calls r hop hfound hi hprobe hcalls hstatements =>
    rw [hstatements] at hst'
    by_cases hq : q = p
    · subst hq
      cases hst.symm.trans hfound
      rw [if_pos rfl] at hst'
      cases hst'
      obtain ⟨rfl, -⟩ | ⟨-, hunknown⟩ := hop
      · have hdescribed : s.descriptionsOf s' q (.metadata q : Op κ) = r.toOption.toList := by
          rw [descriptionsOf, if_pos rfl, hst, Option.bind_some, hi, Option.elim_some, hcalls,
            if_pos rfl, hprobe.filterMap_description?]
        rw [hdescribed, MetadataCache.parameters_learn hshape]
        cases r <;> rfl
      · rw [hshape] at hunknown
        cases hunknown
    · rw [if_neg hq, hst] at hst'
      cases hst'
      have hnone : s.descriptionsOf s' p op = [] := by
        obtain ⟨rfl, -⟩ | ⟨rfl, -⟩ := hop
        · exact if_neg hq
        · rfl
      rw [hnone]
      exact hshape

end Step

variable {s : Session (Traced σ)} {p : Nat} {st : Statement}

/-- The last description counts. -/
theorem parameters_of_known {shape : ParameterShape} (hst : s.statements[p]? = some st)
    (hshape : st.cache.parameters = some shape) (ops : List (Op κ)) :
    ∃ st', (s.after ops).statements[p]? = some st' ∧ st'.cache.parameters =
      some (((s.descriptions p ops).getLast?.map Description.parameters).getD shape) := by
  induction ops generalizing s st shape with
  | nil => exact ⟨st, hst, hshape⟩
  | cons op ops ih =>
    obtain ⟨st', hst', -⟩ := exists_evolved_next hst op
    have hnext := (effect_next s op).discovers.parameters hst hst' hshape
    obtain ⟨last, hlast, hparameters⟩ := ih hst' hnext
    refine ⟨last, hlast, hparameters.trans ?_⟩
    rw [descriptions, List.getLast?_append]
    cases ((s.next op).descriptions p ops).getLast? <;> rfl

private theorem descriptions_of_rows (hst : s.statements[p]? = some st)
    (hcomplete : st.cache.IsComplete) (hrows : st.cache.rows.isSome = true) (ops : List (Op κ)) :
    s.descriptions p ops = [] := by
  induction ops generalizing s st with
  | nil => rfl
  | cons op ops ih =>
    obtain ⟨st', hst', -⟩ := exists_evolved_next hst op
    obtain ⟨hkept, hnone⟩ :=
      (effect_next s op).discovers.of_rows hst hst' hcomplete hrows
    rw [descriptions, descriptionsOf_of_noProbe p op fun hop => hnone (hop ▸ rfl),
      ih hst' (hkept ▸ hcomplete) (hkept ▸ hrows)]
    rfl

/-- After the parameters of a statement were replied once, later replies over every run are what
the server described last while the rows of the statement were asked for, and the first reply as
long as it described nothing.  If the rows were known at the first reply, it describes nothing
any more.  The server may answer as it likes, and only a closed statement refuses to reply. -/
theorem parameters_after (connections : List (Connection σ)) (pools : Pools)
    (ops more : List (Op κ)) {p : Nat} {s : Session (Traced σ)} {answer : Answer}
    {shape : ParameterShape}
    (hstep : ((start connections pools).watched.after ops).step (.parameterMetadata p) =
      some (s, answer))
    (hreply : answer.ending = .reply (.parameters shape)) :
    s.mapServers Traced.server =
      (start connections pools).after (ops ++ [.parameterMetadata p]) ∧
    ∃ st st', s.statements[p]? = some st ∧ (s.after more).statements[p]? = some st' ∧
      (∃ answer', (s.after more).step (.parameterMetadata p) = some (s.after more, answer') ∧
        answer'.ending = if st'.closed then .error .closed else
          .reply (.parameters
            (((s.descriptions p more).getLast?.map Description.parameters).getD shape))) ∧
      (st.cache.rows.isSome = true → s.descriptions p more = []) := by
  have hs : (start connections pools).watched.after (ops ++ [.parameterMetadata p]) = s := by
    rw [after_append]
    exact next_of_step hstep
  obtain ⟨st, hst, hshape⟩ := parameters_of_step hstep hreply
  obtain ⟨st', hst', hshape'⟩ := parameters_of_known hst hshape more
  refine ⟨?_, st, st', hst, hst', ?_, ?_⟩
  · rw [← hs, after_watched]
  · cases hclosed : st'.closed with
    | true =>
      obtain ⟨answer', hanswer', hending, -⟩ := step_of_closed hst' hclosed .parameterMetadata
      exact ⟨answer', hanswer', hending⟩
    | false =>
      have hmem := List.mem_of_getElem? hst'
      rw [← hs, ← after_append] at hmem
      obtain ⟨i, c, hconnection⟩ := connectionOf?_of_watched_open connections pools hmem hclosed
      rw [after_append, hs] at hconnection
      exact ⟨_, step_parameterMetadata_of_known hst' hclosed hconnection hshape', rfl⟩
  · intro hrows
    have hcomplete := hasComplete_after connections pools (ops ++ [.parameterMetadata p])
    rw [hs] at hcomplete
    exact descriptions_of_rows hst (hcomplete st (List.mem_of_getElem? hst)) hrows more

def intParameter : Parameter :=
  ⟨"INT", true, true, 11, 0⟩

def textParameter : Parameter :=
  ⟨"VARCHAR", true, false, 20, 0⟩

def numberServer : List (Connection ScriptedServer) :=
  [⟨{ probe := .describe ⟨none, .known [intParameter]⟩ }, {}, none⟩]

def describedAgain : List (Op ScriptChange) :=
  [.change 0 (.probe (.describe ⟨none, .known [textParameter]⟩)), .metadata 0]

theorem parameters_after_describedAgain :
    ∃ s answer, ((start numberServer (.ofCount 0)).watched.after
        [.prepare 0 "update t set a = ?" none]).step (.parameterMetadata 0) = some (s, answer) ∧
      answer.ending = .reply (.parameters (.known [intParameter])) ∧
      s.descriptions 0 describedAgain = [⟨none, .known [textParameter]⟩] ∧
      ∃ answer', (s.after describedAgain).step (.parameterMetadata 0) =
          some (s.after describedAgain, answer') ∧
        answer'.ending = .reply (.parameters (.known [textParameter])) := by
  have hstep : ((start numberServer (.ofCount 0)).watched.after
      [.prepare 0 "update t set a = ?" none]).step (.parameterMetadata 0) =
        some (_, { ending := .reply (.parameters (.known [intParameter])), statement := some 0 }) :=
    rfl
  obtain ⟨-, st, st', -, hst', hreply, -⟩ :=
    parameters_after numberServer (.ofCount 0) _ describedAgain hstep rfl
  cases hst'
  exact ⟨_, _, hstep, rfl, rfl, hreply⟩

/-- Both replies are known parameters of one statement, and they are not the same. -/
theorem known_parameters_replaced :
    (((start numberServer (.ofCount 0)).after
        [.prepare 0 "update t set a = ?" none]).step (.parameterMetadata 0)).map
        (fun done => done.2.ending) = some (.reply (.parameters (.known [intParameter]))) ∧
      (((start numberServer (.ofCount 0)).after
        ([.prepare 0 "update t set a = ?" none, .parameterMetadata 0] ++ describedAgain)).step
        (.parameterMetadata 0)).map (fun done => done.2.ending) =
          some (.reply (.parameters (.known [textParameter]))) ∧
      ParameterShape.known [intParameter] ≠ .known [textParameter] :=
  ⟨rfl, rfl, by decide⟩

end SqlStatement.Session
