import SqlStatement.Proofs.Session.Watched
import SqlStatement.Proofs.Statement.WellFormed
/-!
# Sessions of well-formed statements

Whatever is done in a session, and however it ends or is given up, every statement stays well
formed, every open one has its connection, and every row that is sent has a value for each
placeholder.
-/
namespace SqlStatement

variable {σ κ : Type}

def Call.Fits : Call → Prop
  | .execute _ template row _ _ => row.length = template.paramCount
  | .offer _ template rows _ _ => ∀ row ∈ rows, row.length = template.paramCount
  | _ => True

private theorem Statement.WellFormed.fits {st : Statement} (h : st.WellFormed) {call : Call}
    (hcall : call.IsOf st.requests) : call.Fits := by
  cases call with
  | execute primary template row limit answer =>
    obtain ⟨rfl, hrow⟩ := hcall
    exact h.length_of_single hrow
  | offer primary template rows longData answer =>
    obtain ⟨rfl, rfl, -⟩ := hcall
    exact h.queue
  | _ => trivial

private theorem Template.render_of_length {template : Template} {row : Row}
    (h : row.length = template.paramCount) : ∃ text, template.render row = .ok text := by
  unfold render
  rw [if_neg (by omega)]
  exact ⟨_, rfl⟩

private theorem Template.joinRows_of_canJoinRows {sql : String} {mode : EscapeMode}
    {joinRows : Bool} (h : (compile sql mode joinRows).canJoinRows = true) : joinRows = true := by
  cases joinRows with
  | true => rfl
  | false => cases h

namespace Session

/-- A session in which nothing was prepared yet. -/
def start (connections : List (Connection σ)) (pools : Pools) : Session σ :=
  { connections, pools }

def HasWellFormed (s : Session σ) : Prop :=
  ∀ st ∈ s.statements, st.WellFormed

variable [Server σ κ] {s s' : Session σ}

private theorem HasWellFormed.arises (hs : s.HasWellFormed) {st : Statement} (h : s.Arises st) :
    st.WellFormed := by
  cases h with
  | @prepared i sql o c hc hst =>
    obtain ⟨hvalid, rfl⟩ := Connection.prepare_eq_ok hst
    apply Statement.wellFormed_new
    · exact Options.timeout_ne_of_validate hvalid
    · exact Template.joinRows_of_canJoinRows
  | cloned hparent hc hst =>
    obtain ⟨-, rfl⟩ := Connection.clone_eq_ok hst
    have hwell := hs _ (List.mem_of_getElem? hparent)
    exact (Statement.wellFormed_new _ _ hwell.timeout hwell.layout).withCache _

private theorem Evolves.wellFormed {op : Op κ} {p : Nat} {st st' : Statement}
    (h : Evolves op p st st') (hst : st.WellFormed) : st'.WellFormed := by
  cases h with
  | same => exact hst
  | edited hop hedit => exact hst.edited hedit
  | executed hop hproceeds => exact hst.proceeds hproceeds
  | described hop hcache =>
    rw [hcache]
    exact hst.withCache _
  | closed hop hopen hclosed =>
    obtain rfl | rfl := hclosed
    · exact hst.release
    · exact hst.release.detach rfl

theorem HasWellFormed.next {op : Op κ} (hs : s.HasWellFormed) (h : Effect s op s') :
    s'.HasWellFormed := by
  intro st' hst'
  obtain ⟨p, hp⟩ := List.getElem?_of_mem hst'
  obtain ⟨st, hst, hevolves⟩ | ⟨-, harises⟩ := h.statement_cases hp
  · exact hevolves.wellFormed (hs st (List.mem_of_getElem? hst))
  · exact hs.arises harises

theorem hasWellFormed_after (connections : List (Connection σ)) (pools : Pools)
    (ops : List (Op κ)) : ((start connections pools).after ops).HasWellFormed :=
  after_keeps (List.forall_mem_nil _) fun _ _ _ _ hs h => hs.next h

theorem connectionOf?_of_open (connections : List (Connection σ)) (pools : Pools)
    {ops : List (Op κ)} {st : Statement}
    (hst : st ∈ ((start connections pools).after ops).statements) (hopen : st.closed = false) :
    ∃ i c, st.connection = some i ∧
      ((start connections pools).after ops).connectionOf? st = some (i, c) := by
  cases hi : st.connection with
  | none =>
    have hclosed := (hasWellFormed_after connections pools ops st hst).connected hi
    rw [hopen] at hclosed
    cases hclosed
  | some i =>
    have hlt := hasConnections_after rfl ops st hst i hi
    refine ⟨i, ((start connections pools).after ops).connections[i], rfl, ?_⟩
    rw [connectionOf?, hi, Option.bind_some, List.getElem?_eq_getElem hlt, Option.map_some]

private theorem fits_after (connections : List (Connection σ)) (pools : Pools) (ops : List (Op κ)) :
    ∀ c ∈ ((start connections pools).watched.after ops).connections,
      ∀ call ∈ c.server.calls, call.Fits := by
  have hkeeps : HasWellFormed ((start connections pools).watched.after ops) ∧
      ∀ c ∈ ((start connections pools).watched.after ops).connections,
        ∀ call ∈ c.server.calls, call.Fits := by
    apply after_keeps (I := fun s : Session (Traced σ) =>
      s.HasWellFormed ∧ ∀ c ∈ s.connections, ∀ call ∈ c.server.calls, call.Fits)
    · refine ⟨List.forall_mem_nil _, ?_⟩
      intro c hc call hcall
      obtain ⟨d, -, rfl⟩ := List.mem_map.1 hc
      cases hcall
    · intro s s' op _ hs h
      refine ⟨hs.1.next h, h.forall_calls hs.2 ?_⟩
      intro i call hasked
      obtain ⟨p, st, hst, -, hcall⟩ := hasked
      exact (hs.1 st (List.mem_of_getElem? hst)).fits hcall
  exact hkeeps.2

/-- After every run all statements are well formed and the open ones have their connections; and
with a history on every connection, which changes nothing, every row that was ever sent has a
value for each placeholder and can be rendered. -/
theorem wellFormed_after (connections : List (Connection σ)) (pools : Pools)
    (ops : List (Op κ)) :
    (∀ st ∈ ((start connections pools).after ops).statements, st.WellFormed ∧
      (st.closed = false → ∃ i c, st.connection = some i ∧
        ((start connections pools).after ops).connectionOf? st = some (i, c))) ∧
    ((start connections pools).watched.after ops).mapServers Traced.server =
      (start connections pools).after ops ∧
    ∀ c ∈ ((start connections pools).watched.after ops).connections,
      ∀ primary template row limit answer,
        .execute primary template row limit answer ∈ c.server.calls →
          row.length = template.paramCount ∧ ∃ text, template.render row = .ok text := by
  refine ⟨?_, after_watched _ ops, ?_⟩
  · intro st hst
    exact ⟨hasWellFormed_after connections pools ops st hst,
      connectionOf?_of_open connections pools hst⟩
  · intro c hc primary template row limit answer hcall
    have hfits := fits_after connections pools ops c hc _ hcall
    exact ⟨hfits, Template.render_of_length hfits⟩

def oneServer : List (Connection ScriptedServer) :=
  [⟨{}, {}, none⟩]

def queuedAndExecuted : List (Op ScriptChange) :=
  [.prepare 0 "insert into t values (?)" none, .edit 0 (.setValue 1 (.int 7)),
    .edit 0 .addBatch, .execute 0 .once none]

theorem wellFormed_after_queuedAndExecuted :
    ∃ st i c d answer row,
      ((start oneServer (.ofCount 0)).after queuedAndExecuted).statements[0]? = some st ∧
      st.WellFormed ∧ st.queue = [[.int 7]] ∧
      ((start oneServer (.ofCount 0)).after queuedAndExecuted).connectionOf? st = some (i, c) ∧
      ((start oneServer (.ofCount 0)).watched.after queuedAndExecuted).connections[0]? = some d ∧
      .execute true st.template row none answer ∈ d.server.calls ∧
      row.length = st.template.paramCount := by
  obtain ⟨hwell, -, hcalls⟩ := wellFormed_after oneServer (.ofCount 0) queuedAndExecuted
  obtain ⟨hst, hconnection⟩ := hwell _ (List.mem_of_getElem? (i := 0) rfl)
  obtain ⟨i, c, -, hc⟩ := hconnection rfl
  have hrow := hcalls _ (List.mem_of_getElem? (i := 0) rfl) true _ [.int 7] none _
    List.mem_cons_self
  exact ⟨_, i, c, _, _, _, rfl, hst, rfl, hc, rfl, List.mem_cons_self, hrow.1⟩

end Session
end SqlStatement
