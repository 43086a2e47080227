import SqlStatement.Proofs.Session.WellFormed
/-!
# Failures of probes

A question for metadata fails exactly if the probe behind it fails because of the SQL text; any
other failure leaves the rows undescribed and the parameters unknown.  The error blames the text
too, with the state and the code that the server gave, unless the failure is an interruption:
these are told as interruptions even if their state blames the text (`TellsFailure`).
-/
namespace SqlStatement

variable {σ κ : Type} [Server σ κ]

private theorem ErrorContext.ofFailure_of_blamesText (ctx : ErrorContext) {f : Failure}
    (h : f.blamesText = true) (sql : String) (row : Option Row) :
    ctx.ofFailure f sql row =
      if f.kind = .interrupted then .interrupted f.message
      else .badText ⟨f.message, f.sqlState, f.code, ctx.serverContext sql row⟩ := by
  unfold ofFailure
  rw [if_pos h]

namespace Statement

/-- A probe of a text fails, when it is opened or when the text is described. -/
inductive ProbeFails (sql : String) (server : σ) (f : Failure) : Prop
  | opening (h : (Server.openProbe sql server).2 = .error f)
  | describing (hopened : (Server.openProbe sql server).2 = .ok ())
      (h : (Server.describe (Server.openProbe sql server).1).2 = .error f)

variable {st : Statement} {server : σ} {f : Failure}

private theorem ProbeFails.result_probe {sql : String} (h : ProbeFails sql server f) :
    (probe sql server).2 = .error f := by
  unfold probe
  generalize hprobe : Server.openProbe sql server = opened
  obtain ⟨server', answer⟩ := opened
  cases h with
  | opening h =>
    rw [hprobe] at h
    cases h
    rfl
  | describing hopened h =>
    rw [hprobe] at hopened h
    cases hopened
    exact h

private theorem load_of_probeFails (h : ProbeFails st.template.sql server f) :
    (st.load server).1.2.cache.rows = st.cache.rows ∧
      (st.load server).2 =
        if f.blamesText then .error (st.failure f none)
        else .ok (st.cache.parameters.getD .unknown) := by
  have hresult := h.result_probe
  unfold load
  generalize probe st.template.sql server = probed at hresult ⊢
  obtain ⟨server', r⟩ := probed
  cases hresult
  dsimp only
  split <;> exact ⟨rfl, rfl⟩

private theorem metadata_of_probeFails (hopen : st.closed = false)
    (hresults : st.results.bind Results.shape? = none) (hrows : st.cache.rows = none)
    (h : ProbeFails st.template.sql server f) :
    (st.metadata server).2 = if f.blamesText then .error (st.failure f none) else .ok none := by
  obtain ⟨hkept, hload⟩ := load_of_probeFails h
  unfold metadata
  rw [guardOpen_of_open hopen, hresults, hrows]
  change (st.load server).2.map (fun _ => (st.load server).1.2.cache.rows) = _
  rw [hload, hkept, hrows]
  split <;> rfl

private theorem parameterMetadata_of_probeFails (hopen : st.closed = false)
    (hparameters : st.cache.parameters = none) (h : ProbeFails st.template.sql server f) :
    (st.parameterMetadata server).2 =
      if f.blamesText then .error (st.failure f none) else .ok .unknown := by
  unfold parameterMetadata
  rw [guardOpen_of_open hopen, hparameters]
  change (st.load server).2 = _
  rw [(load_of_probeFails h).2, hparameters]
  rfl

end Statement

namespace Session

/-- How the failure of a probe is told to whoever asked; `unknown` is the reply of one who could
not find out anything. -/
structure TellsFailure (f : Failure) (unknown : Reply) (ending : Ending) : Prop where
  fails_iff : (∃ e, ending = .error e) ↔ f.blamesText = true
  unknown : f.blamesText = false → ending = .reply unknown
  badText_iff : f.blamesText = true →
    ((∃ e, ending = .error (.badText e) ∧ e.sqlState = f.sqlState ∧ e.code = f.code) ↔
      f.kind ≠ .interrupted)
  interrupted : f.blamesText = true → f.kind = .interrupted →
    ending = .error (.interrupted f.message)

private theorem tellsFailure_ofExcept {α : Type} {reply : α → Reply} {ctx : ErrorContext}
    {f : Failure} {sql : String} {a : α} {r : Except StatementError α}
    (h : r = if f.blamesText then .error (ctx.ofFailure f sql none) else .ok a) :
    TellsFailure f (reply a) (.ofExcept reply r) := by
  subst h
  cases hblames : f.blamesText with
  | false =>
    constructor
    · constructor
      · rintro ⟨e, he⟩
        cases he
      · intro hblamed
        rw [hblames] at hblamed
        cases hblamed
    · exact fun _ => rfl
    · simp [hblames]
    · simp [hblames]
  | true =>
    rw [if_pos rfl, ctx.ofFailure_of_blamesText hblames]
    by_cases hkind : f.kind = .interrupted
    · rw [if_pos hkind]
      constructor
      · exact ⟨fun _ => hblames, fun _ => ⟨_, rfl⟩⟩
      · simp [hblames]
      · intro _
        constructor
        · rintro ⟨e, he, -⟩
          cases he
        · exact fun hother => absurd hkind hother
      · exact fun _ _ => rfl
    · rw [if_neg hkind]
      constructor
      · exact ⟨fun _ => hblames, fun _ => ⟨_, rfl⟩⟩
      · simp [hblames]
      · exact fun _ => ⟨fun _ => hkind, fun _ => ⟨_, rfl, rfl, rfl⟩⟩
      · exact fun _ hinterrupted => absurd hinterrupted hkind

section Step

variable {s : Session σ} {p i : Nat} {st : Statement} {c : Connection σ}
  (hst : s.statements[p]? = some st) (hconnection : s.connectionOf? st = some (i, c))
include hst hconnection

private theorem exists_step_metadata :
    ∃ s' answer, s.step (.metadata p : Op κ) = some (s', answer) ∧
      answer.ending = .ofExcept .shape (st.metadata c.server).2 := by
  rw [step, hst, Option.map_some, onServer, hconnection]
  exact ⟨_, _, rfl, rfl⟩

private theorem exists_step_parameterMetadata :
    ∃ s' answer, s.step (.parameterMetadata p : Op κ) = some (s', answer) ∧
      answer.ending = .ofExcept .parameters (st.parameterMetadata c.server).2 := by
  rw [step, hst, Option.map_some, onServer, hconnection]
  exact ⟨_, _, rfl, rfl⟩

end Step

/-- After every run, on servers that answer as they like: an open statement that does not know
what it is asked for probes its text, and the failure of the probe is told as `TellsFailure`
says, for the rows as for the parameters. -/
theorem probeFailures_after (connections : List (Connection σ)) (pools : Pools)
    (ops : List (Op κ)) {p : Nat} {st : Statement}
    (hst : ((start connections pools).after ops).statements[p]? = some st)
    (hopen : st.closed = false) :
    ∃ i c, ((start connections pools).after ops).connectionOf? st = some (i, c) ∧
      ∀ f, Statement.ProbeFails st.template.sql c.server f →
        (st.results.bind Results.shape? = none → st.cache.rows = none →
          ∃ s answer, ((start connections pools).after ops).step (.metadata p) =
              some (s, answer) ∧
            TellsFailure f (.shape none) answer.ending) ∧
        (st.cache.parameters = none →
          ∃ s answer, ((start connections pools).after ops).step (.parameterMetadata p) =
              some (s, answer) ∧
            TellsFailure f (.parameters .unknown) answer.ending) := by
  obtain ⟨i, c, -, hconnection⟩ :=
    connectionOf?_of_open connections pools (List.mem_of_getElem? hst) hopen
  refine ⟨i, c, hconnection, ?_⟩
  intro f hfails
  constructor
  · intro hresults hrows
    obtain ⟨s, answer, hstep, hending⟩ := exists_step_metadata (κ := κ) hst hconnection
    refine ⟨s, answer, hstep, ?_⟩
    rw [hending]
    exact tellsFailure_ofExcept (Statement.metadata_of_probeFails hopen hresults hrows hfails)
  · intro hparameters
    obtain ⟨s, answer, hstep, hending⟩ := exists_step_parameterMetadata (κ := κ) hst hconnection
    refine ⟨s, answer, hstep, ?_⟩
    rw [hending]
    exact tellsFailure_ofExcept
      (Statement.parameterMetadata_of_probeFails hopen hparameters hfails)

/-- A failure of class 42 that is no failure by its kind. -/
def unknownColumn : Failure :=
  { Failure.execution "Unknown column" with sqlState := some "42S22", code := 1054 }

/-- An interruption whose state blames the text. -/
def interruptedText : Failure :=
  { Failure.interrupted with sqlState := some "42000" }

def probeFailsWith (f : Failure) : List (Connection ScriptedServer) :=
  [⟨{ probe := .describeFails f }, {}, none⟩]

def oneSelect : List (Op ScriptChange) :=
  [.prepare 0 "select a from t" none]

theorem probeFailures_after_unknownColumn :
    Statement.ProbeFails "select a from t"
        ({ probe := .describeFails unknownColumn } : ScriptedServer) unknownColumn ∧
      ∃ s answer e,
        ((start (probeFailsWith unknownColumn) (.ofCount 0)).after oneSelect).step (.metadata 0) =
          some (s, answer) ∧
        answer.ending = .error (.badText e) ∧ e.sqlState = some "42S22" ∧ e.code = 1054 := by
  have hfails : Statement.ProbeFails "select a from t"
      ({ probe := .describeFails unknownColumn } : ScriptedServer) unknownColumn :=
    .describing rfl rfl
  obtain ⟨i, c, hconnection, hfailures⟩ :=
    probeFailures_after (probeFailsWith unknownColumn) (.ofCount 0) oneSelect
      (p := 0) rfl rfl
  cases hconnection
  obtain ⟨s, answer, hstep, htold⟩ := (hfailures unknownColumn hfails).1 rfl rfl
  obtain ⟨e, hending, hstate, hcode⟩ := (htold.badText_iff (by decide)).2 (by decide)
  exact ⟨hfails, s, answer, e, hstep, hending, hstate, hcode⟩

/-- The text is blamed, and still the error does not blame it. -/
theorem interruptedText_not_badText :
    interruptedText.blamesText = true ∧
      Statement.ProbeFails "select a from t"
        ({ probe := .describeFails interruptedText } : ScriptedServer) interruptedText ∧
      (((start (probeFailsWith interruptedText) (.ofCount 0)).after oneSelect).step
        (.metadata 0)).map (fun done => done.2.ending) =
          some (.error (.interrupted "query was interrupted")) ∧
      (((start (probeFailsWith interruptedText) (.ofCount 0)).after oneSelect).step
        (.parameterMetadata 0)).map (fun done => done.2.ending) =
          some (.error (.interrupted "query was interrupted")) :=
  ⟨by decide, .describing rfl rfl, rfl, rfl⟩

end Session
end SqlStatement
