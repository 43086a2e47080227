import SqlStatement.Proofs.Server.History
import SqlStatement.Proofs.Statement.Outcome
/-!
# What is found out about a statement

A probe makes one of two sequences of calls, `ProbeCalls`, and closes what it has opened in both.
A statement starts one only while what it is asked for is not in its cache, and what it keeps
afterwards depends on its cache and the result alone: `MetadataCache.learn`.
-/
namespace SqlStatement

namespace Call

def isProbe : Call → Bool
  | .openProbe .. | .describe _ | .closeProbe _ => true
  | _ => false

/-- The server has a text prepared from this call on. -/
def opensProbe : Call → Bool
  | .openProbe _ (.ok ()) => true
  | _ => false

def closesProbe : Call → Bool
  | .closeProbe _ => true
  | _ => false

def description? : Call → Option Description
  | .describe (.ok d) => some d
  | _ => none

def probeFailure? : Call → Option Failure
  | .openProbe _ (.error f) | .describe (.error f) => some f
  | _ => none

theorem isProbe_of_opensProbe {call : Call} (h : call.opensProbe = true) :
    call.isProbe = true := by
  cases call with
  | openProbe => rfl
  | _ => cases h

theorem isProbe_of_closesProbe {call : Call} (h : call.closesProbe = true) :
    call.isProbe = true := by
  cases call with
  | closeProbe => rfl
  | _ => cases h

end Call

/-- The calls of a probe and its result. -/
inductive ProbeCalls (sql : String) : List Call → Except Failure Description → Prop
  | refused (f : Failure) : ProbeCalls sql [.openProbe sql (.error f)] (.error f)
  | described (r : Except Failure Description) (closed : Except Failure Unit) :
      ProbeCalls sql [.openProbe sql (.ok ()), .describe r, .closeProbe closed] r

namespace ProbeCalls

variable {sql : String} {calls : List Call} {r : Except Failure Description}

theorem filterMap_description? (h : ProbeCalls sql calls r) :
    calls.filterMap Call.description? = r.toOption.toList := by
  cases h with
  | refused f => rfl
  | described r closed => cases r <;> rfl

theorem eq_error_of_probeFailure? (h : ProbeCalls sql calls r) {call : Call} {f : Failure}
    (hcall : call ∈ calls) (hf : call.probeFailure? = some f) : r = .error f := by
  cases h with
  | refused f =>
    obtain rfl := List.mem_singleton.1 hcall
    cases hf
    rfl
  | described r closed =>
    simp only [List.mem_cons, List.not_mem_nil, or_false] at hcall
    obtain rfl | rfl | rfl := hcall
    · cases hf
    · cases r with
      | error f' =>
        cases hf
        rfl
      | ok d => cases hf
    · cases hf

theorem isOffer (h : ProbeCalls sql calls r) : ∀ call ∈ calls, call.isOffer = false := by
  cases h <;> simp [Call.isOffer]

theorem closes_all (h : ProbeCalls sql calls r) :
    calls.countP Call.opensProbe = calls.countP Call.closesProbe := by
  cases h <;> rfl

end ProbeCalls

namespace MetadataCache

/-- The shape of rows is known only together with that of the parameters. -/
def IsComplete (cache : MetadataCache) : Prop :=
  cache.rows.isSome = true → cache.parameters.isSome = true

def learn (cache : MetadataCache) : Except Failure Description → MetadataCache
  | .ok d => ⟨d.rows, some d.parameters⟩
  | .error f =>
    if f.blamesText then cache
    else { cache with parameters := some (cache.parameters.getD .unknown) }

private theorem learn_error (cache : MetadataCache) (f : Failure) :
    cache.learn (.error f) =
      if f.blamesText then cache
      else { cache with parameters := some (cache.parameters.getD .unknown) } := rfl

theorem IsComplete.learn {cache : MetadataCache} (h : cache.IsComplete)
    (r : Except Failure Description) : (cache.learn r).IsComplete := by
  cases r with
  | ok d => exact fun _ => rfl
  | error f =>
    rw [learn_error]
    split
    · exact h
    · exact fun _ => rfl

theorem parameters_learn {cache : MetadataCache} {shape : ParameterShape}
    (h : cache.parameters = some shape) (r : Except Failure Description) :
    (cache.learn r).parameters = some ((r.toOption.map Description.parameters).getD shape) := by
  cases r with
  | ok d => rfl
  | error f =>
    rw [learn_error]
    split
    · exact h
    · rw [h]
      rfl

end MetadataCache

namespace Statement

variable {σ κ : Type} [Server σ κ] {st : Statement}

def Probed (st : Statement) (t : Traced σ) (s : Traced σ × Statement) : Prop :=
  ∃ calls r, ProbeCalls st.template.sql calls r ∧ s.1.calls = t.calls ++ calls ∧
    s.2 = { st with cache := st.cache.learn r }

private theorem probe_calls (sql : String) (t : Traced σ) :
    ∃ calls, ProbeCalls sql calls (probe sql t).2 ∧ (probe sql t).1.calls = t.calls ++ calls := by
  unfold probe
  cases hopened : (Server.openProbe sql t.server).2 with
  | error f =>
    have hprobe : Server.openProbe sql t =
        (t.note (Server.openProbe sql t.server).1 (.openProbe sql (.error f)), .error f) := by
      rw [← hopened]
      rfl
    rw [hprobe]
    exact ⟨_, .refused f, rfl⟩
  | ok u =>
    have hprobe : Server.openProbe sql t =
        (t.note (Server.openProbe sql t.server).1 (.openProbe sql (.ok ())), .ok ()) := by
      rw [← hopened]
      rfl
    rw [hprobe]
    have happended (calls : List Call) (c₁ c₂ c₃ : Call) :
        calls ++ [c₁] ++ [c₂] ++ [c₃] = calls ++ [c₁, c₂, c₃] := by simp
    exact ⟨_, .described _ _, happended t.calls _ _ _⟩

private theorem probed_load (st : Statement) (t : Traced σ) : st.Probed t (st.load t).1 := by
  obtain ⟨calls, hcalls, ht⟩ := probe_calls st.template.sql t
  unfold load
  generalize probe st.template.sql t = probed at hcalls ht
  obtain ⟨t', r⟩ := probed
  refine ⟨calls, r, hcalls, ?_⟩
  cases r with
  | ok d => exact ⟨ht, rfl⟩
  | error f =>
    rw [MetadataCache.learn_error]
    dsimp only
    split <;> exact ⟨ht, rfl⟩

/-- The server is asked for the shape of the rows only while that is not known. -/
theorem metadata_discovers (st : Statement) (t : Traced σ) :
    (st.metadata t).1 = (t, st) ∨ st.cache.rows = none ∧ st.Probed t (st.metadata t).1 := by
  unfold metadata
  split
  · exact .inl rfl
  · split
    · exact .inl rfl
    · split
      · exact .inl rfl
      · next hrows => exact .inr ⟨by simpa using hrows, probed_load st t⟩

theorem parameterMetadata_discovers (st : Statement) (t : Traced σ) :
    (st.parameterMetadata t).1 = (t, st) ∨
      st.cache.parameters = none ∧ st.Probed t (st.parameterMetadata t).1 := by
  unfold parameterMetadata
  split
  · exact .inl rfl
  · split
    · exact .inl rfl
    · next hparameters => exact .inr ⟨hparameters, probed_load st t⟩

private theorem parameters_of_load {server : σ} {shape : ParameterShape}
    (h : (st.load server).2 = .ok shape) :
    (st.load server).1.2.cache.parameters = some shape := by
  unfold load at h ⊢
  generalize probe st.template.sql server = probed at h ⊢
  obtain ⟨server', r⟩ := probed
  cases r with
  | ok d => exact congrArg some (Except.ok.inj h)
  | error f =>
    dsimp only at h ⊢
    split at h
    · cases h
    · next hblames =>
      rw [if_neg hblames]
      exact congrArg some (Except.ok.inj h)

theorem parameters_of_reply {server : σ} {shape : ParameterShape}
    (h : (st.parameterMetadata server).2 = .ok shape) :
    (st.parameterMetadata server).1.2.cache.parameters = some shape := by
  unfold parameterMetadata at h ⊢
  cases hguard : st.guardOpen with
  | error e =>
    rw [hguard] at h
    cases h
  | ok _ =>
    rw [hguard] at h
    dsimp only at h ⊢
    cases hparameters : st.cache.parameters with
    | some parameters =>
      rw [hparameters] at h
      cases h
      exact hparameters
    | none =>
      rw [hparameters] at h
      exact parameters_of_load h

end Statement
end SqlStatement
