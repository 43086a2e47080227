import SqlStatement.Timed
/-!
# Runs seen through a function

A run can be watched through a function of its states.  Going on, concluding and cutting can be
done before or after.
-/
namespace SqlStatement.Timed

variable {σ σ' τ τ' α β γ : Type}

def project (f : σ → τ) (run : Timed σ α) : Timed τ α :=
  run.conclude f fun s a => (f s, a)

@[simp] theorem project_done (f : σ → τ) (s : σ) (a : α) :
    (done s a).project f = done (f s) a := rfl

@[simp] theorem project_pause (f : σ → τ) (ms : Nat) (s : σ) (rest : Timed σ α) :
    (pause ms s rest).project f = pause ms (f s) (rest.project f) := rfl

@[simp] theorem result_project (f : σ → τ) (run : Timed σ α) :
    (run.project f).result = run.result :=
  result_conclude run f _

@[simp] theorem state_project (f : σ → τ) (run : Timed σ α) :
    (run.project f).state = f run.state :=
  state_conclude run f _

@[simp] theorem elapsed_project (f : σ → τ) (run : Timed σ α) :
    (run.project f).elapsed = run.elapsed :=
  elapsed_conclude run f _

theorem project_andThen {f : σ → τ} {next : σ → α → Timed σ β} {next' : τ → α → Timed τ β}
    (h : ∀ s a, (next s a).project f = next' (f s) a) (run : Timed σ α) :
    (run.andThen next).project f = (run.project f).andThen next' := by
  induction run with
  | done s a => exact h s a
  | pause ms s rest ih => exact congrArg (pause ms (f s)) ih

theorem project_conclude {f : σ → τ} {g : σ' → τ'} {paused : σ → σ'} {paused' : τ → τ'}
    {ended : σ → α → σ' × β} {ended' : τ → α → τ' × β} (hpaused : ∀ s, g (paused s) = paused' (f s))
    (hended : ∀ s a, (g (ended s a).1, (ended s a).2) = ended' (f s) a) (run : Timed σ α) :
    (run.conclude paused ended).project g = (run.project f).conclude paused' ended' := by
  induction run with
  | done s a =>
    have h := hended s a
    simp only [conclude, project_done, ← h]
  | pause ms s rest ih =>
    simp only [conclude, project_pause, hpaused, ih]

theorem project_map (f : σ → τ) (g : α → β) (run : Timed σ α) :
    (run.map g).project f = (run.project f).map g :=
  project_conclude (f := f) (g := f) (fun _ => rfl) (fun _ _ => rfl) run

theorem map_conclude (g : β → γ) (run : Timed σ α) (paused : σ → τ) (ended : σ → α → τ × β) :
    (run.conclude paused ended).map g =
      run.conclude paused fun s a => ((ended s a).1, g (ended s a).2) := by
  induction run with
  | done s a => rfl
  | pause ms s rest ih => exact congrArg (pause ms (paused s)) ih

theorem project_conclude_eq_self {f : τ → σ} {paused : σ → τ} {ended : σ → α → τ × α}
    (hpaused : ∀ s, f (paused s) = s) (hended : ∀ s a, (f (ended s a).1, (ended s a).2) = (s, a))
    (run : Timed σ α) : (run.conclude paused ended).project f = run := by
  induction run with
  | done s a =>
    have h := hended s a
    simp only [conclude, project_done, Prod.mk.injEq] at h ⊢
    rw [h.1, h.2]
  | pause ms s rest ih => simp only [conclude, project_pause, hpaused, ih]

private theorem project_cutInTurn (f : σ → τ) (steps limit : Nat) (run : Timed σ α) :
    (run.cutInTurn steps limit).project f = (run.project f).cutInTurn steps limit := by
  induction run generalizing steps limit with
  | done s a => rfl
  | pause ms s rest ih =>
    rw [project_pause, cutInTurn, cutInTurn]
    split
    · rw [project_pause, ih]
    · split
      · rfl
      · split
        · rw [project_pause, ih]
        · rfl

theorem project_cut (f : σ → τ) (limit : Nat) (run : Timed σ α) :
    (run.cut limit).project f = (run.project f).cut limit :=
  project_cutInTurn f (turn - 1) limit run

private theorem eq_of_result_cutInTurn {steps limit : Nat} {run : Timed σ α} {a : α}
    (h : (run.cutInTurn steps limit).result = some a) :
    (run.cutInTurn steps limit).state = run.state ∧ run.result = a := by
  induction run generalizing steps limit with
  | done s b => exact ⟨rfl, Option.some.inj h⟩
  | pause ms s rest ih =>
    rw [cutInTurn] at h ⊢
    split at h
    · next hturn =>
      rw [if_pos hturn]
      exact ih h
    · next hturn =>
      rw [if_neg hturn]
      split at h
      · cases h
      · next hlimit =>
        rw [if_neg hlimit]
        split at h
        · next hms =>
          rw [if_pos hms]
          exact ih h
        · cases h

theorem eq_of_result_cut {limit : Nat} {run : Timed σ α} {a : α}
    (h : (run.cut limit).result = some a) : (run.cut limit).state = run.state ∧ run.result = a :=
  eq_of_result_cutInTurn h

end SqlStatement.Timed
