import SqlStatement.Timed
/-!
# The course of a run

What holds at the pauses of a run is often not what holds at its end.  A run that is cut stays in
the state of a pause and has no result.
-/
namespace SqlStatement.Timed

variable {σ τ α β : Type} {P : σ → Prop} {Q : σ → α → Prop}

/-- The first property holds at every pause, the second of the end and the result. -/
def Course (P : σ → Prop) (Q : σ → α → Prop) : Timed σ α → Prop
  | .done s a => Q s a
  | .pause _ s rest => P s ∧ rest.Course P Q

theorem Course.ended {run : Timed σ α} (h : run.Course P Q) : Q run.state run.result := by
  induction run with
  | done s a => exact h
  | pause ms s rest ih => exact ih h.2

theorem Course.mono {P' : σ → Prop} {Q' : σ → α → Prop} {run : Timed σ α} (h : run.Course P Q)
    (hP : ∀ s, P s → P' s) (hQ : ∀ s a, Q s a → Q' s a) : run.Course P' Q' := by
  induction run with
  | done s a => exact hQ s a h
  | pause ms s rest ih => exact ⟨hP s h.1, ih h.2⟩

theorem Course.andThen {R : σ → β → Prop} {run : Timed σ α} {next : σ → α → Timed σ β}
    (h : run.Course P Q) (hnext : ∀ s a, Q s a → (next s a).Course P R) :
    (run.andThen next).Course P R := by
  induction run with
  | done s a => exact hnext s a h
  | pause ms s rest ih => exact ⟨h.1, ih h.2⟩

theorem Course.conclude {P' : τ → Prop} {R : τ → β → Prop} {run : Timed σ α} {paused : σ → τ}
    {ended : σ → α → τ × β} (h : run.Course P Q) (hpaused : ∀ s, P s → P' (paused s))
    (hended : ∀ s a, Q s a → R (ended s a).1 (ended s a).2) :
    (run.conclude paused ended).Course P' R := by
  induction run with
  | done s a => exact hended s a h
  | pause ms s rest ih => exact ⟨hpaused s h.1, ih h.2⟩

theorem Course.map {R : σ → β → Prop} {run : Timed σ α} {f : α → β} (h : run.Course P Q)
    (hQ : ∀ s a, Q s a → R s (f a)) : (run.map f).Course P R :=
  h.conclude (fun _ hs => hs) hQ

theorem Course.cutInTurn {run : Timed σ α} (h : run.Course P Q) (steps limit : Nat) :
    (run.cutInTurn steps limit).Course P fun s r => r.elim (P s) (Q s) := by
  induction run generalizing steps limit with
  | done s a => exact h
  | pause ms s rest ih =>
    unfold Timed.cutInTurn
    split
    · exact ⟨h.1, ih h.2 _ _⟩
    · split
      · exact h.1
      · split
        · exact ⟨h.1, ih h.2 _ _⟩
        · exact ⟨h.1, h.1⟩

/-- A run that is cut ends as it would have, or in a pause and without a result. -/
theorem Course.cut {run : Timed σ α} (h : run.Course P Q) (limit : Nat) :
    (run.cut limit).Course P fun s r => r.elim (P s) (Q s) :=
  h.cutInTurn (turn - 1) limit

end SqlStatement.Timed
