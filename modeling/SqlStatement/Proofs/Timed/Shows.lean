import SqlStatement.Proofs.Timed.Course
/-!
# What a run shows

A run can be given up at every pause.  What holds of it whenever that happens has to hold at every
pause and at the end.
-/
namespace SqlStatement.Timed

variable {σ τ α β : Type} {P Q : σ → Prop}

def Shows (P : σ → Prop) : Timed σ α → Prop
  | .done s _ => P s
  | .pause _ s rest => P s ∧ rest.Shows P

theorem Shows.state {run : Timed σ α} (h : run.Shows P) : P run.state := by
  induction run with
  | done s a => exact h
  | pause ms s rest ih => exact ih h.2

theorem Shows.mono {run : Timed σ α} (h : run.Shows P) (hPQ : ∀ s, P s → Q s) : run.Shows Q := by
  induction run with
  | done s a => exact hPQ s h
  | pause ms s rest ih => exact ⟨hPQ s h.1, ih h.2⟩

theorem shows_true (run : Timed σ α) : run.Shows fun _ => True := by
  induction run with
  | done s a => trivial
  | pause ms s rest ih => exact ⟨trivial, ih⟩

theorem Shows.and {run : Timed σ α} (hP : run.Shows P) (hQ : run.Shows Q) :
    run.Shows fun s => P s ∧ Q s := by
  induction run with
  | done s a => exact ⟨hP, hQ⟩
  | pause ms s rest ih => exact ⟨⟨hP.1, hQ.1⟩, ih hP.2 hQ.2⟩

theorem shows_imp {p : Prop} {run : Timed σ α} (h : p → run.Shows P) :
    run.Shows fun s => p → P s := by
  induction run with
  | done s a => exact h
  | pause ms s rest ih => exact ⟨fun hp => (h hp).1, ih fun hp => (h hp).2⟩

theorem Shows.andThen {run : Timed σ α} {next : σ → α → Timed σ β} (h : run.Shows P)
    (hnext : P run.state → (next run.state run.result).Shows P) : (run.andThen next).Shows P := by
  induction run with
  | done s a => exact hnext h
  | pause ms s rest ih => exact ⟨h.1, ih h.2 hnext⟩

theorem Shows.conclude {run : Timed σ α} {paused : σ → τ} {ended : σ → α → τ × β} {R : τ → Prop}
    (h : run.Shows P) (hpaused : ∀ s, P s → R (paused s))
    (hended : P run.state → R (ended run.state run.result).1) :
    (run.conclude paused ended).Shows R := by
  induction run with
  | done s a => exact hended h
  | pause ms s rest ih => exact ⟨hpaused s h.1, ih h.2 hended⟩

theorem Shows.conclude_id {run : Timed σ α} {result : σ → α → β} (h : run.Shows P) :
    (run.conclude id fun s a => (s, result s a)).Shows P :=
  h.conclude (fun _ hs => hs) fun hs => hs

theorem Shows.map {run : Timed σ α} {f : α → β} (h : run.Shows P) : (run.map f).Shows P :=
  h.conclude_id

theorem shows_iff_course {run : Timed σ α} : run.Shows P ↔ run.Course P fun s _ => P s := by
  induction run with
  | done s a => exact Iff.rfl
  | pause ms s rest ih => exact and_congr_right fun _ => ih

theorem Shows.cut {run : Timed σ α} (h : run.Shows P) (limit : Nat) : (run.cut limit).Shows P := by
  have hcut := (shows_iff_course.1 h).cut limit
  refine shows_iff_course.2 (hcut.mono (fun _ hs => hs) ?_)
  intro s r hs
  cases r with
  | none => exact hs
  | some a => exact hs

theorem shows_sleep {s : σ} {run : Timed σ α} (millis : Nat) (hs : P s) (h : run.Shows P) :
    (Timed.sleep millis s run).Shows P :=
  ⟨hs, h⟩

def shown : Timed σ α → List σ
  | .done s _ => [s]
  | .pause _ s rest => s :: rest.shown

theorem shows_shown (run : Timed σ α) : run.Shows fun s => s ∈ run.shown := by
  induction run with
  | done s a => exact List.mem_singleton_self s
  | pause ms s rest ih => exact ⟨List.mem_cons_self, ih.mono fun _ => List.mem_cons_of_mem s⟩

theorem Shows.of_mem_shown {run : Timed σ α} (h : run.Shows P) {s : σ} (hs : s ∈ run.shown) :
    P s := by
  induction run with
  | done t a =>
    obtain rfl := List.mem_singleton.1 hs
    exact h
  | pause ms t rest ih =>
    rcases List.mem_cons.1 hs with rfl | hs
    · exact h.1
    · exact ih h.2 hs

end SqlStatement.Timed
