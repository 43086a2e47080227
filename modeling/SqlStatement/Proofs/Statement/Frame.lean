import SqlStatement.Proofs.Server.Recording
import SqlStatement.Session.Basic
import SqlStatement.Statement.Edit
/-!
# What operations leave alone

An edit changes nothing of a statement but its bindings and options, an execution nothing but its
results and its path, and a question to the server nothing but what was found out.  Executions
keep to this wherever they are cut, and the server sees nothing but `Statement.requests`.
-/
namespace SqlStatement

namespace Statement

def SameButOutcome (a b : Statement) : Prop :=
  b = { a with results := b.results, path := b.path }

def SameButCache (a b : Statement) : Prop :=
  b = { a with cache := b.cache }

def SameButBinding (a b : Statement) : Prop :=
  b = { a with
    slots := b.slots, queue := b.queue, longData := b.longData, options := b.options }

/-- A statement while it executes and afterwards: untouched if the execution was refused, without
results while it goes on, and then with a closed log. -/
inductive Proceeds (st : Statement) : Statement → Prop
  | refused : Proceeds st st
  | running (hopen : st.closed = false) (path : Option BatchPath) :
      Proceeds st { st with results := none, path }
  | ended (hopen : st.closed = false) (log : Results) (path : Option BatchPath) :
      Proceeds st { st with results := some log.finish, path }

theorem Proceeds.sameButOutcome {st st' : Statement} (h : st.Proceeds st') :
    st.SameButOutcome st' := by
  cases h <;> rfl

def requests (st : Statement) : Requests where
  template := st.template
  single row := st.row = .ok row ∨ row ∈ st.queue
  queue := st.queue
  longData := st.longData

theorem guardOpen_eq_ok {st : Statement} (h : st.guardOpen = .ok ()) : st.closed = false := by
  unfold guardOpen at h
  cases hclosed : st.closed with
  | true =>
    rw [hclosed] at h
    cases h
  | false => rfl

theorem guardOpen_bind_eq_ok {α : Type} {st : Statement} {next : Except StatementError α} {a : α}
    (h : (st.guardOpen >>= fun _ => next) = .ok a) : st.closed = false ∧ next = .ok a := by
  cases hguard : st.guardOpen with
  | error e =>
    rw [hguard] at h
    cases h
  | ok _ =>
    rw [hguard] at h
    exact ⟨guardOpen_eq_ok hguard, h⟩

theorem guardOpen_of_open {st : Statement} (h : st.closed = false) : st.guardOpen = .ok () := by
  simp [guardOpen, h]

theorem guardOpen_bind_eq_error {α : Type} {st : Statement} {next : Except StatementError α}
    {refused : StatementError} (h : (st.guardOpen >>= fun _ => next) = .error refused) :
    st.closed = true ∧ refused = .closed ∨ st.closed = false ∧ next = .error refused := by
  cases hclosed : st.closed with
  | true =>
    have hguard : st.guardOpen = .error .closed := by simp [guardOpen, hclosed]
    rw [hguard] at h
    exact .inl ⟨rfl, (Except.error.inj h).symm⟩
  | false =>
    rw [guardOpen_of_open hclosed] at h
    exact .inr ⟨rfl, h⟩

theorem row_eq_ok {st : Statement} {row : Row} (h : st.row = .ok row) :
    st.slots = row.map some := by
  unfold Statement.row at h
  split at h
  · cases h
  · next hbound =>
    cases h
    rw [List.findIdx?_eq_none_iff] at hbound
    generalize st.slots = slots at hbound ⊢
    induction slots with
    | nil => rfl
    | cons slot slots ih =>
      obtain ⟨hslot, hslots⟩ := List.forall_mem_cons.1 hbound
      cases slot with
      | none => cases hslot
      | some v => exact congrArg (List.cons (some v)) (ih hslots)

inductive Edited (st : Statement) : Edit → Statement → Prop
  | valueSet {index : Nat} {v : Value} (hindex : 1 ≤ index ∧ index ≤ st.slots.length) :
      Edited st (.setValue index v) { st with
        slots := st.slots.set (index - 1) (some v), longData := st.longData || v.isLongData }
  | valuesCleared : Edited st .clearValues
      { st with slots := List.replicate st.template.paramCount none }
  | queued {row : Row} (hrow : st.slots = row.map some) :
      Edited st .addBatch { st with queue := st.queue ++ [row] }
  | queueCleared : Edited st .clearBatch { st with queue := [], longData := false }
  | timeoutSet {limit : Option Duration} (hlimit : limit.any Duration.isZero = false) :
      Edited st (.setTimeout limit) { st with options := { st.options with timeout := limit } }
  | fetchSizeSet {size : Nat} : Edited st (.setFetchSize size)
      { st with options := { st.options with fetchSize := size } }
  | continueBatchSet {on : Bool} : Edited st (.setContinueBatch on)
      { st with options := { st.options with continueBatch := on } }

theorem edit?_eq_ok {st st' : Statement} {e : Edit} (h : st.edit? e = .ok st') :
    st.closed = false ∧ st.Edited e st' := by
  cases e with
  | setValue index v =>
    obtain ⟨hopen, h⟩ := guardOpen_bind_eq_ok h
    split at h
    · next hindex =>
      cases h
      exact ⟨hopen, .valueSet hindex⟩
    · cases h
  | clearValues =>
    obtain ⟨hopen, h⟩ := guardOpen_bind_eq_ok h
    cases h
    exact ⟨hopen, .valuesCleared⟩
  | addBatch =>
    obtain ⟨hopen, h⟩ := guardOpen_bind_eq_ok h
    cases hrow : st.row with
    | error e =>
      rw [hrow] at h
      cases h
    | ok row =>
      rw [hrow] at h
      cases h
      exact ⟨hopen, .queued (row_eq_ok hrow)⟩
  | addBatchText sql => cases h
  | clearBatch =>
    obtain ⟨hopen, h⟩ := guardOpen_bind_eq_ok h
    cases h
    exact ⟨hopen, .queueCleared⟩
  | setTimeout limit =>
    obtain ⟨hopen, h⟩ := guardOpen_bind_eq_ok h
    split at h
    · cases h
    · next hlimit =>
      cases h
      exact ⟨hopen, .timeoutSet (Bool.eq_false_iff.2 hlimit)⟩
  | setFetchSize size =>
    obtain ⟨hopen, h⟩ := guardOpen_bind_eq_ok h
    cases h
    exact ⟨hopen, .fetchSizeSet⟩
  | setContinueBatch on =>
    obtain ⟨hopen, h⟩ := guardOpen_bind_eq_ok h
    cases h
    exact ⟨hopen, .continueBatchSet⟩

inductive Refused (st : Statement) : Edit → StatementError → Prop
  | closed {e : Edit} (hclosed : st.closed = true) : Refused st e .closed
  | outOfRange {index : Nat} {v : Value} (hopen : st.closed = false)
      (hindex : ¬(1 ≤ index ∧ index ≤ st.slots.length)) :
      Refused st (.setValue index v) (st.context.indexOutOfRange index v st.template.sql)
  | unset {unbound : StatementError} (hopen : st.closed = false)
      (hrow : st.row = .error unbound) : Refused st .addBatch unbound
  | text {sql : String} : Refused st (.addBatchText sql) .textInBatch
  | zeroTimeout {limit : Option Duration} (hopen : st.closed = false)
      (hlimit : limit.any Duration.isZero = true) :
      Refused st (.setTimeout limit) (.options .zeroStatementTimeout)

theorem edit?_eq_error {st : Statement} {e : Edit} {refused : StatementError}
    (h : st.edit? e = .error refused) : st.Refused e refused := by
  cases e with
  | setValue index v =>
    rcases guardOpen_bind_eq_error h with ⟨hclosed, rfl⟩ | ⟨hopen, h⟩
    · exact .closed hclosed
    · split at h
      · cases h
      · next hindex =>
        cases h
        exact .outOfRange hopen hindex
  | addBatch =>
    rcases guardOpen_bind_eq_error h with ⟨hclosed, rfl⟩ | ⟨hopen, h⟩
    · exact .closed hclosed
    · cases hrow : st.row with
      | error unbound =>
        rw [hrow] at h
        cases h
        exact .unset hopen hrow
      | ok row =>
        rw [hrow] at h
        cases h
  | addBatchText sql =>
    cases h
    exact .text
  | setTimeout limit =>
    rcases guardOpen_bind_eq_error h with ⟨hclosed, rfl⟩ | ⟨hopen, h⟩
    · exact .closed hclosed
    · split at h
      · next hlimit =>
        cases h
        exact .zeroTimeout hopen hlimit
      · cases h
  | clearValues | clearBatch | setFetchSize size | setContinueBatch on =>
    rcases guardOpen_bind_eq_error h with ⟨hclosed, rfl⟩ | ⟨hopen, h⟩
    · exact .closed hclosed
    · cases h

theorem edit?_frame {st st' : Statement} {e : Edit} (h : st.edit? e = .ok st') :
    st.closed = false ∧ st.SameButBinding st' := by
  obtain ⟨hopen, hedited⟩ := edit?_eq_ok h
  refine ⟨hopen, ?_⟩
  cases hedited <;> rfl

variable {σ κ : Type} [Server σ κ] {R : σ → σ → Prop} {P : σ → Prop} {st : Statement}

theorem shows_limited {τ α : Type} {P : τ → Prop} {run : Timed τ (Except StatementError α)}
    (h : run.Shows P) (limit : Option Duration) : (limited limit run).Shows P := by
  cases limit with
  | none => exact h
  | some d => exact (h.cut d.millis).map

theorem course_limited {τ α : Type} {P : τ → Prop} {Q : τ → Except StatementError α → Prop}
    {run : Timed τ (Except StatementError α)} (h : run.Course P Q) (limit : Option Duration) :
    (limited limit run).Course P fun s r => Q s r ∨ ∃ d, r = .error (.timedOut d) ∧ P s := by
  cases limit with
  | none => exact h.mono (fun _ hs => hs) fun _ _ => .inl
  | some d =>
    refine (h.cut d.millis).map ?_
    intro s r hs
    cases r with
    | none => exact .inr ⟨d, rfl, hs⟩
    | some r => exact .inl hs

theorem shows_executeRow (hopen : st.closed = false) {row : Row} {server : σ}
    (hexecute : ∀ primary limit log, (Server.execute primary st.template row limit
      (server, log)).Shows fun s => P s.1) :
    (st.executeRow row server).Shows fun s => P s.1 ∧ st.Proceeds s.2 := by
  unfold executeRow
  dsimp only
  apply Timed.Shows.conclude (shows_limited (hexecute _ _ _).map _)
  · intro s hs
    exact ⟨hs, .running hopen st.path⟩
  · intro hs
    exact ⟨hs, .ended hopen _ st.path⟩

theorem shows_execute (h : Server.MovesFor st.requests R) (server : σ) :
    (st.execute server).Shows fun s => R server s.1 ∧ st.Proceeds s.2 := by
  unfold execute
  split
  · exact ⟨h.refl server, .refused⟩
  · next row heq =>
    obtain ⟨hopen, hrow⟩ := guardOpen_bind_eq_ok heq
    exact shows_executeRow hopen fun _ _ _ => h.execute _ _ _ _ _ (.inl hrow)

/-- The loop over the queue does nothing but make requests and note failures. -/
theorem leads_executeRows (primary : Bool) {rows : List Row}
    (hrows : ∀ row ∈ rows, st.requests.single row) (first : Option StatementError)
    {start s : σ × Results} (hs : Server.Leads st.requests start s) :
    (st.executeRows primary rows first s).Shows (Server.Leads st.requests start) := by
  induction rows generalizing first s with
  | nil => cases first <;> exact hs
  | cons row rows ih =>
    obtain ⟨hrow, hrest⟩ := List.forall_mem_cons.1 hrows
    obtain ⟨server, log⟩ := s
    have hpolled : Server.Leads st.requests start
        ((if st.options.timeout.isSome then Server.poll server else (server, .ok ())).1, log) := by
      split
      · exact hs.polls
      · exact hs
    unfold executeRows
    generalize (if st.options.timeout.isSome then Server.poll server
      else (server, Except.ok ())) = polled at hpolled ⊢
    obtain ⟨server, answer⟩ := polled
    dsimp only
    split
    · exact hpolled
    · apply (hpolled.shows_execute primary hrow none).andThen
      intro hs
      split
      · exact ih hrest _ hs
      · split
        · exact ih hrest _ hs.notesFailure
        · exact hs.notesFailure

theorem leads_executeQueue (st : Statement) (start : σ × Results) :
    (st.executeQueue start).Shows (Server.Leads st.requests start) := by
  unfold executeQueue
  apply (Server.Leads.start.shows_executeBatch (Server.isPrimary start.1)).andThen
  intro hs
  split
  · exact hs
  · exact hs
  · exact leads_executeRows _ (fun row hrow => .inr hrow) none hs

private theorem shows_executeRows (h : Server.MovesFor st.requests R)
    (hP : ∀ a b, R a b → P a → P b) (primary : Bool) {rows : List Row}
    (hrows : ∀ row ∈ rows, st.requests.single row) (first : Option StatementError) (server : σ)
    (log : Results) (hserver : P server) :
    (st.executeRows primary rows first (server, log)).Shows fun s => P s.1 :=
  (leads_executeRows primary hrows first .start).mono fun _ hs => hP _ _ (hs.moves h) hserver

theorem shows_executeQueue (h : Server.MovesFor st.requests R) (hP : ∀ a b, R a b → P a → P b)
    {s : σ × Results}
    (hoffer : (Server.executeBatch (Server.isPrimary s.1) st.template st.queue st.longData s).Shows
      fun s => P s.1) :
    (st.executeQueue s).Shows fun s => P s.1 := by
  unfold executeQueue
  apply hoffer.andThen
  intro hs
  split
  · exact hs
  · exact hs
  · exact shows_executeRows h hP _ (fun row hrow => .inr hrow) _ _ _ hs

theorem shows_runQueue (hopen : st.closed = false) {server : σ}
    (hqueue : ∀ log, (({ st with path := none } : Statement).executeQueue (server, log)).Shows
      fun s => P s.1) :
    (st.runQueue server).Shows fun s => P s.1 ∧ st.Proceeds s.2 := by
  unfold runQueue
  dsimp only
  apply Timed.Shows.conclude (shows_limited (hqueue _) _)
  · intro s hs
    exact ⟨hs, .running hopen none⟩
  · intro hs
    exact ⟨hs, .ended hopen _ _⟩

private theorem shows_executeBatchWith (h : Server.MovesFor st.requests R)
    (counts : Results → List Int) (server : σ) :
    (st.executeBatchWith counts server).Shows fun s => R server s.1 ∧ st.Proceeds s.2 := by
  unfold executeBatchWith
  split
  · exact ⟨h.refl server, .refused⟩
  · next hopen =>
    split
    · exact ⟨h.refl server, .refused⟩
    · have hqueue (log : Results) :
          (({ st with path := none } : Statement).executeQueue (server, log)).Shows fun s =>
            R server s.1 := by
        apply shows_executeQueue
        · exact h
        · exact fun a b hab ha => h.trans ha hab
        · exact h.executeBatch _ server log
      exact (shows_runQueue (guardOpen_eq_ok hopen) hqueue).conclude_id

private theorem load_frame (h : Server.MovesFor st.requests R) (server : σ) :
    R server (st.load server).1.1 ∧ st.SameButCache (st.load server).1.2 := by
  have hprobe : R server (probe st.template.sql server).1 := by
    have hopen : R server (Server.openProbe st.template.sql server).1 := h.openProbe server
    unfold probe
    split
    · next heq => rwa [heq] at hopen
    · next opened heq =>
      rw [heq] at hopen
      exact h.trans (h.trans hopen (h.describe opened)) (h.closeProbe _)
  unfold load
  split
  · next heq => exact ⟨by rwa [heq] at hprobe, rfl⟩
  · next heq =>
    rw [heq] at hprobe
    split <;> exact ⟨hprobe, rfl⟩

theorem metadata_frame (h : Server.MovesFor st.requests R) (server : σ) :
    R server (st.metadata server).1.1 ∧ st.SameButCache (st.metadata server).1.2 := by
  have hsame : R server server ∧ st.SameButCache st := ⟨h.refl server, rfl⟩
  unfold metadata
  split
  · exact hsame
  · split
    · exact hsame
    · split
      · exact hsame
      · exact load_frame h server

theorem parameterMetadata_frame (h : Server.MovesFor st.requests R) (server : σ) :
    R server (st.parameterMetadata server).1.1 ∧
      st.SameButCache (st.parameterMetadata server).1.2 := by
  have hsame : R server server ∧ st.SameButCache st := ⟨h.refl server, rfl⟩
  unfold parameterMetadata
  split
  · exact hsame
  · split
    · exact hsame
    · exact load_frame h server

end Statement

namespace Session

variable {σ κ : Type} [Server σ κ] {R : σ → σ → Prop}

/-- Every way to execute a statement leaves it as it was but for its outcome. -/
theorem shows_run {st : Statement} (h : Server.MovesFor st.requests R) (e : Execution)
    (server : σ) : (run st e server).Shows fun s => R server s.1 ∧ st.Proceeds s.2 := by
  have hexecute := Statement.shows_execute h server
  cases e with
  | once => exact hexecute.map
  | query => exact hexecute.conclude_id.map
  | update => exact hexecute.conclude_id.map.map
  | largeUpdate => exact hexecute.conclude_id.map
  | batch => exact (Statement.shows_executeBatchWith h _ server).map
  | largeBatch => exact (Statement.shows_executeBatchWith h _ server).map

theorem abandonedAfter_done {τ : Type} (patience : Option Nat) (state : τ) (ending : Ending) :
    abandonedAfter patience (.done state ending) = .done state ending := by
  cases patience <;> rfl

theorem shows_abandonedAfter {τ : Type} {P : τ → Prop} {run : Timed τ Ending} (h : run.Shows P)
    (patience : Option Nat) : (abandonedAfter patience run).Shows P := by
  cases patience with
  | none => exact h
  | some ms => exact (h.cut ms).map

end Session
end SqlStatement
