import Mathlib.Data.List.Induction
import SqlStatement.Proofs.Session.Discovery
import SqlStatement.Proofs.Session.WellFormed
import SqlStatement.Proofs.Statement.EditHistory
/-!
# Announcements of long data

The announcement that goes with an offered queue is about what was bound since the queue was last
cleared.  A value that stays bound when the queue is cleared can be queued again, and then it is
not announced.  Offers come from batches alone, and a batch offers what its own statement holds:
`Session.Effect.offers`.
-/
namespace SqlStatement

namespace Statement

variable {st st' : Statement} {e : Edit}

private theorem edit?_cases (hopen : st.closed = false) (e : Edit) :
    (∃ st', st.edit? e = .ok st' ∧ st.Edited e st') ∨
      (st.edit? e).toOption = none ∧ e ≠ .clearBatch ∧
        ∀ index v, e = .setValue index v → ¬(1 ≤ index ∧ index ≤ st.slots.length) := by
  cases hedit : st.edit? e with
  | ok st' => exact .inl ⟨st', rfl, (edit?_eq_ok hedit).2⟩
  | error refused =>
    refine .inr ⟨rfl, ?_⟩
    cases edit?_eq_error hedit with
    | closed hclosed =>
      rw [hopen] at hclosed
      cases hclosed
    | outOfRange _ hindex =>
      refine ⟨by simp, ?_⟩
      intro _ _ hset
      cases hset
      exact hindex
    | unset | text | zeroTimeout => simp

end Statement

namespace Session

variable {σ κ : Type} [Server σ κ] {s : Session σ}

/-- An operation of the run was done on the statement as it was then, and from there on its queue
was not cleared. -/
def SinceCleared (s : Session σ) (ops : List (Op κ)) (p : Nat) (P : Op κ → Statement → Prop) :
    Prop :=
  ∃ earlier op later st, ops = earlier ++ op :: later ∧ .edit p .clearBatch ∉ later ∧
    (s.after earlier).statements[p]? = some st ∧ P op st

/-- The value was bound in the slot since the queue was last cleared. -/
def IsBoundSince (s : Session σ) (ops : List (Op κ)) (p i : Nat) (v : Value) : Prop :=
  s.SinceCleared ops p fun op _ => op = .edit p (.setValue (i + 1) v)

/-- The value was in the slot already when the queue was last cleared. -/
def IsLeftOver (s : Session σ) (ops : List (Op κ)) (p i : Nat) (v : Value) : Prop :=
  s.SinceCleared ops p fun op st => op = .edit p .clearBatch ∧ st.slots[i]? = some (some v)

variable {ops : List (Op κ)} {op : Op κ} {p i : Nat} {v : Value}
  {P : Op κ → Statement → Prop}

private theorem sinceCleared_iff :
    s.SinceCleared ops p P ↔ ∃ earlier op later, ops = earlier ++ op :: later ∧
      (∃ st, (s.after earlier).statements[p]? = some st ∧ P op st) ∧
        ∀ x ∈ later, x ≠ .edit p .clearBatch := by
  constructor
  · rintro ⟨earlier, op, later, st, hops, hlater, hst, hP⟩
    exact ⟨earlier, op, later, hops, ⟨st, hst, hP⟩, fun x hx hclear => hlater (hclear ▸ hx)⟩
  · rintro ⟨earlier, op, later, hops, ⟨st, hst, hP⟩, hlater⟩
    exact ⟨earlier, op, later, st, hops, fun hclear => hlater _ hclear rfl, hst, hP⟩

private theorem sinceCleared_append_iff :
    s.SinceCleared (ops ++ [op]) p P ↔
      op ≠ .edit p .clearBatch ∧ s.SinceCleared ops p P ∨
        ∃ st, (s.after ops).statements[p]? = some st ∧ P op st := by
  rw [sinceCleared_iff, sinceCleared_iff, exists_cut_append_iff, or_comm]

private theorem SinceCleared.lt_length (h : s.SinceCleared ops p P) :
    p < (s.after ops).statements.length := by
  obtain ⟨earlier, first, later, st, rfl, -, hst, -⟩ := h
  have hlt : p < (s.after earlier).statements.length := (List.getElem?_eq_some_iff.1 hst).1
  rw [after_append]
  exact Nat.lt_of_lt_of_le hlt (length_statements_le_after _ _)

private theorem isBoundSince_append_iff :
    s.IsBoundSince (ops ++ [op]) p i v ↔
      op ≠ .edit p .clearBatch ∧ s.IsBoundSince ops p i v ∨
        op = .edit p (.setValue (i + 1) v) ∧ p < (s.after ops).statements.length := by
  rw [IsBoundSince, sinceCleared_append_iff]
  refine or_congr Iff.rfl ⟨?_, ?_⟩
  · rintro ⟨st, hst, hop⟩
    exact ⟨hop, (List.getElem?_eq_some_iff.1 hst).1⟩
  · rintro ⟨hop, hlt⟩
    exact ⟨_, List.getElem?_eq_getElem hlt, hop⟩

def IsHeld (s : Session σ) (ops : List (Op κ)) (p i : Nat) (v : Value) : Prop :=
  s.IsBoundSince ops p i v ∨ s.IsLeftOver ops p i v

theorem IsHeld.append (h : s.IsHeld ops p i v) (hop : op ≠ .edit p .clearBatch) :
    s.IsHeld (ops ++ [op]) p i v :=
  h.imp (fun h => sinceCleared_append_iff.2 (.inl ⟨hop, h⟩))
    fun h => sinceCleared_append_iff.2 (.inl ⟨hop, h⟩)

structure Accounted (s : Session σ) (ops : List (Op κ)) (p : Nat) (st : Statement) : Prop where
  slots : ∀ i v, st.slots[i]? = some (some v) → s.IsHeld ops p i v
  queue : ∀ row ∈ st.queue, ∀ i v, row[i]? = some v → s.IsHeld ops p i v
  longData : ∀ i v, v.isLongData = true → i < st.slots.length → s.IsBoundSince ops p i v →
    st.longData = true

private theorem Accounted.keep {st st' : Statement} (h : s.Accounted ops p st)
    (hclear : op ≠ .edit p .clearBatch)
    (hset : ∀ i v, op = .edit p (.setValue (i + 1) v) → ¬i < st.slots.length)
    (hlength : st'.slots.length = st.slots.length)
    (hslots : ∀ (i : Nat) (v : Value), st'.slots[i]? = some (some v) →
      st.slots[i]? = some (some v))
    (hqueue : ∀ row ∈ st'.queue, row ∈ st.queue ∨ st.slots = row.map some)
    (hlongData : st'.longData = st.longData) : s.Accounted (ops ++ [op]) p st' := by
  constructor
  · intro i v hv
    exact (h.slots i v (hslots i v hv)).append hclear
  · intro row hrow i v hv
    rcases hqueue row hrow with hqueued | hbound
    · exact (h.queue row hqueued i v hv).append hclear
    · have hslot : st.slots[i]? = some (some v) := by simp [hbound, hv]
      exact (h.slots i v hslot).append hclear
  · intro i v hlong hi hbound
    rw [hlength] at hi
    rw [hlongData]
    rcases isBoundSince_append_iff.1 hbound with ⟨-, hbound⟩ | ⟨hop, -⟩
    · exact h.longData i v hlong hi hbound
    · exact absurd hi (hset i v hop)

theorem Accounted.same {st st' : Statement} (h : s.Accounted ops p st)
    (hclear : op ≠ .edit p .clearBatch)
    (hset : ∀ i v, op = .edit p (.setValue (i + 1) v) → ¬i < st.slots.length)
    (hsame : st'.slots = st.slots ∧ st'.queue = st.queue ∧ st'.longData = st.longData) :
    s.Accounted (ops ++ [op]) p st' := by
  obtain ⟨hslots, hqueue, hlongData⟩ := hsame
  refine h.keep hclear hset (by rw [hslots]) ?_ ?_ hlongData
  · rw [hslots]
    exact fun i v hv => hv
  · rw [hqueue]
    exact fun row hrow => .inl hrow

theorem Accounted.valueSet {st : Statement} (h : s.Accounted ops p st)
    (hp : p < (s.after ops).statements.length) {index : Nat} {w : Value}
    (hindex : 1 ≤ index ∧ index ≤ st.slots.length) :
    s.Accounted (ops ++ [.edit p (.setValue index w)]) p { st with
      slots := st.slots.set (index - 1) (some w), longData := st.longData || w.isLongData } := by
  have hclear : (.edit p (.setValue index w) : Op κ) ≠ .edit p .clearBatch := by simp
  constructor
  · intro i v hv
    rw [List.getElem?_set] at hv
    by_cases hi : index - 1 = i
    · have hlt : index - 1 < st.slots.length := by omega
      have hnext : index = i + 1 := by omega
      rw [if_pos hi, if_pos hlt] at hv
      cases hv
      exact .inl (isBoundSince_append_iff.2 (.inr ⟨by rw [hnext], hp⟩))
    · rw [if_neg hi] at hv
      exact (h.slots i v hv).append hclear
  · intro row hrow i v hv
    exact (h.queue row hrow i v hv).append hclear
  · intro i v hlong hi hbound
    rw [List.length_set] at hi
    rcases isBoundSince_append_iff.1 hbound with ⟨-, hbound⟩ | ⟨hop, -⟩
    · have hannounced := h.longData i v hlong hi hbound
      simp [hannounced]
    · cases hop
      simp [hlong]

theorem Accounted.queueCleared {st : Statement} (hst : (s.after ops).statements[p]? = some st) :
    s.Accounted (ops ++ [.edit p .clearBatch]) p { st with queue := [], longData := false } := by
  constructor
  · intro i v hv
    exact .inr (sinceCleared_append_iff.2 (.inr ⟨st, hst, rfl, hv⟩))
  · intro row hrow
    cases hrow
  · intro i v hlong hi hbound
    rcases isBoundSince_append_iff.1 hbound with ⟨hclear, -⟩ | ⟨hop, -⟩
    · exact absurd rfl hclear
    · cases hop

private theorem accounted_of_edit {st : Statement} {e : Edit} (h : s.Accounted ops p st)
    (hst : (s.after ops).statements[p]? = some st) (hwell : st.WellFormed)
    (hopen : st.closed = false) :
    s.Accounted (ops ++ [.edit p e]) p ((st.edit? e).toOption.getD st) := by
  have hp : p < (s.after ops).statements.length := (List.getElem?_eq_some_iff.1 hst).1
  rcases Statement.edit?_cases hopen e with ⟨st', hst', hedited⟩ | ⟨hnone, hclear, hset⟩
  · rw [hst']
    cases hedited with
    | valueSet hindex => exact h.valueSet hp hindex
    | valuesCleared =>
      refine h.keep (by simp) (by simp) ?_ ?_ (fun row hrow => .inl hrow) rfl
      · exact List.length_replicate.trans hwell.slots.symm
      · intro i v hv
        rw [Except.toOption, Option.getD_some, List.getElem?_replicate] at hv
        split at hv <;> cases hv
    | @queued row hrow =>
      refine h.keep (by simp) (by simp) rfl (fun i v hv => hv) ?_ rfl
      intro row' hrow'
      rcases List.mem_append.1 hrow' with hqueued | hnew
      · exact .inl hqueued
      · exact .inr (List.mem_singleton.1 hnew ▸ hrow)
    | queueCleared => exact .queueCleared hst
    | timeoutSet | fetchSizeSet | continueBatchSet =>
      exact h.same (by simp) (by simp) ⟨rfl, rfl, rfl⟩
  · rw [hnone, Option.getD_none]
    refine h.same (by simpa using hclear) ?_ ⟨rfl, rfl, rfl⟩
    intro i v hop hi
    cases hop
    exact hset (i + 1) v rfl ⟨by omega, by omega⟩

private theorem accounted_of_arises {st : Statement} (h : (s.after ops).Arises st)
    (hp : p = (s.after ops).statements.length) : s.Accounted (ops ++ [op]) p st := by
  obtain ⟨hslots, hqueue⟩ := h.fresh
  constructor
  · intro i v hv
    rw [hslots, List.getElem?_replicate] at hv
    split at hv <;> cases hv
  · intro row hrow
    rw [hqueue] at hrow
    cases hrow
  · intro i v _ _ hbound
    rcases isBoundSince_append_iff.1 hbound with ⟨-, hbound⟩ | ⟨-, hlt⟩
    · have hlt := hbound.lt_length
      omega
    · omega

/-- By induction on the run from its end: each operation accounts for what it changes. -/
theorem accounted_after (connections : List (Connection σ)) (pools : Pools) (ops : List (Op κ))
    {p : Nat} {st : Statement}
    (hst : ((start connections pools).after ops).statements[p]? = some st)
    (hopen : st.closed = false) : (start connections pools).Accounted ops p st := by
  induction ops using List.reverseRecOn generalizing p st with
  | nil => cases hst
  | append_singleton ops op ih =>
    have hnext : (start connections pools).after (ops ++ [op]) =
        ((start connections pools).after ops).next op := after_append _ ops [op]
    rw [hnext] at hst
    rcases (effect_next _ op).statement_cases hst with ⟨before, hbefore, hevolves⟩ | ⟨hp, harises⟩
    · have hopenBefore := hevolves.open_before hopen
      by_cases hop : ∃ e, op = .edit p e
      · obtain ⟨e, rfl⟩ := hop
        have hwell := hasWellFormed_after connections pools ops before
          (List.mem_of_getElem? hbefore)
        rw [next_edit hbefore, Option.some_inj] at hst
        exact hst ▸ accounted_of_edit (ih hbefore hopenBefore) hbefore hwell hopenBefore
      · rw [not_exists] at hop
        exact (ih hbefore hopenBefore).same (hop _) (fun i v h => absurd h (hop _))
          (hevolves.binding hop hopen)
    · exact accounted_of_arises harises hp

/-- Long data in a row of a queue is announced if it was bound since the queue was last cleared;
else it was bound already at that time. -/
def IsAnnounced (s : Session σ) (ops : List (Op κ)) (p : Nat) (longData : Bool) (row : Row) :
    Prop :=
  ∀ i v, row[i]? = some v → v.isLongData = true →
    (s.IsBoundSince ops p i v → longData = true) ∧
      (s.IsBoundSince ops p i v ∨ s.IsLeftOver ops p i v)

private theorem isAnnounced_of_queued (connections : List (Connection σ)) (pools : Pools)
    (ops : List (Op κ)) {p : Nat} {st : Statement} {row : Row}
    (hst : ((start connections pools).after ops).statements[p]? = some st) (hrow : row ∈ st.queue) :
    (start connections pools).IsAnnounced ops p st.longData row := by
  have hwell := hasWellFormed_after connections pools ops st (List.mem_of_getElem? hst)
  have hopen : st.closed = false := by
    by_contra hclosed
    rw [(hwell.closed (by simpa using hclosed)).2.1] at hrow
    cases hrow
  have haccounted := accounted_after connections pools ops hst hopen
  intro i v hv hlong
  have hi : i < st.slots.length := by
    rw [hwell.slots, ← hwell.queue row hrow]
    exact (List.getElem?_eq_some_iff.1 hv).1
  exact ⟨haccounted.longData i v hlong hi, haccounted.queue row hrow i v hv⟩

/-- The operation executes a statement on the connection as a batch, and the call is a request of
that statement. -/
def IsBatchCall (s : Session σ) (op : Op κ) (j : Nat) (call : Call) : Prop :=
  ∃ p e patience st, op = .execute p e patience ∧ e.isBatch = true ∧
    s.statements[p]? = some st ∧ st.connection = some j ∧ call.IsOf st.requests

private theorem grows_run_of_single (st : Statement) {e : Execution} (he : e.isBatch = false)
    (t : Traced σ) (patience : Option Nat) :
    t.Grows (fun call => call.isOffer = false)
      (abandonedAfter patience (run st e t)).state.1 := by
  have hexecute : (st.execute t).Shows fun s =>
      t.Grows (fun call => call.isOffer = false) s.1 := by
    unfold Statement.execute
    split
    · exact .refl _ t
    · next row hrow =>
      have hopen := (Statement.guardOpen_bind_eq_ok hrow).1
      have hsent (primary : Bool) (limit : Option Duration) (log : Results) :
          (Server.execute primary st.template row limit (t, log)).Shows fun s =>
            t.Grows (fun call => call.isOffer = false) s.1 := by
        apply Traced.shows_execute
        intro server answer
        exact Traced.grows_note (P := fun call => call.isOffer = false) rfl server
      exact (Statement.shows_executeRow hopen hsent).mono fun _ hs => hs.1
  have hrun : (run st e t).Shows fun s => t.Grows (fun call => call.isOffer = false) s.1 := by
    cases e with
    | once => exact hexecute.map
    | query => exact hexecute.conclude_id.map
    | update => exact hexecute.conclude_id.map.map
    | largeUpdate => exact hexecute.conclude_id.map
    | batch | largeBatch => cases he
  exact (shows_abandonedAfter hrun patience).state

/-- Only a batch makes an offer, and it offers what its statement holds. -/
theorem Effect.offers {s s' : Session (Traced σ)} {op : Op κ} (h : Effect s op s') {j : Nat}
    {d d' : Connection (Traced σ)} (hd : s.connections[j]? = some d)
    (hd' : s'.connections[j]? = some d') :
    d.server.Grows (fun call => call.isOffer = true → s.IsBatchCall op j call) d'.server := by
  have hnone {t t' : Traced σ} (hgrows : t.Grows (fun call => call.isOffer = false) t') :
      t.Grows (fun call => call.isOffer = true → s.IsBatchCall op j call) t' :=
    hgrows.mono fun call hcall hoffer => absurd (hcall.symm.trans hoffer) Bool.false_ne_true
  apply h.grows_of hd hd'
  · intro p e patience st server st' hop hst hi hrun
    cases hbatch : e.isBatch with
    | false =>
      have hgrows := grows_run_of_single st hbatch d.server patience
      rw [hrun] at hgrows
      exact hnone hgrows
    | true =>
      have hgrows := (executed_frame (Traced.movesFor_grows _) hrun).1
      exact hgrows.mono fun call hcall _ => ⟨p, e, patience, st, hop, hbatch, hst, hi, hcall⟩
  · intro p st server st' _ _ hop
    obtain hsame | ⟨-, calls, r, hprobe, hcalls, -⟩ := described_cases hop
    · cases hsame
      exact .refl _ _
    · exact hnone ⟨calls, hcalls, hprobe.isOffer⟩

/-- In every state that a run can reach, long data in a queue is announced if it was bound since
the queue was last cleared.  Every offer comes from an operation that executes a statement as a
batch, and it is made with the template, the queue and the announcement of that statement as they
are. -/
theorem longData_announced (connections : List (Connection σ)) (pools : Pools)
    (ops : List (Op κ)) :
    (∀ p st, ((start connections pools).after ops).statements[p]? = some st →
      ∀ row ∈ st.queue, (start connections pools).IsAnnounced ops p st.longData row) ∧
    ((start connections pools).watched.after ops).mapServers Traced.server =
      (start connections pools).after ops ∧
    ∀ op j c c', ((start connections pools).watched.after ops).connections[j]? = some c →
      (((start connections pools).watched.after ops).next op).connections[j]? = some c' →
        ∃ calls, c'.server.calls = c.server.calls ++ calls ∧
          ∀ primary template rows longData answer,
            .offer primary template rows longData answer ∈ calls →
              ∃ p e patience st, op = .execute p e patience ∧ e.isBatch = true ∧
                ((start connections pools).after ops).statements[p]? = some st ∧
                st.connection = some j ∧ template = st.template ∧ rows = st.queue ∧
                longData = st.longData ∧
                ∀ row ∈ rows, (start connections pools).IsAnnounced ops p longData row := by
  refine ⟨?_, after_watched _ ops, ?_⟩
  · intro p st hst row hrow
    exact isAnnounced_of_queued connections pools ops hst hrow
  · intro op j c c' hc hc'
    obtain ⟨calls, hcalls, hoffers⟩ := (effect_next _ op).offers hc hc'
    refine ⟨calls, hcalls, ?_⟩
    intro primary template rows longData answer hoffer
    obtain ⟨p, e, patience, st, hop, hbatch, hst, hconnection, htemplate, hrows, hlongData⟩ :=
      hoffers _ hoffer rfl
    have hst' : ((start connections pools).after ops).statements[p]? = some st := by
      rw [← after_watched]
      exact hst
    refine ⟨p, e, patience, st, hop, hbatch, hst', hconnection, htemplate, hrows, hlongData, ?_⟩
    subst hrows hlongData
    exact fun row hrow => isAnnounced_of_queued connections pools ops hst' hrow

def streamed : List (Op ScriptChange) :=
  [.prepare 0 "insert into t values (?)" none, .edit 0 (.setValue 1 (.stream [0])),
    .edit 0 .addBatch]

def clearedAndQueued : List (Op ScriptChange) :=
  [.prepare 0 "insert into t values (?)" none, .edit 0 (.setValue 1 (.stream [0])),
    .edit 0 .clearBatch, .edit 0 .addBatch]

/-- A stream that was bound since the queue was cleared is offered with an announcement. -/
theorem longData_announced_streamed :
    ∃ st c answer, ((start oneServer (.ofCount 0)).after streamed).statements[0]? = some st ∧
      st.queue = [[.stream [0]]] ∧ st.longData = true ∧
      ((start oneServer (.ofCount 0)).watched.after
        (streamed ++ [.execute 0 .batch none])).connections[0]? = some c ∧
      .offer true st.template [[.stream [0]]] true answer ∈ c.server.calls := by
  obtain ⟨hqueue, -, -⟩ := longData_announced oneServer (.ofCount 0) streamed
  have hbound : (start oneServer (.ofCount 0)).IsBoundSince streamed 0 0 (.stream [0]) :=
    ⟨[.prepare 0 "insert into t values (?)" none], _, [.edit 0 .addBatch], _, rfl, by simp, rfl,
      rfl⟩
  have hannounced := hqueue 0 _ rfl [.stream [0]] List.mem_cons_self 0 _ rfl rfl
  exact ⟨_, _, _, rfl, rfl, hannounced.1 hbound, rfl, List.mem_cons_self⟩

/-- A stream that stays bound when the queue is cleared is queued again and offered without an
announcement. -/
theorem longData_unannounced :
    ∃ st c answer,
      ((start oneServer (.ofCount 0)).after clearedAndQueued).statements[0]? = some st ∧
      st.queue = [[.stream [0]]] ∧ st.longData = false ∧
      ((start oneServer (.ofCount 0)).watched.after
        (clearedAndQueued ++ [.execute 0 .batch none])).connections[0]? = some c ∧
      .offer true st.template [[.stream [0]]] false answer ∈ c.server.calls :=
  ⟨_, _, _, rfl, rfl, rfl, rfl, List.mem_cons_self⟩

end Session
end SqlStatement
