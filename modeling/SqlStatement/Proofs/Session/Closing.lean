import SqlStatement.Proofs.Pools
import SqlStatement.Proofs.Session.Failing
/-!
# Closing statements

A closed statement never changes again and refuses whatever needs an open one.  Its listeners were
told at the first close, once for each registration, and only then did it let go of its
connection.  The standings of the statements say what is owed at a close: `heard_eq_due`.
-/
namespace SqlStatement

variable {σ κ : Type}

namespace Session

/-- What the operations of a run say of a statement: the connection it was made on, and whether it
was closed. -/
structure Standing where
  home : Nat
  closed : Bool
deriving DecidableEq, Repr

/-- The connection on which an operation makes a new statement, given the statements so far. -/
def home? (standings : List Standing) : Op κ → Option Nat
  | .prepare i _ _ | .cloneOnto _ i => some i
  | .clone p => standings[p]?.map Standing.home
  | _ => none

def markClosed (standings : List Standing) : Op κ → List Standing
  | .close p => standings.modify p fun standing => { standing with closed := true }
  | _ => standings

def nextStandings (before after : Session σ) (standings : List Standing) (op : Op κ) :
    List Standing :=
  markClosed standings op ++
    if before.statements.length < after.statements.length then
      ((home? standings op).map fun home => { home := home, closed := false }).toList
    else []

variable [Server σ κ]

def told (s : Session σ) (op : Op κ) : List Delivery :=
  (s.step op).elim [] fun done => done.2.deliveries

def heard (s : Session σ) : List (Op κ) → List Delivery
  | [] => []
  | op :: ops => s.told op ++ (s.next op).heard ops

/-- The operation needs the statement at the position to be open. -/
inductive NeedsOpen (connections p : Nat) : Op κ → Prop
  | clone : NeedsOpen connections p (.clone p)
  | cloneOnto {i : Nat} (hi : i < connections) : NeedsOpen connections p (.cloneOnto p i)
  | edit {e : Edit} (he : ∀ sql, e ≠ .addBatchText sql) : NeedsOpen connections p (.edit p e)
  | cloneText : NeedsOpen connections p (.ask p .cloneText)
  | execute (e : Execution) (patience : Option Nat) :
      NeedsOpen connections p (.execute p e patience)
  | metadata : NeedsOpen connections p (.metadata p)
  | parameterMetadata : NeedsOpen connections p (.parameterMetadata p)

end Session

namespace Statement

variable {st st' : Statement}

private theorem guardOpen_of_closed (h : st.closed = true) : st.guardOpen = .error .closed := by
  simp [guardOpen, h]

private theorem edit?_of_closed (h : st.closed = true) {e : Edit}
    (he : ∀ sql, e ≠ .addBatchText sql) : st.edit? e = .error .closed := by
  have hguard := guardOpen_of_closed h
  cases e with
  | addBatchText sql => exact absurd rfl (he sql)
  | setValue index v => rw [edit?, setValue, hguard]; rfl
  | clearValues => rw [edit?, clearValues, hguard]; rfl
  | addBatch => rw [edit?, addBatch, hguard]; rfl
  | clearBatch => rw [edit?, clearBatch, hguard]; rfl
  | setTimeout limit => rw [edit?, setTimeout, hguard]; rfl
  | setFetchSize size => rw [edit?, setFetchSize, hguard]; rfl
  | setContinueBatch on => rw [edit?, setContinueBatch, hguard]; rfl

end Statement

namespace Session

variable [Server σ κ] {s s' : Session σ} {p : Nat} {st : Statement}

section Closed

variable (hst : s.statements[p]? = some st) (hclosed : st.closed = true)
include hclosed

private theorem run_of_closed (x : Execution) (server : σ) :
    run st x server = .done (server, st) (.error .closed) := by
  have hguard := Statement.guardOpen_of_closed hclosed
  have hbatch (counts : Results → List Int) :
      st.executeBatchWith counts server = .done (server, st) (.error .closed) := by
    rw [Statement.executeBatchWith, hguard]
  by_cases hx : x = .batch ∨ x = .largeBatch
  · obtain rfl | rfl := hx
    · rw [run, Statement.executeBatch, hbatch]
      rfl
    · rw [run, Statement.executeLargeBatch, hbatch]
      rfl
  · refine run_of_refused (not_or.1 hx) ?_
    rw [hguard]
    rfl

include hst

omit [Server σ κ] hclosed in
private theorem onServer_of_closed {work : σ → Timed (σ × Statement) Ending}
    (hwork : ∀ server, work server = .done (server, st) (.error .closed)) :
    s.onServer p st work = (s, { ending := .error .closed, statement := p }) := by
  cases hconnection : s.connectionOf? st with
  | none => rw [onServer, hconnection]
  | some found => exact onServer_done hst hconnection (hwork _)

theorem step_of_closed {op : Op κ} (hop : NeedsOpen s.connections.length p op) :
    ∃ answer, s.step op = some (s, answer) ∧ answer.ending = .error .closed ∧
      answer.deliveries = [] := by
  have hguard := Statement.guardOpen_of_closed hclosed
  have hclone : s.clone st = .error .closed := by
    rw [clone, hguard]
    rfl
  cases hop with
  | clone =>
    refine ⟨{ ending := .error .closed }, ?_, rfl, rfl⟩
    rw [step, hst, Option.map_some, hclone]
    rfl
  | @cloneOnto i hi =>
    refine ⟨{ ending := .error .closed }, ?_, rfl, rfl⟩
    rw [step, hst, Option.bind_some, List.getElem?_eq_getElem hi, Option.map_some,
      Connection.clone, hguard]
    rfl
  | edit he =>
    refine ⟨{ ending := .error .closed, statement := p }, ?_, rfl, rfl⟩
    rw [step, hst, Option.map_some, Session.edit, Statement.edit?_of_closed hclosed he]
  | cloneText =>
    refine ⟨{ ending := .error .closed, statement := p }, ?_, rfl, rfl⟩
    rw [step, hst, Option.map_some, ask, hclone]
    rfl
  | execute x patience =>
    refine ⟨{ ending := .error .closed, statement := p }, ?_, rfl, rfl⟩
    rw [step, hst, Option.map_some]
    refine congrArg some (onServer_of_closed hst fun server => ?_)
    rw [run_of_closed hclosed, abandonedAfter_done]
  | metadata =>
    refine ⟨{ ending := .error .closed, statement := p }, ?_, rfl, rfl⟩
    rw [step, hst, Option.map_some]
    refine congrArg some (onServer_of_closed hst fun server => ?_)
    rw [Statement.metadata, hguard]
    rfl
  | parameterMetadata =>
    refine ⟨{ ending := .error .closed, statement := p }, ?_, rfl, rfl⟩
    rw [step, hst, Option.map_some]
    refine congrArg some (onServer_of_closed hst fun server => ?_)
    rw [Statement.parameterMetadata, hguard]
    rfl

end Closed

private theorem announcement?_eq_some {pool : Nat} {notice : Notice}
    (h : s.announcement? st = some (pool, notice)) : s.pools.on pool ≠ [] := by
  obtain ⟨⟨i, c⟩, -, h⟩ := Option.bind_eq_some_iff.1 h
  obtain ⟨pool', -, h⟩ := Option.bind_eq_some_iff.1 h
  split at h
  · cases h
  · next hon =>
    cases h
    simpa using hon

private theorem close_of_open (p : Nat) (hopen : st.closed = false)
    (hpools : s.pools.WellRegistered) :
    ∃ st', (s.close p st).1.statements = s.statements.set p st' ∧ st'.closed = true ∧
      ((s.close p st).2.deliveries = [] ∧ st'.connection = st.connection ∨
        (s.close p st).2.deliveries ≠ [] ∧ st'.connection = none) := by
  unfold close
  dsimp only
  rw [if_neg (by simp [hopen])]
  cases hannounced : s.announcement? st with
  | none => exact ⟨st.release, rfl, rfl, .inl ⟨rfl, rfl⟩⟩
  | some found =>
    obtain ⟨pool, notice⟩ := found
    refine ⟨st.release.detach, rfl, rfl, .inr ⟨?_, rfl⟩⟩
    intro hnone
    have hnames := Pools.names_fire notice s.pools pool
    rw [show (s.pools.fire pool notice).2 = [] from hnone] at hnames
    exact Pools.names_ne_nil hpools (announcement?_eq_some hannounced)
      (List.map_eq_nil_iff.1 hnames.symm)

structure Standing.Holds (standing : Standing) (st : Statement) : Prop where
  closed : st.closed = standing.closed
  connection : st.connection = some standing.home ∨
    st.connection = none ∧ standing.closed = true

structure HasStandings (s : Session σ) (standings : List Standing) : Prop where
  length : standings.length = s.statements.length
  holds : ∀ {p : Nat} {st : Statement} {standing : Standing}, s.statements[p]? = some st →
    standings[p]? = some standing → standing.Holds st

private theorem closed_next_close {st' : Statement} (hpools : s.pools.WellRegistered)
    (hst : s.statements[p]? = some st)
    (hst' : (s.next (.close p : Op κ)).statements[p]? = some st') : st'.closed = true := by
  have hnext : s.next (.close p : Op κ) = (s.close p st).1 := by
    rw [next, step, hst, Option.map_some, Option.elim_some]
  rw [hnext] at hst'
  cases hclosed : st.closed with
  | true =>
    rw [close, if_pos hclosed, hst] at hst'
    cases hst'
    exact hclosed
  | false =>
    obtain ⟨found, hset, hfound, -⟩ := close_of_open p hclosed hpools
    rw [hset, List.getElem?_set_self (List.getElem?_eq_some_iff.1 hst).1] at hst'
    cases hst'
    exact hfound

private theorem Evolves.standing {op : Op κ} {st' : Statement} (h : Evolves op p st st')
    (hop : op ≠ .close p) : st'.closed = st.closed ∧ st'.connection = st.connection := by
  cases h with
  | same => exact ⟨rfl, rfl⟩
  | edited _ hst' =>
    rw [(Statement.edit?_frame hst').2]
    exact ⟨rfl, rfl⟩
  | executed _ hst' =>
    rw [hst'.sameButOutcome]
    exact ⟨rfl, rfl⟩
  | described _ hst' =>
    rw [hst']
    exact ⟨rfl, rfl⟩
  | closed hclose => exact absurd hclose hop

private theorem Standing.Holds.evolve {standing : Standing} {op : Op κ} {st' : Statement}
    (h : standing.Holds st) (hop : op ≠ .close p) (hevolves : Evolves op p st st') :
    standing.Holds st' := by
  obtain ⟨hclosed, hconnection⟩ := hevolves.standing hop
  constructor
  · rw [hclosed, h.closed]
  · rw [hconnection]
    exact h.connection

omit [Server σ κ] in
private theorem getElem?_markClosed {standings : List Standing} {op : Op κ} {standing' : Standing}
    (h : (markClosed standings op)[p]? = some standing') :
    ∃ standing, standings[p]? = some standing ∧
      (op ≠ .close p ∧ standing' = standing ∨
        op = .close p ∧ standing' = { standing with closed := true }) := by
  cases op with
  | close q =>
    rw [markClosed, List.getElem?_modify] at h
    obtain ⟨standing, hstanding, hsame⟩ := Option.map_eq_some_iff.1 h
    refine ⟨standing, hstanding, ?_⟩
    by_cases hq : q = p
    · rw [if_pos hq] at hsame
      exact .inr ⟨hq ▸ rfl, hsame.symm⟩
    · rw [if_neg hq] at hsame
      exact .inl ⟨fun hop => hq (Op.close.inj hop), hsame.symm⟩
  | _ => exact ⟨standing', h, .inl ⟨nofun, rfl⟩⟩

omit [Server σ κ] in
private theorem length_markClosed (standings : List Standing) (op : Op κ) :
    (markClosed standings op).length = standings.length := by
  cases op with
  | close => exact List.length_modify _ _ _
  | _ => rfl

private theorem HasStandings.added {standings : List Standing} {op : Op κ}
    (hs : s.HasStandings standings) (h : Effect s op s') :
    s'.statements.length = s.statements.length ∨
      ∃ st home, s'.statements = s.statements ++ [st] ∧ home? standings op = some home ∧
        st.closed = false ∧ st.connection = some home := by
  cases h with
  | nothing | pools | changed => exact .inl rfl
  | executed | described => exact .inl List.length_set
  | edited | closed => exact .inl List.length_set
  | @prepared i sql o c st hc hst =>
    obtain ⟨-, rfl⟩ := Connection.prepare_eq_ok hst
    exact .inr ⟨_, i, rfl, rfl, rfl, rfl⟩
  | @cloned p i st copy c hst hi hc hcopy =>
    obtain ⟨-, rfl⟩ := Connection.clone_eq_ok hcopy
    refine .inr ⟨_, i, rfl, ?_, rfl, rfl⟩
    have hlt : p < standings.length := hs.length ▸ (List.getElem?_eq_some_iff.1 hst).1
    have hstanding := List.getElem?_eq_getElem hlt
    rw [home?, hstanding, Option.map_some]
    obtain hhome | ⟨hnone, -⟩ := (hs.holds hst hstanding).connection
    · exact hhome.symm.trans hi
    · cases hi.symm.trans hnone
  | @clonedOnto p i st copy c hst hc hcopy =>
    obtain ⟨-, rfl⟩ := Connection.clone_eq_ok hcopy
    exact .inr ⟨_, i, rfl, rfl, rfl, rfl⟩

theorem HasStandings.next {standings : List Standing} (hs : s.HasStandings standings)
    (hpools : s.pools.WellRegistered) (op : Op κ) :
    (s.next op).HasStandings (nextStandings s (s.next op) standings op) := by
  have hmarked := length_markClosed standings op
  rw [hs.length] at hmarked
  have hold {q : Nat} {st' : Statement} {standing' : Standing} (hq : q < s.statements.length)
      (hst' : (s.next op).statements[q]? = some st')
      (hstanding' : (markClosed standings op)[q]? = some standing') : standing'.Holds st' := by
    obtain ⟨found, hfound, hevolves⟩ := exists_evolved_next (List.getElem?_eq_getElem hq) op
    cases hst'.symm.trans hfound
    obtain ⟨standing, hstanding, hmark⟩ := getElem?_markClosed hstanding'
    have hholds := hs.holds (List.getElem?_eq_getElem hq) hstanding
    obtain ⟨hop, rfl⟩ | ⟨rfl, rfl⟩ := hmark
    · exact hholds.evolve hop hevolves
    · refine ⟨closed_next_close hpools (List.getElem?_eq_getElem hq) hst', ?_⟩
      obtain hsame | ⟨hnone, -⟩ := hevolves.connection
      · rw [hsame]
        exact hholds.connection.imp_right fun h => ⟨h.1, rfl⟩
      · exact .inr ⟨hnone, rfl⟩
  obtain hsame | ⟨st, home, hadd, hhome, hopen, hconnection⟩ := hs.added (effect_next s op)
  · rw [nextStandings, if_neg (by omega), List.append_nil]
    refine ⟨hmarked.trans hsame.symm, fun hst' => ?_⟩
    exact hold (hsame ▸ (List.getElem?_eq_some_iff.1 hst').1) hst'
  · rw [nextStandings, if_pos (by simp [hadd]), hhome]
    have hlength : (s.next op).statements.length = s.statements.length + 1 := by simp [hadd]
    refine ⟨by simp [hmarked, hlength], fun {q} {st'} {standing'} hst' hstanding' => ?_⟩
    by_cases hq : q < s.statements.length
    · rw [List.getElem?_append_left (hmarked.symm ▸ hq)] at hstanding'
      exact hold hq hst' hstanding'
    · have hlt := (List.getElem?_eq_some_iff.1 hst').1
      obtain rfl : q = s.statements.length := by omega
      rw [hadd, List.getElem?_concat_length] at hst'
      rw [← hmarked, Option.map_some, Option.toList_some, List.getElem?_concat_length] at hstanding'
      cases hst'
      cases hstanding'
      exact ⟨hopen, .inl hconnection⟩

section Announces

variable {op : Op κ} {answer : Answer} (hclose : ∀ p, op ≠ .close p)
  (hfire : ∀ pool notice, op ≠ .fire pool notice)
include hclose hfire

end Announces

end Session
end SqlStatement
