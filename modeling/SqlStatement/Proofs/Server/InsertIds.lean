import SqlStatement.Proofs.Server.Offers
import SqlStatement.Proofs.Server.Recording
import SqlStatement.Proofs.Server.Traced
/-!
# Insert ids

A scripted server draws its insert ids from a counter.  Every update advances the counter but a
joined insert, so that the update after a joined insert gets its id once more (`Numbered`).
`Booked` keeps all updates that a server records, whatever becomes of the logs.
-/
namespace SqlStatement

structure Update where
  insertId : Int
  /-- It stands for a batch that was sent as one insert. -/
  joined : Bool
deriving DecidableEq, Repr

/-- Updates with ids from a counter that joined inserts leave where it is. -/
inductive Numbered : Int → List Update → Int → Prop
  | nil (n : Int) : Numbered n [] n
  | counted {n next : Int} {us : List Update} (h : Numbered (n + 1) us next) :
      Numbered n (⟨n, false⟩ :: us) next
  | joined {n next : Int} {us : List Update} (h : Numbered n us next) :
      Numbered n (⟨n, true⟩ :: us) next

namespace Numbered

variable {n next m : Int} {u v : Update} {us more : List Update}

theorem append (h : Numbered n us m) (hmore : Numbered m more next) :
    Numbered n (us ++ more) next := by
  induction h with
  | nil n => exact hmore
  | counted _ ih => exact .counted (ih hmore)
  | joined _ ih => exact .joined (ih hmore)

theorem split (h : Numbered n (us ++ more) next) : ∃ m, Numbered n us m ∧ Numbered m more next := by
  induction us generalizing n with
  | nil => exact ⟨n, .nil n, h⟩
  | cons u us ih =>
    cases h with
    | counted h =>
      obtain ⟨m, hus, hmore⟩ := ih h
      exact ⟨m, .counted hus, hmore⟩
    | joined h =>
      obtain ⟨m, hus, hmore⟩ := ih h
      exact ⟨m, .joined hus, hmore⟩

private theorem insertId_head (h : Numbered n (u :: us) next) : u.insertId = n := by
  cases h <;> rfl

private theorem le (h : Numbered n us next) : n ≤ next := by
  induction h with
  | nil n => exact Int.le_refl n
  | counted _ ih => omega
  | joined _ ih => exact ih

theorem eq_iff (h : Numbered n us next) : n = next ↔ ∀ u ∈ us, u.joined = true := by
  induction h with
  | nil n => simp
  | @counted n next us h _ =>
    have hle := h.le
    have hne : n ≠ next := by omega
    simp [hne]
  | joined _ ih => simpa using ih

private theorem le_insertId (h : Numbered n us next) : ∀ u ∈ us, n ≤ u.insertId := by
  induction h with
  | nil n => simp
  | counted _ ih =>
    rw [List.forall_mem_cons]
    refine ⟨Int.le_refl _, fun u hu => ?_⟩
    have hle := ih u hu
    omega
  | joined _ ih => exact List.forall_mem_cons.2 ⟨Int.le_refl _, ih⟩

theorem sorted (h : Numbered n us next) : (us.map Update.insertId).Pairwise (· ≤ ·) := by
  induction h with
  | nil n => exact .nil
  | counted h ih =>
    refine .cons (List.forall_mem_map.2 fun u hu => ?_) ih
    have hle := h.le_insertId u hu
    dsimp only
    omega
  | joined h ih => exact .cons (List.forall_mem_map.2 h.le_insertId) ih

/-- Two updates have one id exactly if joined inserts lead from the first to the second. -/
theorem insertId_eq_iff {before between after : List Update}
    (h : Numbered n (before ++ u :: (between ++ v :: after)) next) :
    u.insertId = v.insertId ↔ ∀ w ∈ u :: between, w.joined = true := by
  obtain ⟨first, -, h⟩ := h.split
  rw [← List.cons_append] at h
  obtain ⟨last, hbetween, hafter⟩ := h.split
  rw [hbetween.insertId_head, hafter.insertId_head, hbetween.eq_iff]

theorem nodup_iff (h : Numbered n us next) :
    (us.map Update.insertId).Nodup ↔ ∀ u ∈ us.dropLast, u.joined = false := by
  induction h with
  | nil n => simp
  | @counted n next us h ih =>
    have hfresh : n ∉ us.map Update.insertId := by
      intro hmem
      obtain ⟨u, hu, rfl⟩ := List.mem_map.1 hmem
      have hle := h.le_insertId u hu
      omega
    rw [List.map_cons, List.nodup_cons, ih]
    cases us with
    | nil => simp
    | cons v us => simp only [List.dropLast_cons_cons, List.forall_mem_cons, hfresh,
        not_false_eq_true, true_and]
  | @joined n next us h ih =>
    cases us with
    | nil => simp
    | cons v us => simp [h.insertId_head]

end Numbered

/-- A scripted server with all updates that it recorded. -/
structure Booked where
  server : ScriptedServer
  updates : List Update := []

namespace ScriptedServer

def joins (before after : ScriptedServer) : Bool :=
  before.record.joined.length < after.record.joined.length

end ScriptedServer

namespace Booked

def book (b : Booked) (log : Results) (s : ScriptedServer × Results) : Booked × Results :=
  ({ server := s.1
     updates := b.updates ++
      (s.2.insertIds.drop log.insertIds.length).map fun insertId =>
        ⟨insertId, b.server.joins s.1⟩ }, s.2)

instance : Server Booked ScriptChange where
  isPrimary b := Server.isPrimary b.server
  threadId b := Server.threadId b.server
  escapeMode b := Server.escapeMode b.server
  enforcesTimeout b := Server.enforcesTimeout b.server
  execute primary template row limit s :=
    (Server.execute primary template row limit (s.1.server, s.2)).conclude (s.1.book s.2)
      fun p r => (s.1.book s.2 p, r)
  executeBatch primary template rows longData s :=
    (Server.executeBatch primary template rows longData (s.1.server, s.2)).conclude
      (s.1.book s.2) fun p r => (s.1.book s.2 p, r)
  poll b := Prod.map (fun server => { b with server }) id (Server.poll b.server)
  openProbe sql b := Prod.map (fun server => { b with server }) id (Server.openProbe sql b.server)
  describe b := Prod.map (fun server => { b with server }) id (Server.describe b.server)
  closeProbe b := Prod.map (fun server => { b with server }) id (Server.closeProbe b.server)
  change c b := { b with server := Server.change c b.server }

theorem projection : Server.Projection Booked.server where
  isPrimary _ := rfl
  threadId _ := rfl
  escapeMode _ := rfl
  enforcesTimeout _ := rfl
  execute _ _ _ _ _ _ := Timed.project_conclude_eq_self (fun _ => rfl) (fun _ _ => rfl) _
  executeBatch _ _ _ _ _ _ := Timed.project_conclude_eq_self (fun _ => rfl) (fun _ _ => rfl) _
  poll _ := rfl
  openProbe _ _ := rfl
  describe _ := rfl
  closeProbe _ := rfl
  change _ _ := rfl

end Booked

namespace ScriptedServer

variable {a b c s t : ScriptedServer × Results} {joined : Bool}

/-- All that a call adds to a log are numbered updates of one kind. -/
def Adds (joined : Bool) (s t : ScriptedServer × Results) : Prop :=
  ∃ us, t.2.insertIds = s.2.insertIds ++ us.map Update.insertId ∧
    (∀ u ∈ us, u.joined = joined) ∧ Numbered s.1.nextInsertId us t.1.nextInsertId

private theorem Adds.of_same (hlog : t.2.insertIds = s.2.insertIds)
    (hnext : t.1.nextInsertId = s.1.nextInsertId) : Adds joined s t :=
  ⟨[], by simp [hlog], by simp, hnext ▸ .nil _⟩

theorem Adds.trans (hab : Adds joined a b) (hbc : Adds joined b c) : Adds joined a c := by
  obtain ⟨us, hids, hjoined, hnumbered⟩ := hab
  obtain ⟨more, hids', hjoined', hnumbered'⟩ := hbc
  refine ⟨us ++ more, ?_, ?_, hnumbered.append hnumbered'⟩
  · rw [hids', hids, List.map_append, List.append_assoc]
  · exact List.forall_mem_append.2 ⟨hjoined, hjoined'⟩

private theorem insertIds_addUpdate (log : Results) (count insertId : Int) :
    (log.addUpdate count insertId).insertIds = log.insertIds ++ [insertId] :=
  List.filterMap_append

private theorem insertIds_addResultSet (log : Results) (set : ResultSet) :
    (log.addResultSet set).insertIds = log.insertIds :=
  List.filterMap_append.trans (List.append_nil _)

private theorem insertIds_addFailure (log : Results) : log.addFailure.insertIds = log.insertIds :=
  List.filterMap_append.trans (List.append_nil _)

private theorem adds_countUpdate (s : ScriptedServer × Results) : Adds false s (countUpdate s) :=
  ⟨[⟨s.1.nextInsertId, false⟩], insertIds_addUpdate .., by simp, .counted (.nil _)⟩

private theorem adds_foldl_countUpdate (rows : List Row) (s : ScriptedServer × Results) :
    Adds false s (rows.foldl (fun s _ => countUpdate s) s) ∧
      (rows.foldl (fun s _ => countUpdate s) s).1.record = s.1.record := by
  induction rows generalizing s with
  | nil => exact ⟨.of_same rfl rfl, rfl⟩
  | cons row rows ih =>
    obtain ⟨hadds, hrecord⟩ := ih (countUpdate s)
    exact ⟨(adds_countUpdate s).trans hadds, hrecord⟩

private theorem joins_eq_false {before after : ScriptedServer}
    (h : after.record.joined = before.record.joined) : before.joins after = false := by
  simp [joins, h]

private theorem adds_answerExecution (sql : String) (s : ScriptedServer × Results) :
    Adds false s (answerExecution sql s).1 ∧ (answerExecution sql s).1.1.record = s.1.record := by
  unfold answerExecution
  split
  · exact ⟨.of_same rfl rfl, rfl⟩
  · split
    · exact ⟨.of_same (insertIds_addResultSet ..) rfl, rfl⟩
    · exact ⟨adds_countUpdate s, rfl⟩

private theorem adds_answerBatch (template : Template) (rows : List Row) (longData : Bool)
    (s : ScriptedServer × Results) :
    Adds (s.1.joins (answerBatch template rows longData s).1.1) s
      (answerBatch template rows longData s).1 := by
  unfold answerBatch
  dsimp only
  split
  · exact .of_same rfl rfl
  · exact .of_same rfl rfl
  · obtain ⟨hadds, hrecord⟩ := adds_foldl_countUpdate rows (s.1.noteOffer longData, s.2)
    rw [joins_eq_false (by rw [hrecord]; rfl)]
    exact hadds
  · split
    · exact .of_same rfl rfl
    · refine ⟨[⟨s.1.nextInsertId, true⟩], insertIds_addUpdate .., ?_, .joined (.nil _)⟩
      simp [joins, noteOffer]

private theorem shows_adds_execute {server : ScriptedServer} (hplain : server.IsPlain)
    (primary : Bool) (template : Template) (row : Row) (limit : Option Duration) (log : Results) :
    (execute primary template row limit (server, log)).Shows fun t =>
      Adds (server.joins t.1) (server, log) t := by
  unfold execute
  dsimp only
  rw [hplain.beforeCalls]
  apply shows_sleep
  · exact .of_same rfl rfl
  · obtain ⟨hadds, hrecord⟩ := adds_answerExecution _ _
    rw [joins_eq_false (by rw [hrecord]; rfl)]
    exact hadds

private theorem shows_adds_executeBatch {server : ScriptedServer} (hplain : server.IsPlain)
    (primary : Bool) (template : Template) (rows : List Row) (longData : Bool) (log : Results) :
    (executeBatch primary template rows longData (server, log)).Shows fun t =>
      Adds (server.joins t.1) (server, log) t := by
  unfold executeBatch
  dsimp only
  rw [hplain.beforeBatch]
  exact shows_sleep _ (.of_same rfl rfl) (adds_answerBatch template rows longData _)

end ScriptedServer

namespace Booked

open ScriptedServer

variable {a b c : Booked} {us more : List Update}

structure Books (a b : Booked) (us : List Update) : Prop where
  script : SameScript a.server b.server
  updates : b.updates = a.updates ++ us
  numbered : Numbered a.server.nextInsertId us b.server.nextInsertId

private theorem Books.of_same {server : ScriptedServer} (hscript : SameScript a.server server)
    (hnext : server.nextInsertId = a.server.nextInsertId) : Books a { a with server } [] :=
  ⟨hscript, (List.append_nil _).symm, hnext ▸ .nil _⟩

theorem Books.refl (a : Booked) : Books a a [] :=
  .of_same (.refl a.server) rfl

theorem Books.trans (hab : Books a b us) (hbc : Books b c more) : Books a c (us ++ more) where
  script := hab.script.trans hbc.script
  updates := by rw [hbc.updates, hab.updates, List.append_assoc]
  numbered := hab.numbered.append hbc.numbered

theorem Books.isPrefix (h : Books a b us) : a.updates <+: b.updates :=
  ⟨us, h.updates.symm⟩

/-- All updates so far are numbered, and the counter is ready for the next. -/
structure InOrder (b : Booked) : Prop where
  isPlain : b.server.IsPlain
  numbered : ∃ first, Numbered first b.updates b.server.nextInsertId

theorem Books.inOrder (h : Books a b us) (ha : a.InOrder) : b.InOrder := by
  obtain ⟨first, hfirst⟩ := ha.numbered
  refine ⟨ha.isPlain.of_sameScript h.script, first, ?_⟩
  rw [h.updates]
  exact hfirst.append h.numbered

def Agrees (s t : Booked × Results) : Prop :=
  s.1.server.IsPlain →
    ∃ us, Books s.1 t.1 us ∧ t.2.insertIds = s.2.insertIds ++ us.map Update.insertId

private theorem Agrees.of_same {log log' : Results} (h : Books a b [])
    (hlog : log'.insertIds = log.insertIds) : Agrees (a, log) (b, log') :=
  fun _ => ⟨[], h, by simp [hlog]⟩

theorem Agrees.trans {s t r : Booked × Results} (hst : Agrees s t) (htr : Agrees t r) :
    Agrees s r := by
  intro hplain
  obtain ⟨us, hus, hids⟩ := hst hplain
  obtain ⟨more, hmore, hids'⟩ := htr (hplain.of_sameScript hus.script)
  refine ⟨us ++ more, hus.trans hmore, ?_⟩
  rw [hids', hids, List.map_append, List.append_assoc]

private theorem agrees_book {log : Results} {s : ScriptedServer × Results}
    (hscript : SameScript b.server s.1)
    (hadds : b.server.IsPlain → Adds (b.server.joins s.1) (b.server, log) s) :
    Agrees (b, log) (b.book log s) := by
  intro hplain
  obtain ⟨us, hids, hjoined, hnumbered⟩ := hadds hplain
  have hus : (s.2.insertIds.drop log.insertIds.length).map
      (fun insertId => (⟨insertId, b.server.joins s.1⟩ : Update)) = us := by
    rw [hids, List.drop_left, List.map_map]
    refine (List.map_congr_left fun u hu => ?_).trans (List.map_id us)
    rw [Function.comp_apply, ← hjoined u hu]
    rfl
  exact ⟨us, ⟨hscript, congrArg (b.updates ++ ·) hus, hnumbered⟩, hids⟩

private theorem shows_book {α : Type} {log : Results} {run : Timed (ScriptedServer × Results) α}
    (hscript : run.Shows fun s => SameScript b.server s.1)
    (hadds : b.server.IsPlain → run.Shows fun s => Adds (b.server.joins s.1) (b.server, log) s) :
    (run.conclude (b.book log) fun s a => (b.book log s, a)).Shows (Agrees (b, log)) := by
  have hagrees := (hscript.and (Timed.shows_imp hadds)).mono
    (Q := fun s => Agrees (b, log) (b.book log s)) fun s hs => agrees_book hs.1 hs.2
  exact hagrees.conclude (fun s hs => hs) fun hs => hs

theorem shows_execute (primary : Bool) (template : Template) (row : Row)
    (limit : Option Duration) (b : Booked) (log : Results) :
    (Server.execute primary template row limit (b, log)).Shows (Agrees (b, log)) :=
  shows_book (movesAlong_sameScript.execute primary template row limit b.server log)
    fun hplain => shows_adds_execute hplain primary template row limit log

theorem shows_executeBatch (primary : Bool) (template : Template) (rows : List Row)
    (longData : Bool) (b : Booked) (log : Results) :
    (Server.executeBatch primary template rows longData (b, log)).Shows (Agrees (b, log)) :=
  shows_book (movesAlong_sameScript.executeBatch primary template rows longData b.server log)
    fun hplain => shows_adds_executeBatch hplain primary template rows longData log

private theorem books_poll (b : Booked) : Books b (Server.poll b).1 [] :=
  .of_same (movesAlong_sameScript.poll b.server) rfl

/-- Whatever a statement asks for, the ids go on from the counter. -/
theorem movesAlong_books :
    Server.MovesAlong fun a b : Booked => a.server.IsPlain → ∃ us, Books a b us where
  refl a _ := ⟨[], .refl a⟩
  trans hab hbc hplain := by
    obtain ⟨us, hus⟩ := hab hplain
    obtain ⟨more, hmore⟩ := hbc (hplain.of_sameScript hus.script)
    exact ⟨us ++ more, hus.trans hmore⟩
  execute primary template row limit b log :=
    (shows_execute primary template row limit b log).mono fun s hs hplain =>
      (hs hplain).imp fun us h => h.1
  executeBatch primary template rows longData b log :=
    (shows_executeBatch primary template rows longData b log).mono fun s hs hplain =>
      (hs hplain).imp fun us h => h.1
  poll b _ := ⟨[], books_poll b⟩
  openProbe sql b _ := by
    refine ⟨[], .of_same (movesAlong_sameScript.openProbe sql b.server) ?_⟩
    change (openProbe sql b.server).1.nextInsertId = _
    unfold openProbe
    split <;> rfl
  describe b _ := ⟨[], .of_same (movesAlong_sameScript.describe b.server) rfl⟩
  closeProbe b _ := ⟨[], .of_same (movesAlong_sameScript.closeProbe b.server) rfl⟩

theorem agrees_of_leads {q : Requests} {start s : Booked × Results}
    (h : Server.Leads q start s) : Agrees start s := by
  induction h with
  | start => exact .of_same (.refl start.1) rfl
  | executes _ _ hs' ih => exact ih.trans ((shows_execute ..).of_mem_shown hs')
  | offers _ hs' ih => exact ih.trans ((shows_executeBatch ..).of_mem_shown hs')
  | @polls b log _ ih => exact ih.trans (.of_same (books_poll b) rfl)
  | @notesFailure b log _ ih => exact ih.trans (.of_same (.refl b) (insertIds_addFailure log))

end Booked
end SqlStatement
