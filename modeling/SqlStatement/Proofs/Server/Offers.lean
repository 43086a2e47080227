import SqlStatement.Proofs.Server.OneByOne
/-!
# Offers to a scripted server

A scripted server answers an offer as its script says: `BatchBehavior.answer`.  What it records
meanwhile depends on whether it counts each entry or joins all of them.
-/
namespace SqlStatement

namespace BatchBehavior

/-- The answer to an offer.  Entries are joined if the template can join their rows. -/
def answer (b : BatchBehavior) (template : Template) (rows : List Row) : Except Failure Bool :=
  match b with
  | .decline => .ok false
  | .fail f => .error f
  | .perEntry => .ok true
  | .join => .ok (template.renderJoined? rows).isSome

inductive Records (b : BatchBehavior) (template : Template) (rows : List Row)
    (before after : Results) : Prop
  | declined (hanswer : b.answer template rows = .ok false) (hlog : after = before)
  | failed {f : Failure} (hanswer : b.answer template rows = .error f) (hlog : after = before)
  | counted {os : List Outcome} (hb : b = .perEntry) (hlength : os.length = rows.length)
      (hlog : before.Extends after os)
  | joined {count insertId : Int} (hb : b = .join) (hanswer : b.answer template rows = .ok true)
      (hlog : after = (before.setJoined true).addUpdate count insertId)

end BatchBehavior

namespace ScriptedServer

/-- The script records nothing before the server answers. -/
structure IsPlain (s : ScriptedServer) : Prop where
  beforeCalls : s.beforeCalls = []
  beforeBatch : s.beforeBatch = []

theorem IsPlain.of_sameScript {a b : ScriptedServer} (h : SameScript a b) (ha : a.IsPlain) :
    b.IsPlain := by
  unfold SameScript at h
  rw [h]
  exact ⟨ha.beforeCalls, ha.beforeBatch⟩

theorem answersRows_of_isPlain : Server.AnswersRows IsPlain :=
  answersRows (fun _ h => h.beforeCalls) fun _ _ => IsPlain.of_sameScript

private theorem foldl_countUpdate_extends (rows : List Row) (s : ScriptedServer × Results) :
    ∃ os, os.length = rows.length ∧
      s.2.Extends (rows.foldl (fun s _ => countUpdate s) s).2 os := by
  induction rows generalizing s with
  | nil => exact ⟨[], rfl, .refl s.2⟩
  | cons row rows ih =>
    obtain ⟨os, hlength, hextends⟩ := ih (countUpdate s)
    have hfirst : s.2.Extends (countUpdate s).2 [.update s.1.updateCount s.1.nextInsertId] :=
      ⟨rfl, rfl⟩
    exact ⟨_ :: os, congrArg Nat.succ hlength, hfirst.trans hextends⟩

private theorem answerBatch_records (template : Template) (rows : List Row) (longData : Bool)
    (server : ScriptedServer) (log : Results) :
    (answerBatch template rows longData (server, log)).2 = server.batch.answer template rows ∧
      server.batch.Records template rows log
        (answerBatch template rows longData (server, log)).1.2 := by
  have hbatch : (server.noteOffer longData).batch = server.batch := rfl
  unfold answerBatch
  dsimp only
  rw [hbatch]
  cases server.batch with
  | decline => exact ⟨rfl, .declined rfl rfl⟩
  | fail f => exact ⟨rfl, .failed rfl rfl⟩
  | perEntry =>
    obtain ⟨os, hlength, hextends⟩ :=
      foldl_countUpdate_extends rows (server.noteOffer longData, log)
    exact ⟨rfl, .counted rfl hlength hextends⟩
  | join =>
    cases hsql : template.renderJoined? rows with
    | none =>
      have hanswer : BatchBehavior.join.answer template rows = .ok false := by
        rw [BatchBehavior.answer, hsql]
        rfl
      exact ⟨hanswer.symm, .declined hanswer rfl⟩
    | some sql =>
      have hanswer : BatchBehavior.join.answer template rows = .ok true := by
        rw [BatchBehavior.answer, hsql]
        rfl
      exact ⟨hanswer.symm, .joined rfl hanswer rfl⟩

theorem answerBatch_of_declined {template : Template} {rows : List Row} {server : ScriptedServer}
    (h : server.batch.answer template rows = .ok false) (longData : Bool) (log : Results) :
    answerBatch template rows longData (server, log) =
      ((server.noteOffer longData, log), .ok false) := by
  have hbatch : (server.noteOffer longData).batch = server.batch := rfl
  unfold answerBatch
  dsimp only
  rw [hbatch]
  cases hb : server.batch with
  | decline => rfl
  | fail f => simp [hb, BatchBehavior.answer] at h
  | perEntry => simp [hb, BatchBehavior.answer] at h
  | join =>
    rw [hb, BatchBehavior.answer, Except.ok.injEq, Option.isSome_eq_false_iff,
      Option.isNone_iff_eq_none] at h
    rw [h]

theorem executeBatch_records {server : ScriptedServer} (hplain : server.IsPlain) (primary : Bool)
    (template : Template) (rows : List Row) (longData : Bool) (log : Results) :
    (Server.executeBatch primary template rows longData (server, log)).result =
        server.batch.answer template rows ∧
      server.batch.Records template rows log
        (Server.executeBatch primary template rows longData (server, log)).state.2 := by
  change (executeBatch primary template rows longData (server, log)).result = _ ∧
    server.batch.Records _ _ _ (executeBatch primary template rows longData (server, log)).state.2
  unfold executeBatch
  dsimp only
  rw [state_sleep, result_sleep, hplain.beforeBatch]
  exact answerBatch_records template rows longData _ log

theorem state_executeBatch_of_declined {server : ScriptedServer} (hplain : server.IsPlain)
    (primary : Bool) {template : Template} {rows : List Row}
    (h : server.batch.answer template rows = .ok false) (longData : Bool) (log : Results) :
    (Server.executeBatch primary template rows longData (server, log)).state =
      (noteOffer { server with record := { server.record with
        primary := server.record.primary ++ [primary] } } longData, log) := by
  have hbefore : server.beforeBatch.foldl Results.apply log = log := by
    rw [hplain.beforeBatch]
    rfl
  change (executeBatch primary template rows longData (server, log)).state = _
  unfold executeBatch
  rw [state_sleep]
  dsimp only
  rw [hbefore, answerBatch_of_declined]
  exact h

end ScriptedServer
end SqlStatement
