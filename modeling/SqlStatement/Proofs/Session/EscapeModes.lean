import SqlStatement.Proofs.Session.Run
import SqlStatement.Proofs.Sql.Structure
import SqlStatement.Proofs.Value.Decoding
/-!
# Escape modes along runs

A statement writes its values in the mode of the connection on which its text was prepared, also
on the other connections that it is cloned onto.  So what it sends is read back as it was bound
exactly where both connections have the same mode.
-/
namespace SqlStatement

open Sql

variable {σ κ : Type} [Server σ κ]

def Op.KeepsMode (σ : Type) {κ : Type} [Server σ κ] : Op κ → Prop
  | .change _ c => ∀ server : σ,
    Server.escapeMode (Server.change c server) = Server.escapeMode server
  | _ => True

namespace Session

def modes (s : Session σ) : List EscapeMode :=
  s.connections.map fun c => Server.escapeMode c.server

def origin? (origins : List Nat) : Op κ → Option Nat
  | .prepare i _ _ => some i
  | .clone p | .cloneOnto p _ => origins[p]?
  | _ => none

def nextOrigins (before after : Session σ) (origins : List Nat) (op : Op κ) : List Nat :=
  if before.statements.length < after.statements.length then
    origins ++ (origin? origins op).toList
  else origins

/-- For each statement after a run, the connection on which its text was prepared. -/
def origins (s : Session σ) (known : List Nat) : List (Op κ) → List Nat
  | [] => known
  | op :: ops => origins (s.next op) (nextOrigins s (s.next op) known op) ops

def HasModesOf (s : Session σ) (origins : List Nat) : Prop :=
  s.statements.map (fun st => some st.template.mode) = origins.map fun o => s.modes[o]?

variable {s s' : Session σ} {op : Op κ}

private theorem modes_setServer {i : Nat} {c : Connection σ} {server : σ}
    (hc : s.connections[i]? = some c)
    (h : Server.escapeMode server = Server.escapeMode c.server) :
    (s.setServer i server).modes = s.modes :=
  map_setServer (fun c => Server.escapeMode c.server) hc h

private theorem Effect.modes_eq (hserver : Server.KeepsMode σ) (hop : op.KeepsMode σ)
    (h : Effect s op s') : s'.modes = s.modes := by
  cases h with
  | executed hst hi hc hrun => exact modes_setServer hc (executed_frame (hserver.movesFor _) hrun).1
  | described hdescribe hst hi hc =>
    exact modes_setServer hc (described_frame (hserver.movesFor _) hdescribe).1
  | changed hc => exact modes_setServer hc (hop _)
  | _ => rfl

private theorem HasModesOf.mode_eq {os : List Nat} (h : s.HasModesOf os) {p : Nat} {st : Statement}
    (hst : s.statements[p]? = some st) :
    ∃ o, os[p]? = some o ∧ s.modes[o]? = some st.template.mode := by
  have hat := congrArg (fun modes => modes[p]?) h
  simp only [List.getElem?_map, hst, Option.map_some] at hat
  obtain ⟨o, ho, hmode⟩ := Option.map_eq_some_iff.1 hat.symm
  exact ⟨o, ho, hmode⟩

theorem HasModesOf.next {os : List Nat} (hserver : Server.KeepsMode σ) (hop : op.KeepsMode σ)
    (hs : s.HasModesOf os) (h : Effect s op s') : s'.HasModesOf (nextOrigins s s' os op) := by
  have hmodes := h.modes_eq hserver hop
  obtain hsame | ⟨st, hadd, hmade⟩ := h.templates
  · have hlength : s'.statements.length = s.statements.length := by
      simpa using congrArg List.length hsame
    have hview := congrArg (List.map fun t : Template => some t.mode) hsame
    rw [List.map_map, List.map_map] at hview
    rw [nextOrigins, if_neg (by omega), HasModesOf, hmodes]
    exact hview.trans hs
  · have horigin : ∃ o, origin? os op = some o ∧ s.modes[o]? = some st.template.mode := by
      obtain ⟨i, c, _, _, _, rfl, hc, hst⟩ | ⟨p, parent, hop, hparent, hst⟩ := hmade
      · refine ⟨i, rfl, ?_⟩
        rw [modes, List.getElem?_map, hc, hst]
        rfl
      · obtain ⟨o, ho, hmode⟩ := hs.mode_eq hparent
        refine ⟨o, ?_, by rw [hst, hmode]⟩
        obtain rfl | ⟨_, rfl⟩ := hop <;> exact ho
    obtain ⟨o, ho, hmode⟩ := horigin
    rw [nextOrigins, if_pos (by simp [hadd]), HasModesOf, hmodes, hadd, ho, List.map_append,
      Option.toList_some, List.map_append, List.map_singleton, List.map_singleton, hmode,
      show s.statements.map (fun st => some st.template.mode) = _ from hs]

private theorem hasModesOf_after {os : List Nat} (hserver : Server.KeepsMode σ) {ops : List (Op κ)}
    (hops : ∀ op ∈ ops, op.KeepsMode σ) (hs : s.HasModesOf os) :
    (s.after ops).HasModesOf (s.origins os ops) := by
  induction ops generalizing s os with
  | nil => exact hs
  | cons op ops ih =>
    have hnext := hs.next hserver (hops op List.mem_cons_self) (effect_next s op)
    exact ih (fun op hop => hops op (List.mem_cons_of_mem _ hop)) hnext

/-- What a statement sends on its connection is read back as it was bound exactly if the
connection has the mode of the one on which the text was prepared. -/
theorem mode_agrees_iff_origin (hserver : Server.KeepsMode σ) (hs : s.statements = [])
    {ops : List (Op κ)} (hops : ∀ op ∈ ops, op.KeepsMode σ) {p i : Nat} {st : Statement}
    (hst : (s.after ops).statements[p]? = some st) (hi : st.connection = some i) :
    ∃ o d c, (s.origins [] ops)[p]? = some o ∧ (s.after ops).connections[o]? = some d ∧
      (s.after ops).connections[i]? = some c ∧
      (st.template.mode = Server.escapeMode c.server ↔
        Server.escapeMode d.server = Server.escapeMode c.server) ∧
      ((∀ chars rest : List Char, rest.head? ≠ some '\x27' →
          Value.readQuoted? (Server.escapeMode c.server)
            (Value.quoted st.template.mode chars ++ rest) = some (chars, rest)) ↔
        Server.escapeMode d.server = Server.escapeMode c.server) ∧
      (Server.escapeMode d.server = Server.escapeMode c.server →
        ∀ row : Row, st.template.paramCount ≤ row.length →
          ∃ text, st.template.render row = .ok text ∧
            readingFrom (Server.escapeMode c.server) .code text.toList =
              fillMarks (readingFrom (Server.escapeMode c.server) .code st.template.sql.toList)
                (row.map fun v => readingFrom (Server.escapeMode c.server) .code
                  (v.literal (Server.escapeMode c.server)))) := by
  have hmodes : (s.after ops).HasModesOf (s.origins [] ops) :=
    hasModesOf_after hserver hops (by rw [HasModesOf, hs]; rfl)
  obtain ⟨o, ho, hmode⟩ := hmodes.mode_eq hst
  rw [modes, List.getElem?_map] at hmode
  obtain ⟨d, hd, hmode⟩ := Option.map_eq_some_iff.1 hmode
  have hlt := hasConnections_after hs ops st (List.mem_of_getElem? hst) i hi
  refine ⟨o, d, _, ho, hd, List.getElem?_eq_getElem hlt, ?_⟩
  generalize (s.after ops).connections[i] = c
  rw [← hmode]
  refine ⟨Iff.rfl, Value.readsBack_iff _ _, ?_⟩
  intro hsame row hrow
  have hcompiled := hasCompiledTemplates_after hs ops _
    (List.mem_map_of_mem (List.mem_of_getElem? hst))
  obtain ⟨joinRows, hcompiled⟩ := hcompiled
  rw [← hmode, hsame] at hcompiled
  rw [hcompiled] at hrow ⊢
  obtain ⟨text, htext, hreading, -⟩ := Template.reading_render hrow
  exact ⟨text, htext, hreading⟩

def twoModes : Session ScriptedServer where
  connections := [⟨{ mode := .plain }, {}, none⟩, ⟨{ mode := .backslash }, {}, none⟩]
  pools := .ofCount 0

def crossing : List (Op ScriptChange) :=
  [.prepare 0 "select ?" none, .cloneOnto 0 1,
    .edit 1 (.setValue 1 (.text "\\\x27 or 1=1 -- ")), .execute 1 .once none]

theorem mode_agrees_iff_origin_crossing :
    ∃ st o d c, (twoModes.after crossing).statements[1]? = some st ∧ st.connection = some 1 ∧
      (twoModes.origins [] crossing)[1]? = some o ∧
      (twoModes.after crossing).connections[o]? = some d ∧
      (twoModes.after crossing).connections[1]? = some c ∧
      (st.template.mode = Server.escapeMode c.server ↔
        Server.escapeMode d.server = Server.escapeMode c.server) := by
  have hops : ∀ op ∈ crossing, op.KeepsMode ScriptedServer := by
    simp [crossing, Op.KeepsMode]
  obtain ⟨o, d, c, ho, hd, hc, hmode, -⟩ :=
    mode_agrees_iff_origin ScriptedServer.keepsMode (s := twoModes) rfl hops (p := 1) rfl rfl
  exact ⟨_, o, d, c, rfl, rfl, ho, hd, hc, hmode⟩

/-- On the second connection the clone still writes in the mode of the first.  The server there
takes the quote in the bound text for its end. -/
theorem crossing_breaks_literal :
    ∃ st c, (twoModes.after crossing).statements[1]? = some st ∧ st.connection = some 1 ∧
      (twoModes.after crossing).connections[1]? = some c ∧
      st.template.mode ≠ Server.escapeMode c.server ∧
      c.server.record.executed.map String.toList = ["select \x27\\\x27\x27 or 1=1 -- \x27".toList] ∧
      Value.readQuoted? (Server.escapeMode c.server) "\x27\\\x27\x27 or 1=1 -- \x27".toList =
        some (['\x27'], " or 1=1 -- \x27".toList) := by
  refine ⟨_, _, rfl, rfl, rfl, ?_, ?_, ?_⟩
  · decide
  · decide
  · decide

end Session
end SqlStatement
