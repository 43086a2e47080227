import SqlStatement.Server
import SqlStatement.Statement.Basic
/-!
# Metadata of statements

Shapes of rows and parameters are found out by preparing the text on the server, describing it
and releasing it.  What was found out is kept; a server that cannot describe a text for a reason
other than the text leaves the parameters unknown.  The three calls of a probe are one step, which
nothing cuts.
-/
namespace SqlStatement.Statement

variable {σ κ : Type} [Server σ κ]

/-- Prepares, describes and releases a text; failures to release do not count. -/
def probe (sql : String) (server : σ) : σ × Except Failure Description :=
  match Server.openProbe sql server with
  | (server, .error f) => (server, .error f)
  | (server, .ok ()) =>
    let (server, described) := Server.describe server
    ((Server.closeProbe server).1, described)

def load (st : Statement) (server : σ) :
    (σ × Statement) × Except StatementError ParameterShape :=
  match probe st.template.sql server with
  | (server, .ok d) =>
    ((server, { st with cache := ⟨d.rows, some d.parameters⟩ }), .ok d.parameters)
  | (server, .error f) =>
    if f.blamesText then
      ((server, st), .error (st.context.ofFailure f st.template.sql none))
    else
      let parameters := st.cache.parameters.getD .unknown
      ((server, { st with cache := { st.cache with parameters := some parameters } }),
        .ok parameters)

/-- The shape of the rows: of the last execution, else as it was or is found out. -/
def metadata (st : Statement) (server : σ) :
    (σ × Statement) × Except StatementError (Option RowShape) :=
  match st.guardOpen with
  | .error e => ((server, st), .error e)
  | .ok () =>
    match st.results.bind Results.shape? with
    | some shape => ((server, st), .ok (some shape))
    | none =>
      if st.cache.rows.isSome then ((server, st), .ok st.cache.rows)
      else
        let (s, r) := st.load server
        (s, r.map fun _ => s.2.cache.rows)

def parameterMetadata (st : Statement) (server : σ) :
    (σ × Statement) × Except StatementError ParameterShape :=
  match st.guardOpen with
  | .error e => ((server, st), .error e)
  | .ok () =>
    match st.cache.parameters with
    | some parameters => ((server, st), .ok parameters)
    | none => st.load server

end SqlStatement.Statement
