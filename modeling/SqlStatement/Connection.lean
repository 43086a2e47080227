import SqlStatement.Pools
import SqlStatement.Server
import SqlStatement.Statement.Basic
/-!
# Connections

A connection leads to a server, gives its statements their options, and may belong to a pool.
-/
namespace SqlStatement

structure Connection (σ : Type) where
  server : σ
  options : Options
  pool : Option Nat

namespace Connection

variable {σ κ : Type}

def listing (c : Connection σ) (pools : Pools) : String :=
  let pooled := c.pool.elim "None" fun pool => "Some(" ++ pools.listing pool ++ ")"
  "Connection \x7b protocol: \"<dyn Protocol>\", options: " ++ c.options.listing ++
    ", pooled: " ++ pooled ++ " \x7d"

variable [Server σ κ]

def errorContext (c : Connection σ) (o : Options) : ErrorContext :=
  ⟨Server.threadId c.server, Server.isPrimary c.server, o.maxQueryChars, o.dumpQueries⟩

/-- A statement for a text, read in the escape mode of the server.  The connection is the one at
the given position. -/
def prepare (c : Connection σ) (position : Nat) (sql : String) (o : Options) :
    Except StatementError Statement := do
  o.validate
  let template := Template.compile sql (Server.escapeMode c.server) o.joinBatches
  return .new position (c.errorContext o) template o

def clone (c : Connection σ) (position : Nat) (st : Statement) :
    Except StatementError Statement := do
  st.guardOpen
  return { Statement.new position (c.errorContext st.options) st.template st.options with
    cache := st.cache }

end Connection
end SqlStatement
