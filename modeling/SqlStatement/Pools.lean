/-!
# Pools and listeners

A pool tells its listeners about closed statements.  Listeners are told in the order in which
they were registered, and those registered while the telling goes on wait for the next notice:
`deliveries_fire`.
-/
namespace SqlStatement

/-- A listener for closed statements.  Each time it is told it adds and then removes the
listeners of the given names on its own pool. -/
structure Listener where
  name : String
  pool : Nat
  adds : Option String
  removes : Option String
  heard : Nat := 0
deriving DecidableEq, Repr

structure Notice where
  sql : String
  threadId : Nat
deriving DecidableEq, Repr

structure Delivery where
  listener : String
  notice : Notice
  /-- How many notices the listener has had, this one included. -/
  heard : Nat
deriving DecidableEq, Repr

structure Pools where
  /-- The listeners registered on each pool, in order; one may be registered several times. -/
  registered : List (List Nat)
  listeners : List Listener := []
deriving DecidableEq, Repr

namespace Pools

def ofCount (n : Nat) : Pools :=
  { registered := List.replicate n [] }

def on (ps : Pools) (pool : Nat) : List Nat :=
  ps.registered[pool]?.getD []

def create (ps : Pools) (l : Listener) : Pools :=
  { ps with listeners := ps.listeners ++ [l] }

def named? (ps : Pools) (name : String) : Option Nat :=
  (List.range ps.listeners.length).reverse.find? fun i =>
    (ps.listeners[i]?.map Listener.name) == some name

/-- Registers the listener of a name once more; an unknown name does nothing. -/
def register (ps : Pools) (pool : Nat) (name : String) : Pools :=
  match ps.named? name with
  | some i => { ps with registered := ps.registered.modify pool (· ++ [i]) }
  | none => ps

def unregister (ps : Pools) (pool : Nat) (name : String) : Pools :=
  match ps.named? name with
  | some i => { ps with registered := ps.registered.modify pool fun is => is.filter (· != i) }
  | none => ps

def deliver (notice : Notice) (ps : Pools) (position : Nat) : Pools × List Delivery :=
  match ps.listeners[position]? with
  | none => (ps, [])
  | some l =>
    let heard := l.heard + 1
    let ps := { ps with listeners := ps.listeners.set position { l with heard } }
    let ps := l.adds.elim ps (ps.register l.pool)
    let ps := l.removes.elim ps (ps.unregister l.pool)
    (ps, [⟨l.name, notice, heard⟩])

def deliverAll (notice : Notice) : Pools → List Nat → Pools × List Delivery
  | ps, [] => (ps, [])
  | ps, i :: is =>
    let (ps, first) := ps.deliver notice i
    let (ps, others) := ps.deliverAll notice is
    (ps, first ++ others)

/-- Tells all listeners that are registered on a pool when the telling starts. -/
def fire (ps : Pools) (pool : Nat) (notice : Notice) : Pools × List Delivery :=
  ps.deliverAll notice (ps.on pool)

def listing (ps : Pools) (pool : Nat) : String :=
  "PooledConnection \x7b listeners: " ++ toString (ps.on pool).length ++ " \x7d"

@[simp] theorem listeners_register (ps : Pools) (pool : Nat) (name : String) :
    (ps.register pool name).listeners = ps.listeners := by
  unfold register
  split <;> rfl

@[simp] theorem listeners_unregister (ps : Pools) (pool : Nat) (name : String) :
    (ps.unregister pool name).listeners = ps.listeners := by
  unfold unregister
  split <;> rfl

private theorem name_deliver (notice : Notice) (ps : Pools) (i j : Nat) :
    (ps.deliver notice i).1.listeners[j]?.map Listener.name =
      ps.listeners[j]?.map Listener.name := by
  unfold deliver
  split
  · rfl
  · next l hl =>
    have hadds : ∀ q : Pools, (l.adds.elim q (q.register l.pool)).listeners = q.listeners :=
      fun q => by cases l.adds <;> simp
    have hremoves : ∀ q : Pools,
        (l.removes.elim q (q.unregister l.pool)).listeners = q.listeners :=
      fun q => by cases l.removes <;> simp
    simp only [hremoves, hadds, List.getElem?_set]
    split
    · next hij =>
      subst hij
      split <;> simp_all
    · rfl

private theorem deliveries_deliver (notice : Notice) (ps : Pools) (i : Nat) :
    ((ps.deliver notice i).2.map fun d => (d.listener, d.notice)) =
      ((ps.listeners[i]?.map Listener.name).map fun name => (name, notice)).toList := by
  unfold deliver
  split <;> simp_all

private theorem deliveries_deliverAll (notice : Notice) (ps : Pools) (is : List Nat) :
    ((ps.deliverAll notice is).2.map fun d => (d.listener, d.notice)) =
      is.filterMap fun i =>
        (ps.listeners[i]?.map Listener.name).map fun name => (name, notice) := by
  induction is generalizing ps with
  | nil => rfl
  | cons i is ih =>
    have h := ih (ps.deliver notice i).1
    simp only [name_deliver] at h
    simp only [deliverAll, List.map_append, h, deliveries_deliver, List.filterMap_cons]
    cases ps.listeners[i]? <;> rfl

theorem deliveries_fire (notice : Notice) (ps : Pools) (pool : Nat) :
    ((ps.fire pool notice).2.map fun d => (d.listener, d.notice)) =
      (ps.on pool).filterMap fun i =>
        (ps.listeners[i]?.map Listener.name).map fun name => (name, notice) :=
  deliveries_deliverAll notice ps (ps.on pool)

end Pools
end SqlStatement
