import SqlStatement.Pools
/-!
# Registrations of listeners

Every registration is one of a listener that was made, whatever the listeners do while they are
told.  So a notice reaches as many listeners as there are registrations: `length_names`.
-/
namespace SqlStatement.Pools

def names (ps : Pools) (pool : Nat) : List String :=
  (ps.on pool).filterMap fun i => ps.listeners[i]?.map Listener.name

def WellRegistered (ps : Pools) : Prop :=
  ∀ is ∈ ps.registered, ∀ i ∈ is, i < ps.listeners.length

inductive Changes (ps : Pools) : Pools → Prop
  | same : Changes ps ps
  | created (l : Listener) : Changes ps (ps.create l)
  | registered (pool : Nat) (name : String) : Changes ps (ps.register pool name)
  | unregistered (pool : Nat) (name : String) : Changes ps (ps.unregister pool name)
  | fired (pool : Nat) (notice : Notice) : Changes ps (ps.fire pool notice).1

theorem names_fire (notice : Notice) (ps : Pools) (pool : Nat) :
    ((ps.fire pool notice).2.map fun d => (d.listener, d.notice)) =
      (ps.names pool).map fun name => (name, notice) := by
  rw [deliveries_fire, names, List.map_filterMap]

variable {ps : Pools}

private theorem mem_registered_of_mem_on {pool i : Nat} (h : i ∈ ps.on pool) :
    ∃ is ∈ ps.registered, i ∈ is := by
  unfold on at h
  cases his : ps.registered[pool]? with
  | none =>
    rw [his] at h
    cases h
  | some is =>
    rw [his] at h
    exact ⟨is, List.mem_of_getElem? his, h⟩

theorem WellRegistered.length_names (h : ps.WellRegistered) (pool : Nat) :
    (ps.names pool).length = (ps.on pool).length := by
  apply List.filterMap_length_eq_length.2
  intro i hi
  obtain ⟨is, his, hi⟩ := mem_registered_of_mem_on hi
  rw [List.getElem?_eq_getElem (h is his i hi)]
  rfl

theorem names_ne_nil (h : ps.WellRegistered) {pool : Nat} (hon : ps.on pool ≠ []) :
    ps.names pool ≠ [] := by
  rw [← List.length_pos_iff, h.length_names]
  exact List.length_pos_iff.2 hon

@[simp] theorem length_registered_register (ps : Pools) (pool : Nat) (name : String) :
    (ps.register pool name).registered.length = ps.registered.length := by
  unfold register
  split
  · exact List.length_modify _ _ _
  · rfl

@[simp] theorem length_registered_unregister (ps : Pools) (pool : Nat) (name : String) :
    (ps.unregister pool name).registered.length = ps.registered.length := by
  unfold unregister
  split
  · exact List.length_modify _ _ _
  · rfl

private theorem lt_of_named? {name : String} {i : Nat} (h : ps.named? name = some i) :
    i < ps.listeners.length := by
  have hmem := List.mem_of_find?_eq_some h
  rwa [List.mem_reverse, List.mem_range] at hmem

namespace WellRegistered

theorem create (h : ps.WellRegistered) (l : Listener) : (ps.create l).WellRegistered := by
  intro is his i hi
  have hlt := h is his i hi
  simp only [Pools.create, List.length_append]
  omega

theorem modify (h : ps.WellRegistered) {pool : Nat} {f : List Nat → List Nat}
    (hf : ∀ is, ∀ i ∈ f is, i ∈ is ∨ i < ps.listeners.length) :
    WellRegistered { ps with registered := ps.registered.modify pool f } := by
  intro is his i hi
  obtain ⟨j, hj⟩ := List.getElem?_of_mem his
  rw [List.getElem?_modify] at hj
  obtain ⟨before, hbefore, hsame⟩ := Option.map_eq_some_iff.1 hj
  have hmem := List.mem_of_getElem? hbefore
  by_cases hpool : pool = j
  · rw [if_pos hpool] at hsame
    obtain hi | hi := hf before i (hsame ▸ hi)
    · exact h before hmem i hi
    · exact hi
  · rw [if_neg hpool] at hsame
    exact h before hmem i (hsame ▸ hi)

theorem register (h : ps.WellRegistered) (pool : Nat) (name : String) :
    (ps.register pool name).WellRegistered := by
  unfold Pools.register
  split
  · next i hi =>
    apply h.modify
    intro is j hj
    obtain hj | hj := List.mem_append.1 hj
    · exact .inl hj
    · obtain rfl := List.mem_singleton.1 hj
      exact .inr (lt_of_named? hi)
  · exact h

theorem unregister (h : ps.WellRegistered) (pool : Nat) (name : String) :
    (ps.unregister pool name).WellRegistered := by
  unfold Pools.unregister
  split
  · exact h.modify fun is j hj => .inl ((List.mem_filter.1 hj).1)
  · exact h

theorem deliver (h : ps.WellRegistered) (notice : Notice) (i : Nat) :
    (ps.deliver notice i).1.WellRegistered := by
  unfold Pools.deliver
  split
  · exact h
  · next l hl =>
    have hheard : WellRegistered { ps with
        listeners := ps.listeners.set i { l with heard := l.heard + 1 } } := by
      intro is his j hj
      rw [List.length_set]
      exact h is his j hj
    have hadds {qs : Pools} (hqs : qs.WellRegistered) :
        (l.adds.elim qs (qs.register l.pool)).WellRegistered := by
      cases l.adds with
      | none => exact hqs
      | some name => exact hqs.register l.pool name
    have hremoves {qs : Pools} (hqs : qs.WellRegistered) :
        (l.removes.elim qs (qs.unregister l.pool)).WellRegistered := by
      cases l.removes with
      | none => exact hqs
      | some name => exact hqs.unregister l.pool name
    exact hremoves (hadds hheard)

theorem deliverAll (h : ps.WellRegistered) (notice : Notice) (is : List Nat) :
    (ps.deliverAll notice is).1.WellRegistered := by
  induction is generalizing ps with
  | nil => exact h
  | cons i is ih => exact ih (h.deliver notice i)

theorem next {ps' : Pools} (h : ps.WellRegistered) (hchanges : ps.Changes ps') :
    ps'.WellRegistered := by
  cases hchanges with
  | same => exact h
  | created l => exact h.create l
  | registered pool name => exact h.register pool name
  | unregistered pool name => exact h.unregister pool name
  | fired pool notice => exact h.deliverAll notice _

end WellRegistered
end SqlStatement.Pools
