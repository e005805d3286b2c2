import Libteam.Proofs.Dispatch

/-!
# `Libteam.Proofs.Handlers`: the handler list is an ordered set

The reference for the change-handler list is an ordered set of handlers keyed by pointer
(`refRegister`, `refUnregister`): registering a pointer already present fails with
`-EEXIST` and changes nothing, otherwise the handler goes to the end; unregistering removes
the handler with that pointer, if any.

* `teamChangeHandlerRegister_refines`, `teamChangeHandlerUnregister_refines`: one call
  of the library does what the reference does, when the allocation succeeds and the
  pointers are distinct; both keep the pointers distinct.
* `handlerOps_refine`: over any sequence of calls, the return values and the handler list
  are the reference's, and every dispatch afterwards calls the handlers in the reference
  order, which is registration order.
-/

set_option autoImplicit false

namespace Libteam

/-- A call on the handler list. -/
inductive HandlerOp where
  | register (handler : TeamChangeHandler)
  | unregister (handler : TeamChangeHandler)
  deriving DecidableEq, Repr

/-- The reference `register`: refuse a pointer already present, otherwise append. -/
def refRegister (handler : TeamChangeHandler) (s : List TeamChangeHandler) :
    Int × List TeamChangeHandler :=
  if s.any (·.ptr == handler.ptr) then (-EEXIST, s) else (0, s ++ [handler])

/-- The reference `unregister`: drop the handler with that pointer. -/
def refUnregister (handler : TeamChangeHandler) (s : List TeamChangeHandler) :
    List TeamChangeHandler :=
  s.filter (·.ptr != handler.ptr)

/-- Runs calls on the reference: the return value of each (`none` for `unregister`, which
returns nothing) and the final set. -/
def runRef : List HandlerOp → List TeamChangeHandler → List (Option Int) × List TeamChangeHandler
  | [], s => ([], s)
  | .register h :: ops, s =>
    let (rs, s') := runRef ops (refRegister h s).2
    (some (refRegister h s).1 :: rs, s')
  | .unregister h :: ops, s =>
    let (rs, s') := runRef ops (refUnregister h s)
    (none :: rs, s')

/-- Runs calls on the handle, in the same form. -/
def runHandlerOps (oom : Nat → Bool) :
    List HandlerOp → TeamHandle → List (Option Int) × TeamHandle
  | [], th => ([], th)
  | .register h :: ops, th =>
    let (rs, th') := runHandlerOps oom ops (teamChangeHandlerRegister oom h th).2
    (some (teamChangeHandlerRegister oom h th).1 :: rs, th')
  | .unregister h :: ops, th =>
    let (rs, th') := runHandlerOps oom ops (teamChangeHandlerUnregister h th)
    (none :: rs, th')

theorem findChangeHandler_isSome (th : TeamHandle) (handler : TeamChangeHandler) :
    (findChangeHandler th handler).isSome =
      (th.changeHandlerList.map (·.val)).any (·.ptr == handler.ptr) := by
  simp only [findChangeHandler]
  induction th.changeHandlerList with
  | nil => rfl
  | cons it l ih =>
    simp only [List.find?_cons, List.map_cons, List.any_cons]
    cases it.val.ptr == handler.ptr <;> simp [ih]

/-- Removing the item found by pointer removes exactly the handlers with that pointer,
when pointers are distinct. -/
theorem map_val_erase_find? (l : List (Node TeamChangeHandler)) (p : Nat)
    (hnd : (l.map (·.val.ptr)).Nodup) (it : Node TeamChangeHandler)
    (hit : l.find? (fun it => it.val.ptr == p) = some it) :
    (l.erase it).map (·.val) = (l.map (·.val)).filter (·.ptr != p) := by
  induction l with
  | nil => simp at hit
  | cons x l ih =>
    rw [List.map_cons, List.nodup_cons] at hnd
    rw [List.find?_cons] at hit
    by_cases hx : x.val.ptr = p
    · simp only [hx, beq_self_eq_true, Option.some.injEq] at hit
      subst hit
      -- no other item has the pointer
      have hrest : (l.map (·.val)).filter (·.ptr != p) = l.map (·.val) := by
        refine List.filter_eq_self.mpr fun h hh => ?_
        obtain ⟨y, hy, rfl⟩ := List.mem_map.mp hh
        have : y.val.ptr ≠ x.val.ptr := fun h' => hnd.1 (h' ▸ List.mem_map_of_mem _ hy)
        simpa [← hx] using this
      simp [hx, hrest]
    · have hx' : (x.val.ptr == p) = false := by simpa using hx
      rw [hx'] at hit
      have hp : it.val.ptr = p := by simpa using List.find?_some hit
      have hne : x ≠ it := by rintro rfl; exact hx hp
      rw [List.erase_cons_tail (by simpa using hne), List.map_cons, ih hnd.2 hit]
      simp [hx]

section Refine
variable {oom : Nat → Bool}

/-- Registering keeps the pointers distinct, whatever the allocation does. -/
theorem handlersNodup_register (handler : TeamChangeHandler) (th : TeamHandle)
    (hnd : HandlersNodup th) : HandlersNodup (teamChangeHandlerRegister oom handler th).2 := by
  unfold teamChangeHandlerRegister
  split
  · exact hnd
  rename_i hnew
  rw [findChangeHandler_isSome] at hnew
  split
  · exact hnd
  · simp only [HandlersNodup, listAdd_eq, List.map_append, List.map_cons, List.map_nil,
      List.nodup_append, List.nodup_singleton, List.disjoint_singleton, true_and]
    refine ⟨hnd, fun hmem => hnew ?_⟩
    obtain ⟨it, hit, hp⟩ := List.mem_map.mp hmem
    exact List.any_eq_true.mpr ⟨it.val, List.mem_map_of_mem _ hit, by simp [hp]⟩

/-- With its allocation succeeding, `team_change_handler_register` does what
`refRegister` does, and keeps the pointers distinct. -/
theorem teamChangeHandlerRegister_refines (handler : TeamChangeHandler) (th : TeamHandle)
    (hoom : oom th.heap.next = false) (hnd : HandlersNodup th) :
    ((teamChangeHandlerRegister oom handler th).1,
        (teamChangeHandlerRegister oom handler th).2.changeHandlerList.map (·.val)) =
      refRegister handler (th.changeHandlerList.map (·.val)) ∧
    HandlersNodup (teamChangeHandlerRegister oom handler th).2 := by
  refine ⟨?_, handlersNodup_register handler th hnd⟩
  simp only [teamChangeHandlerRegister, findChangeHandler_isSome, refRegister]
  split
  · rfl
  · simp [Heap.malloc_of_not_oom _ _ hoom]

/-- `team_change_handler_unregister` does what `refUnregister` does when the pointers are
distinct, and keeps them distinct. -/
theorem teamChangeHandlerUnregister_refines (handler : TeamChangeHandler) (th : TeamHandle)
    (hnd : HandlersNodup th) :
    (teamChangeHandlerUnregister handler th).changeHandlerList.map (·.val) =
      refUnregister handler (th.changeHandlerList.map (·.val)) ∧
    HandlersNodup (teamChangeHandlerUnregister handler th) := by
  unfold teamChangeHandlerUnregister
  split
  · rename_i hnone
    refine ⟨(List.filter_eq_self.mpr fun h hh => ?_).symm, hnd⟩
    obtain ⟨it, hit, rfl⟩ := List.mem_map.mp hh
    simpa using (List.find?_eq_none.mp hnone) it hit
  · rename_i it hit
    refine ⟨map_val_erase_find? _ _ hnd it hit, ?_⟩
    exact ((List.erase_sublist _ _).map _).nodup hnd

/-- Over any sequence of register and unregister calls whose allocations succeed, the
library returns what the reference returns and holds the reference's handlers, in its
order; a dispatch afterwards calls them in that order. -/
theorem handlerOps_refine (hoom : ∀ n, oom n = false) (ops : List HandlerOp)
    (th : TeamHandle) (hnd : HandlersNodup th) :
    let th' := (runHandlerOps oom ops th).2
    let ref := runRef ops (th.changeHandlerList.map (·.val))
    (runHandlerOps oom ops th).1 = ref.1 ∧ th'.changeHandlerList.map (·.val) = ref.2 ∧
      ∀ callTypeMask, (checkCallChangeHandlers callTypeMask th').trace = th'.trace ++
        [.check callTypeMask (ref.2.filterMap (handlerCall (th'.pendingTypeMask &&& callTypeMask)))] := by
  suffices h : (runHandlerOps oom ops th).1 = (runRef ops (th.changeHandlerList.map (·.val))).1 ∧
      (runHandlerOps oom ops th).2.changeHandlerList.map (·.val) =
        (runRef ops (th.changeHandlerList.map (·.val))).2 from
    ⟨h.1, h.2, fun c => by simp [checkCallChangeHandlers, h.2]⟩
  induction ops generalizing th with
  | nil => exact ⟨rfl, rfl⟩
  | cons op ops ih =>
    cases op with
    | register h =>
      obtain ⟨hr, hnd'⟩ := @teamChangeHandlerRegister_refines oom h th (hoom _) hnd
      obtain ⟨ih₁, ih₂⟩ := ih _ hnd'
      simp only [runHandlerOps, runRef, ← hr, ih₁, ih₂, and_self]
    | unregister h =>
      obtain ⟨hr, hnd'⟩ := teamChangeHandlerUnregister_refines h th hnd
      obtain ⟨ih₁, ih₂⟩ := ih _ hnd'
      simp only [runHandlerOps, runRef, ← hr, ih₁, ih₂, and_self]

theorem handlerOps_refine_fromTeamAlloc :
    (∀ n, (fun _ => false : Nat → Bool) n = false) ∧ HandlersNodup teamAlloc ∧
    let ops := [HandlerOp.register ⟨1, TEAM_PORT_CHANGE⟩, .register ⟨2, TEAM_ANY_CHANGE⟩,
      .register ⟨1, TEAM_OPTION_CHANGE⟩, .unregister ⟨1, 0⟩]
    let th' := (runHandlerOps (fun _ => false) ops teamAlloc).2
    let ref := runRef ops (teamAlloc.changeHandlerList.map (·.val))
    (runHandlerOps (fun _ => false) ops teamAlloc).1 = ref.1 ∧
      th'.changeHandlerList.map (·.val) = ref.2 ∧
      ∀ callTypeMask, (checkCallChangeHandlers callTypeMask th').trace = th'.trace ++
        [.check callTypeMask
          (ref.2.filterMap (handlerCall (th'.pendingTypeMask &&& callTypeMask)))] :=
  ⟨fun _ => rfl, List.nodup_nil, handlerOps_refine (fun _ => rfl) _ teamAlloc List.nodup_nil⟩

end Refine

end Libteam
