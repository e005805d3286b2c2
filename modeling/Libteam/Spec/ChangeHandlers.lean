import Libteam.Spec.Handle

/-!
# `Libteam.Spec.ChangeHandlers`: pending categories and change handlers

`libteam.c:227-314`. The registries mark a category pending with
`set_call_change_handlers`; `check_call_change_handlers(th, mask)` calls every registered
handler whose interest mask meets the pending categories of `mask`, then clears `mask`.
Handlers are registered by pointer: `team_change_handler_register` refuses a pointer
already in the list, `team_change_handler_unregister` ignores one that is not.

A handler's invocation is recorded in the trace with the mask it receives. What the
callback itself does is not modelled: it is taken not to call back into the handle.
-/

set_option autoImplicit false

namespace Libteam

/-- `set_call_change_handlers`. -/
def setCallChangeHandlers (setTypeMask : TeamChangeTypeMask) (th : TeamHandle) :
    TeamHandle :=
  { th with pendingTypeMask := th.pendingTypeMask ||| setTypeMask }

/-- The body of the loop of `check_call_change_handlers` for the handler of one item: the
call it makes, if `item_type_mask` is nonzero. -/
def handlerCall (toCallTypeMask : TeamChangeTypeMask) (handler : TeamChangeHandler) :
    Option (TeamChangeHandler × TeamChangeTypeMask) :=
  let itemTypeMask := handler.typeMask &&& toCallTypeMask
  if itemTypeMask ≠ 0 then some (handler, itemTypeMask) else none

/-- `check_call_change_handlers`. -/
def checkCallChangeHandlers (callTypeMask : TeamChangeTypeMask) (th : TeamHandle) :
    TeamHandle :=
  let toCallTypeMask := th.pendingTypeMask &&& callTypeMask
  { th with
    pendingTypeMask := th.pendingTypeMask &&& ~~~callTypeMask
    trace := th.trace ++
      [.check callTypeMask
        ((th.changeHandlerList.map (·.val)).filterMap (handlerCall toCallTypeMask))] }

/-- `find_change_handler`: the first item holding `handler`, by pointer. -/
def findChangeHandler (th : TeamHandle) (handler : TeamChangeHandler) :
    Option (Node TeamChangeHandler) :=
  th.changeHandlerList.find? (fun it => it.val.ptr == handler.ptr)

/-- `team_change_handler_register`, with its return value. -/
def teamChangeHandlerRegister (oom : Nat → Bool) (handler : TeamChangeHandler)
    (th : TeamHandle) : Int × TeamHandle :=
  if (findChangeHandler th handler).isSome then (-EEXIST, th)
  else
    match th.heap.malloc oom with
    | (none, heap) => (-ENOMEM, { th with heap := heap })
    | (some addr, heap) =>
      (0, { th with
        heap := heap
        changeHandlerList := listAdd th.changeHandlerList ⟨addr, handler⟩ })

/-- `team_change_handler_unregister`. -/
def teamChangeHandlerUnregister (handler : TeamChangeHandler) (th : TeamHandle) :
    TeamHandle :=
  match findChangeHandler th handler with
  | none => th
  | some it =>
    { th with
      changeHandlerList := listDel th.changeHandlerList it
      heap := th.heap.free it.addr }

end Libteam
